import HomeAutomation.Node.Handling
import HomeAutomation.Node.Identity

/-!
# Power failures

The image is written byte by byte over the one before it, and the power may go in the
middle.  What the next start finds then begins like the new image and goes on like the
old one.

Where the two images store the same functions, their settings lie at the same addresses,
and each byte of the configuration is a new or an old one.  The id has one byte, so it is
never torn; only the first image of all is dangerous, whose first byte makes the bytes
behind it count.

## Main definitions

* `torn k before after` — the memory when the power goes after `k` bytes.
* `place` — where the settings of a channel lie.
* `Layout` — a memory that holds the configuration of a node.
* `PowerEvent`, `powerStep` — a node whose power may fail at any byte.

## Main results

* `layout_saveModules`, `boot_of_layout` — the image, by its addresses.
* `boot_torn_save` — **a start behind an interrupted save**, byte by byte.
* `deviceId_of_power_failures` — **the id changes only on command**, whenever the power
  fails.

## References

`stm8/can_node/module.c`, `sysinfo.c`, `eestream.c`.
-/

namespace HomeAutomation
namespace Node

open ByteStream

/-! ### Interrupted writing -/

/-- The memory when the power goes after `k` bytes have been programmed, from the first
address on. -/
def torn (k : ℕ) (before after : ℕ → UInt8) : ℕ → UInt8 := fun i =>
  if i < k then after i else before i

/-- **That is what an interrupted save leaves.** -/
theorem torn_saveModules (inputs : Inputs) (n : Node) (k : ℕ) :
    torn k n.eeprom (n.saveModules inputs).eeprom
      = ((ByteStream.mk n.eeprom 0).writeBytes ((n.image inputs).take k)).memory := by
  funext i
  rw [memory_writeBytes_take, saveModules_eeprom]
  simp [torn]

/-! ### The image by its addresses -/

/-- The number of bytes that a module stores. -/
def storedLength : Option FunctionModule → ℕ
  | some .switch => 3
  | some .button => 1
  | some .analog => 5
  | some .ds18b20 => 0
  | none => 0

/-- Where the settings of a channel lie: behind the header, the id, the label, the function
numbers, and the settings of the channels before it. -/
def place (modules : Channel → Option FunctionModule) (c : Channel) : ℕ :=
  14 + ((channels.take c.val).map fun d => storedLength (modules d)).sum

theorem length_channelImage (inputs : Inputs) (n : Node) (c : Channel) :
    (n.channelImage inputs c).length = storedLength (n.channelModules c) := by
  unfold channelImage
  cases n.channelModules c with
  | none => rfl
  | some m => cases m <;> rfl

/-- **The memory holds the configuration of a node**, each part at its address. -/
structure Layout (m : ℕ → UInt8) (n : Node) : Prop where
  header : m 0 = header
  deviceId : m 1 = n.deviceId
  label : ∀ i : Fin 8, m (2 + i) = n.label i
  moduleIds : ∀ c : Channel, m (10 + c) = n.moduleIds c
  switchConfig : ∀ c, n.channelModules c = some .switch →
    m (place n.channelModules c) = (n.switches c).config
  offDelayHigh : ∀ c, n.channelModules c = some .switch →
    m (place n.channelModules c + 1) = Word16.high (n.switches c).offDelay
  offDelayLow : ∀ c, n.channelModules c = some .switch →
    m (place n.channelModules c + 2) = Word16.low (n.switches c).offDelay
  buttonConfig : ∀ c, n.channelModules c = some .button →
    m (place n.channelModules c) = (n.buttons c).config

theorem channels_eq_finRange : channels = List.finRange 4 := by decide

/-- The image ahead of the first address, by its parts. -/
theorem ahead_image_iff {m : ℕ → UInt8} {inputs : Inputs} {n : Node} :
    Ahead ⟨m, 0⟩ (n.image inputs) ↔ m 0 = header ∧ m 1 = n.deviceId ∧
      (∀ i : Fin 8, m (2 + i) = n.label i) ∧ (∀ c : Channel, m (10 + c) = n.moduleIds c) ∧
      ∀ c, Ahead ⟨m, place n.channelModules c⟩ (n.channelImage inputs c) := by
  have hids : Ahead ⟨m, 10⟩ (channels.map n.moduleIds) ↔
      ∀ c : Channel, m (10 + c) = n.moduleIds c := by
    rw [channels_eq_finRange, ahead_finRange_iff]
  have hsettings : Ahead ⟨m, 14⟩ (channels.flatMap (n.channelImage inputs)) ↔
      ∀ c, Ahead ⟨m, place n.channelModules c⟩ (n.channelImage inputs c) := by
    rw [channels_eq_finRange, ahead_flatMap_finRange_iff]
    simp only [length_channelImage]
    rfl
  unfold image
  rw [Ahead, Ahead, ahead_append, ahead_append, ahead_finRange_iff, List.length_map,
    List.length_finRange, List.length_map]
  exact and_congr_right fun _ => and_congr_right fun _ => and_congr_right fun _ =>
    and_congr hids hsettings

/-- **Saving lays the configuration out.** -/
theorem layout_saveModules (inputs : Inputs) (n : Node) :
    Layout (n.saveModules inputs).eeprom n := by
  -- the save writes the image from the start of the memory
  have hahead := ahead_writeBytes ⟨n.eeprom, 0⟩ (n.image inputs)
  rw [← saveModules_eeprom] at hahead
  -- each channel's bytes lie where the image of the channels before it ends
  rcases ahead_image_iff.mp hahead with ⟨hheader, hdevice, hlabel, hids, hsettings⟩
  have hswitch : ∀ c, n.channelModules c = some .switch → Ahead
      ⟨(n.saveModules inputs).eeprom, place n.channelModules c⟩
      ((n.switches c).config :: bytesOf (n.switches c).offDelay) := by
    intro c hc
    have hc' := hsettings c
    unfold channelImage at hc'
    rwa [hc] at hc'
  refine ⟨hheader, hdevice, hlabel, hids, fun c hc => (hswitch c hc).1,
    fun c hc => (hswitch c hc).2.1, fun c hc => (hswitch c hc).2.2.1, fun c hc => ?_⟩
  have hc' := hsettings c
  unfold channelImage at hc'
  rw [hc] at hc'
  exact hc'.1

/-- What a memory says about a node with the functions of `n`. -/
def decoded (m : ℕ → UInt8) (n : Node) : Node :=
  { n with
    deviceId := m 1
    label := fun i => m (2 + i)
    switches := fun c => {
      config := m (place n.channelModules c)
      offDelay := Word16.join (m (place n.channelModules c + 1)) (m (place n.channelModules c + 2)) }
    buttons := fun c => { config := m (place n.channelModules c) }
    analogSensors := fun c => {
      rangeMax := Word16.join (m (place n.channelModules c)) (m (place n.channelModules c + 1)) } }

/-- **The loader reads each setting at its address**, whatever else the memory holds. -/
theorem boot_eq_decoded {n n₀ : Node} (hn₀ : n₀.Consistent) (hheader : n.eeprom 0 = header)
    (hids : ∀ c : Channel, n.eeprom (10 + c) = n₀.moduleIds c) (inputs : Inputs) :
    ∃ n', n.boot inputs = .ok n' ∧ n'.identity = (decoded n.eeprom n₀).identity ∧
      n'.moduleIds = n₀.moduleIds ∧ ∀ c, Restored (decoded n.eeprom n₀) n' c := by
  have hdecoded : (decoded n.eeprom n₀).Consistent := hn₀
  apply loadModules_of_ahead hdecoded (consistent_reset n) (fun _ => rfl) _ inputs
  -- the bytes that an analog channel does not write are whatever they are
  · exact { Inputs.idle with
      stack := fun c i => n.eeprom (place n₀.channelModules c + 2 + i) }
  · apply ahead_image_iff.mpr
    refine ⟨hheader, rfl, fun _ => rfl, hids, fun c => ?_⟩
    unfold channelImage
    cases hc : (decoded n.eeprom n₀).channelModules c with
    | none => trivial
    | some m =>
      cases m with
      | switch =>
        refine ⟨rfl, ?_, ?_, trivial⟩
        · exact (Word16.high_join _ _).symm
        · exact (Word16.low_join _ _).symm
      | button => exact ⟨rfl, trivial⟩
      | analog =>
        refine ⟨?_, ?_, rfl, rfl, rfl, trivial⟩
        · exact (Word16.high_join _ _).symm
        · exact (Word16.low_join _ _).symm
      | ds18b20 => trivial

/-! ### A start behind an interrupted save -/

/-- The node whose byte is found at an address, when a save of `n` over the image of `n₀`
was cut after `k` bytes. -/
def heldAt (k : ℕ) (n₀ n : Node) (i : ℕ) : Node := if i < k then n else n₀

/-- A byte of the torn image comes from one of the two. -/
theorem torn_of_layout (n₀ : Node) {n : Node} {inputs : Inputs} {k i : ℕ} {f : Node → UInt8}
    (hold : n.eeprom i = f n₀) (hnew : (n.saveModules inputs).eeprom i = f n) :
    torn k n.eeprom (n.saveModules inputs).eeprom i = f (heldAt k n₀ n i) := by
  unfold torn heldAt
  split
  · exact hnew
  · exact hold

/-- **A start behind an interrupted save**, where the functions are those of the image
before: the id, each byte of the label, each configuration and each of the two bytes of an
off-delay is that of the new configuration if its address lies before the cut, and else
the old one. -/
theorem boot_torn_save {n₀ n : Node} (hn₀ : n₀.Reachable) (hn : n.Reachable)
    (hheld : Layout n.eeprom n₀) (hsame : n₀.moduleIds = n.moduleIds) (inputs inputs' : Inputs)
    (k : ℕ) :
    ∃ n', Node.boot inputs' { n with eeprom := torn k n.eeprom (n.saveModules inputs).eeprom }
        = .ok n' ∧
      n'.deviceId = (heldAt k n₀ n 1).deviceId ∧
      (∀ i : Fin 8, n'.label i = (heldAt k n₀ n (2 + i)).label i) ∧
      n'.moduleIds = n.moduleIds ∧
      (∀ c, n.channelModules c = some .switch →
        (n'.switches c).config = ((heldAt k n₀ n (place n.channelModules c)).switches c).config ∧
        (n'.switches c).offDelay = Word16.join
          (Word16.high ((heldAt k n₀ n (place n.channelModules c + 1)).switches c).offDelay)
          (Word16.low ((heldAt k n₀ n (place n.channelModules c + 2)).switches c).offDelay)) ∧
      ∀ c, n.channelModules c = some .button →
        (n'.buttons c).config
          = ((heldAt k n₀ n (place n.channelModules c)).buttons c).config := by
  -- the functions are the same before and after, so every place is
  have hmodules : n₀.channelModules = n.channelModules :=
    channelModules_eq_of_moduleIds hn.consistent hn₀.consistent hsame
  have hnew := layout_saveModules inputs n
  have hheader := torn_of_layout n₀ (k := k) (f := fun _ => header) hheld.header hnew.header
  -- the ids of the modules are the same byte in both images
  have hids : ∀ c : Channel, torn k n.eeprom (n.saveModules inputs).eeprom (10 + c)
      = n.moduleIds c := by
    intro c
    have hold : n.eeprom (10 + c) = n.moduleIds c := hsame ▸ hheld.moduleIds c
    exact torn_of_layout n₀ (k := k) (f := fun _ => n.moduleIds c) hold (hnew.moduleIds c)
  rcases boot_eq_decoded (n := { n with
      eeprom := torn k n.eeprom (n.saveModules inputs).eeprom }) hn.consistent hheader hids inputs'
    with ⟨n', hboot, hidentity, hids', hrestored⟩
  rcases Prod.mk.inj hidentity with ⟨hdevice, hlabel⟩
  refine ⟨n', hboot, ?_, fun i => ?_, hids', fun c hc => ?_, fun c hc => ?_⟩
  · rw [hdevice]
    exact torn_of_layout n₀ (f := fun n => n.deviceId) hheld.deviceId hnew.deviceId
  · rw [hlabel]
    exact torn_of_layout n₀ (f := fun n => n.label i) (hheld.label i) (hnew.label i)
  -- the two bytes of the delay can come from different images
  · rcases (hrestored c).switch hc with ⟨hconfig, hdelay⟩
    have hc₀ : n₀.channelModules c = some .switch := hmodules ▸ hc
    have hconfig₀ := hheld.switchConfig c hc₀
    have hhigh₀ := hheld.offDelayHigh c hc₀
    have hlow₀ := hheld.offDelayLow c hc₀
    rw [hmodules] at hconfig₀ hhigh₀ hlow₀
    constructor
    · rw [hconfig]
      exact torn_of_layout n₀ (f := fun n => (n.switches c).config) hconfig₀ (hnew.switchConfig c hc)
    · rw [hdelay]
      refine congrArg₂ Word16.join ?_ ?_
      · exact torn_of_layout n₀ (f := fun n => Word16.high (n.switches c).offDelay) hhigh₀
          (hnew.offDelayHigh c hc)
      · exact torn_of_layout n₀ (f := fun n => Word16.low (n.switches c).offDelay) hlow₀
          (hnew.offDelayLow c hc)
  · have hc₀ : n₀.channelModules c = some .button := hmodules ▸ hc
    have hconfig₀ := hheld.buttonConfig c hc₀
    rw [hmodules] at hconfig₀
    rw [(hrestored c).button hc]
    exact torn_of_layout n₀ (f := fun n => (n.buttons c).config) hconfig₀ (hnew.buttonConfig c hc)

/-- A frame that sets the off-delay of channel 3 to 515. -/
def sampleFrame : CanFrame where
  extended := true
  id := packetIdToNumber ⟨0, 7, 0x8302⟩
  rtr := false
  dlc := 2
  data i := if i = 0 then 2 else 3

/-- The power goes between the two bytes of the off-delay that the frame has set: 300 was
there, and 556 comes of both. -/
theorem boot_torn_save_sample : ∃ n₀ n n', (blank sampleEeprom).boot .idle = .ok n₀ ∧
    n₀.step (.frame sampleFrame, .idle) = some n ∧ (n.switches 3).offDelay = 515 ∧
    Node.boot .idle { n with eeprom := torn 22 n.eeprom (n.saveModules .idle).eeprom } = .ok n' ∧
    (n'.switches 3).offDelay = 556 := by
  have hstart : ∃ n₀, (blank sampleEeprom).boot .idle = .ok n₀ ∧ Layout n₀.eeprom n₀ ∧
      (n₀.switches 3).offDelay = 300 ∧
      ∃ n, n₀.step (.frame sampleFrame, .idle) = some n ∧ n.eeprom = n₀.eeprom ∧
        n₀.moduleIds = n.moduleIds ∧ n.channelModules 3 = some .switch ∧
        place n.channelModules 3 = 20 ∧ (n.switches 3).offDelay = 515 := by
    refine ⟨_, rfl, ⟨rfl, rfl, ?_, ?_, ?_, ?_, ?_, ?_⟩, ?_, _, rfl, rfl, rfl, rfl, rfl, ?_⟩ <;> decide
  rcases hstart with ⟨n₀, hboot, hlayout, hdelay₀, n, hstep, heeprom, hids, hswitch, hplace, hdelay⟩
  have hn₀ : n₀.Reachable := .init ⟨_, _, hboot⟩
  have hlayout : Layout n.eeprom n₀ := heeprom ▸ hlayout
  rcases boot_torn_save hn₀ (.step _ hn₀ hstep) hlayout hids .idle .idle 22 with
    ⟨n', hboot', -, -, -, hswitches, -⟩
  refine ⟨n₀, n, n', hboot, hstep, hdelay, hboot', ?_⟩
  rw [(hswitches 3 hswitch).2, hplace, heldAt, heldAt, if_pos (by omega), if_neg (by omega),
    hdelay, hdelay₀]
  decide

/-! ### Runs with power failures -/

/-- What happens to a node whose power may fail. -/
inductive PowerEvent
  /-- An event that is handled. -/
  | done (e : Event × Inputs)
  /-- The power goes in the handling of an event, when `k` bytes have been programmed, and
  comes back. -/
  | cut (e : Event × Inputs) (k : ℕ) (inputs : Inputs)

/-- The event that is handled, or is not handled to its end. -/
def PowerEvent.event : PowerEvent → Event
  | .done e => e.1
  | .cut e _ _ => e.1

/-- **One step of a node whose power may fail.** -/
def powerStep (n : Node) : PowerEvent → Option Node
  | .done e => n.step e
  | .cut e k inputs => do
    let n' ← n.step e
    (Node.boot inputs { n with eeprom := torn k n.eeprom n'.eeprom }).toOption

/-- The EEPROM is left alone, or an image has been written. -/
def Programs (n n' : Node) : Prop := n'.eeprom = n.eeprom ∨ n'.eeprom 0 = header

theorem programs_saveModules (inputs : Inputs) (n n' : Node) : Programs n (n'.saveModules inputs) :=
  .inr (layout_saveModules inputs n').header

theorem eeprom_boot {inputs : Inputs} {n n' : Node} (h : n.boot inputs = .ok n') :
    n'.eeprom = n.eeprom := by
  apply boot_rule (I := fun n' => n'.eeprom = n.eeprom) (J := fun n' => n'.eeprom = n.eeprom) h rfl
  · exact fun _ _ _ h => h
  · intro c f n₁ n₂ hn hset
    rcases setChannel_control hset with ⟨m, -, hcontrol⟩
    exact (congrArg Control.eeprom hcontrol).trans hn
  · exact fun _ h => h
  · intro c m n₁ stream r hn _ hload
    exact (congrArg Control.eeprom (untouched_onLoad hload).control).trans hn

theorem programs_write {inputs : Inputs} {address length : UInt8} {data : Fin 8 → UInt8}
    {n n' : Node} {target : Target} (h : n.write inputs address length data target = .ok n') :
    Programs n n' := by
  -- the label is saved with all the rest
  cases target with
  | sysinfo =>
    cases h
    unfold sysinfoWrite
    split
    · exact programs_saveModules inputs n _
    · exact .inl rfl
  | proto =>
    have h : n.protoWrite inputs address length data = .ok n' := h
    unfold protoWrite at h
    split at h
    -- the command to save, a place that is no register, a function that is refused or taken
    · cases h
      exact programs_saveModules inputs n n
    · split at h
      · cases h
        exact .inl rfl
      · split at h
        · cases h
          exact .inl rfl
        · rcases setChannel_control h with ⟨m, -, hcontrol⟩
          exact .inl (congrArg Control.eeprom hcontrol)
  | function c m =>
    cases h
    exact .inl (congrArg Control.eeprom (untouched_onWrite inputs c address length data _ m).control)

theorem programs_handlePacket {inputs : Inputs} {rtr : Bool} {address : UInt16} {length : UInt8}
    {data : Fin 8 → UInt8} {n n' : Node}
    (h : n.handlePacket inputs rtr address length data = .ok n') : Programs n n' := by
  unfold handlePacket at h
  split at h
  · cases h
    exact .inl rfl
  · next target htarget =>
    split at h
    · cases h
      rcases request_eq inputs (addressLo address) n target with ⟨sent, calls, h⟩
      rw [h]
      exact .inl rfl
    · exact programs_write h

/-- **No event writes anything but an image.** -/
theorem programs_step {n n' : Node} {e : Event × Inputs} (h : n.step e = some n') :
    Programs n n' := by
  rcases e with ⟨event, inputs⟩
  have h : n.handle inputs event = .ok n' := handle_eq_ok_of_step h
  cases event with
  | tick =>
    -- no module writes the memory in a tick
    left
    apply timerChannels_rule (I := fun n' => n'.eeprom = n.eeprom) _ h rfl
    intro c m n₁ n₂ hn _ htimer
    exact (congrArg Control.eeprom (untouched_onTimer htimer).control).trans hn
  | powerCycle => exact .inl (eeprom_boot h)
  | frame frame =>
    cases handleReceivedData_reception inputs frame n with
    | standard hextended hr =>
      cases h.symm.trans hr
      exact .inl rfl
    | dropped hextended hcheck hr =>
      cases h.symm.trans hr
      exact .inl rfl
    | idRequest hextended hrtr hid hr =>
      cases h.symm.trans hr
      exact .inl rfl
    -- the change of the id saves everything, the header too
    | idChange hextended hrtr hid hlength hold hr =>
      right
      rw [eeprom_boot (hr.symm.trans h)]
      exact (layout_saveModules inputs _).header
    | own hextended hlength hid haddressed hr =>
      exact programs_handlePacket (n := n.receiving frame) (hr.symm.trans h)

/-- The id that a start finds behind a cut. -/
theorem storedId_torn (k : ℕ) (before after : ℕ → UInt8) :
    storedId (torn k before after) = match k with
      | 0 => storedId before
      | 1 => if after 0 = header then before 1 else 0xff
      | _ + 2 => storedId after := by
  match k with
  | 0 => rfl
  | 1 => rfl
  | k + 2 =>
    unfold storedId torn
    simp

/-- A frame tells the node the id that it has afterwards. -/
def Told (n : Node) (e : PowerEvent) (n' : Node) : Prop :=
  ∃ frame, e.event = .frame frame ∧ n.ChangesId frame ∧ n'.deviceId = frame.payload 1

/-- The power goes behind the first byte of the first image. -/
def TearsFirst (n : Node) (e : PowerEvent) : Prop :=
  n.eeprom 0 ≠ header ∧ ∃ e' inputs, e = .cut e' 1 inputs

/-- **One step**: the id stays, or a frame has told it. -/
theorem Stored.powerStep {n n' : Node} {e : PowerEvent} (hn : n.Stored)
    (h : n.powerStep e = some n') :
    n'.Stored ∧ (n'.deviceId = n.deviceId ∨ n.Told e n' ∨ n.TearsFirst e) := by
  cases e with
  | done e =>
    rcases hn.step h with ⟨hstored, hid | ⟨frame, he, hchanges, hid⟩⟩
    · exact ⟨hstored, .inl hid⟩
    · exact ⟨hstored, .inr (.inl ⟨frame, he, hchanges, hid⟩)⟩
  | cut e k inputs =>
    rcases Option.bind_eq_some_iff.mp h with ⟨m, hm, h⟩
    have hboot : Node.boot inputs { n with eeprom := torn k n.eeprom m.eeprom } = .ok n' := by
      cases hresult : Node.boot inputs { n with eeprom := torn k n.eeprom m.eeprom } with
      | error fault =>
        rw [hresult] at h
        cases h
      | ok result =>
        rw [hresult] at h
        cases h
        rfl
    rcases stored_boot hboot with ⟨hstored, hid⟩
    refine ⟨hstored, ?_⟩
    have hid : n'.deviceId = storedId (torn k n.eeprom m.eeprom) := hid
    rw [storedId_torn] at hid
    match k with
    -- not even the header is written, so the id is the old one
    | 0 => exact .inl (hid.trans hn.symm)
    | 1 =>
      by_cases hheader : n.eeprom 0 = header
      · -- the header is there before and after, and the id is the old one
        left
        have hafter : m.eeprom 0 = header := by
          rcases programs_step hm with hsame | hafter
          · rwa [hsame]
          · exact hafter
        have hold : n.deviceId = n.eeprom 1 := hn.trans (if_pos hheader)
        rw [hid, hold]
        exact if_pos hafter
      · exact .inr (.inr ⟨hheader, e, inputs, rfl⟩)
    -- header and id are both written, so the id is the new one
    | k + 2 =>
      rcases hn.step hm with ⟨hstored', hid' | ⟨frame, he, hchanges, hid'⟩⟩
      · exact .inl ((hid.trans hstored'.symm).trans hid')
      · exact .inr (.inl ⟨frame, he, hchanges, (hid.trans hstored'.symm).trans hid'⟩)

/-- **The id changes only on command**, in every run of frames, ticks and power failures at
any byte of any save, but for a failure behind the first byte of the first image that the
EEPROM ever gets. -/
theorem deviceId_of_power_failures {n : Node} (hn : Started n) (es : List PowerEvent) :
    ∀ t ∈ Run.trace powerStep n es, t.2.2.deviceId = t.1.deviceId ∨
      t.1.Told t.2.1 t.2.2 ∨ t.1.TearsFirst t.2.1 := by
  rcases hn with ⟨eeprom, inputs, hboot⟩
  exact Run.trace_rule (R := fun n e n' => n'.deviceId = n.deviceId ∨ n.Told e n' ∨ n.TearsFirst e)
    (fun _ _ _ hs h => hs.powerStep h) es n (stored_boot hboot).1

/-- A frame gives device 7 the id 9. -/
def sampleIdChange : CanFrame where
  extended := true
  id := specialIdUpdate
  rtr := false
  dlc := 2
  data i := if i = 0 then 7 else 9

/-- The power goes behind the header, and comes back to a node that keeps the id 7; then it
goes behind the id. -/
theorem deviceId_of_power_failures_sample : ∃ n, (blank sampleEeprom).boot .idle = .ok n ∧
    ∀ t ∈ Run.trace powerStep n [.cut (.frame sampleIdChange, .idle) 1 .idle,
      .cut (.frame sampleIdChange, .idle) 2 .idle], t.2.2.deviceId = t.1.deviceId ∨
      t.1.Told t.2.1 t.2.2 ∨ t.1.TearsFirst t.2.1 := by
  have hstart : ∃ n, (blank sampleEeprom).boot .idle = .ok n := ⟨_, rfl⟩
  rcases hstart with ⟨n, hboot⟩
  exact ⟨n, hboot, deviceId_of_power_failures ⟨_, _, hboot⟩ _⟩

end Node
end HomeAutomation
