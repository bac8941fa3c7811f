import HomeAutomation.Node.Assignment

/-!
# The configuration survives a power cycle

The image in the EEPROM has no tags: where the bytes of a channel lie depends on
what the channels before it store.  The loader reads the function numbers first
and puts the modules in place, so it asks the same modules for the same number of
bytes, in the same order, as the writer did — a module that stores nothing reads
nothing.

## Main definitions

* `image` — what `CAN_Node_save_modules` writes.
* `Restored` — a channel has the settings of its switch or button back.

## Main results

* `saveModules_eeprom` — saving writes the image to the start of the EEPROM.
* `loadFunctions_of_ahead`, `loadChannels_of_ahead` — the two loops of the loader,
  with the image ahead of them.
* `boot_saveModules_restores` — the configuration survives a power cycle.

## References

`stm8/can_node/module.c`, `sysinfo.c`, `mod_switch.c`, `mod_button.c`,
`mod_analog.c`, `eestream.c`.
-/

namespace HomeAutomation
namespace Node

open ByteStream

/-! ### Saving -/

/-- The bytes that the module of a channel stores. -/
def channelImage (inputs : Inputs) (n : Node) (c : Channel) : List UInt8 :=
  match n.channelModules c with
  | some .switch => (n.switches c).config :: bytesOf (n.switches c).offDelay
  | some .button => [(n.buttons c).config]
  | some .analog =>
    bytesOf (n.analogSensors c).rangeMax ++ [inputs.stack c 0, inputs.stack c 1, inputs.stack c 2]
  | some .ds18b20 => []
  | none => []

/-- The image of the configuration. -/
def image (inputs : Inputs) (n : Node) : List UInt8 :=
  header :: n.deviceId :: ((List.finRange 8).map n.label ++
    (channels.map n.moduleIds ++ channels.flatMap (n.channelImage inputs)))

theorem saveChannel_snd (inputs : Inputs) (c : Channel) (n : Node) (stream : ByteStream) :
    (n.saveChannel inputs c stream).2 = stream.writeBytes (n.channelImage inputs c) := by
  unfold saveChannel channelImage
  cases n.channelModules c with
  | none => rfl
  | some m => cases m <;> rfl

theorem saveChannels_snd (inputs : Inputs) (cs : List Channel) (n : Node) (stream : ByteStream) :
    (saveChannels inputs cs n stream).2
      = stream.writeBytes (cs.flatMap (n.channelImage inputs)) := by
  induction cs generalizing n stream with
  | nil => rfl
  | cons c cs ih =>
    -- a turn leaves a trace of its call, which is no part of the image
    have himage :
        (n.saveChannel inputs c stream).1.channelImage inputs = n.channelImage inputs := by
      obtain ⟨calls, h⟩ := saveChannels_fst inputs [c] n stream
      change (n.saveChannel inputs c stream).1 = _ at h
      rw [h]
      rfl
    rw [List.flatMap_cons, writeBytes_append, ← saveChannel_snd, ← himage]
    exact ih _ _

/-- **Saving writes the image to the start of the EEPROM.** -/
theorem saveModules_eeprom (inputs : Inputs) (n : Node) :
    (n.saveModules inputs).eeprom
      = ((ByteStream.mk n.eeprom 0).writeBytes (n.image inputs)).memory := by
  show ((saveChannels inputs channels n _).2).memory = _
  rw [saveChannels_snd, sysinfoSave, image, writeBytes_cons, writeBytes_cons, writeBytes_append,
    writeBytes_append]
  rfl

/-! ### Loading -/

/-- The device id and the label. -/
def identity (n : Node) : UInt8 × (Fin 8 → UInt8) := (n.deviceId, n.label)

/-- `sysinfo_load`, with what `sysinfo_save` wrote ahead of it. -/
theorem sysinfoLoad_of_ahead {n₀ n : Node} {stream : ByteStream} {rest : List UInt8}
    (hahead : stream.Ahead (n₀.deviceId :: ((List.finRange 8).map n₀.label ++ rest))) :
    (n.sysinfoLoad stream).2.Ahead rest ∧ (n.sysinfoLoad stream).1.identity = n₀.identity := by
  obtain ⟨hdevice, hahead⟩ := ahead_cons.mp hahead
  obtain ⟨hahead, hlabel⟩ := readInto_of_ahead (a := n.label) hahead
  refine ⟨hahead, Prod.ext hdevice (funext fun i => ?_)⟩
  obtain hi | ⟨hi, -⟩ := hlabel i
  · exact hi
  · exact absurd (List.mem_finRange i) hi

theorem identity_onInit (c : Channel) (n : Node) (m : FunctionModule) :
    (n.onInit c m).identity = n.identity :=
  congrArg (fun k : Control => (k.deviceId, k.label)) (control_onInit c n m)

/-- On a free channel, a function that exists can always be set up. -/
theorem setChannel_of_free {c : Channel} {functionId : UInt8} {n : Node}
    (hfree : n.channelModules c = none) (hlt : functionId < functionCount) :
    ∃ n', n.setChannel c functionId = .ok n' ∧ n'.identity = n.identity := by
  obtain ⟨f, rfl⟩ := NodeFunction.exists_ofByte_of_lt hlt
  have hrelease : n.releaseChannel c = .ok n := by rw [releaseChannel, hfree]
  have hmodule : functionModules f.toByte = .ok (functionModule f) := by
    rw [functionModules, NodeFunction.ofByte_toByte]
  refine ⟨n.occupyChannel c f.toByte (functionModule f), ?_, ?_⟩
  · rw [setChannel, hrelease, ok_bind, hmodule]
    rfl
  · unfold occupyChannel
    cases functionModule f with
    | none => rfl
    | some m => exact (identity_onInit c _ m).trans rfl

/-- **The loop over the function numbers**, on free channels, with the numbers
ahead of it. -/
theorem loadFunctions_of_ahead {ids : Channel → UInt8} (hids : ∀ c, ids c < functionCount)
    {rest : List UInt8} :
    ∀ {cs : List Channel} {n : Node} {stream : ByteStream}, cs.Nodup →
      (∀ c ∈ cs, n.channelModules c = none) → stream.Ahead (cs.map ids ++ rest) →
      ∃ n' stream', loadFunctions cs n stream = .ok (n', stream') ∧ stream'.Ahead rest ∧
        n'.identity = n.identity ∧ (∀ c ∈ cs, n'.moduleIds c = ids c) ∧
        ∀ c ∉ cs, n'.moduleIds c = n.moduleIds c := by
  intro cs
  induction cs with
  | nil =>
    intro n stream _ _ hahead
    refine ⟨n, stream, rfl, hahead, rfl, ?_, fun _ _ => rfl⟩
    exact fun c hc => absurd hc List.not_mem_nil
  | cons c cs ih =>
    intro n stream hnodup hfree hahead
    obtain ⟨hc, hnodup⟩ := List.nodup_cons.mp hnodup
    obtain ⟨hread, hahead⟩ := ahead_cons.mp hahead
    -- the function of the first channel is taken, since its channel is free
    obtain ⟨n₁, hset, hidentity⟩ :=
      setChannel_of_free (hfree c List.mem_cons_self) (hids c)
    obtain ⟨m, -, htables⟩ := setChannel_assignment hset
    obtain ⟨hids₁, hmodules₁⟩ := Prod.mk.inj htables
    -- the other channels of the loop are still free
    have hfree₁ : ∀ d ∈ cs, n₁.channelModules d = none := by
      intro d hd
      have hdc : d ≠ c := fun h => hc (h ▸ hd)
      rw [hmodules₁, Function.update_of_ne hdc]
      exact hfree d (List.mem_cons_of_mem c hd)
    obtain ⟨n', stream', hload, hrest, hidentity', hin, hout⟩ := ih hnodup hfree₁ hahead
    refine ⟨n', stream', ?_, hrest, hidentity'.trans hidentity, ?_, ?_⟩
    · rw [loadFunctions]
      simp only [hread, if_pos (hids c), hset, ok_bind]
      exact hload
    · intro d hd
      obtain rfl | hd := List.mem_cons.mp hd
      · rw [hout d hc, hids₁, Function.update_self]
      · exact hin d hd
    · intro d hd
      obtain ⟨hdc, hd⟩ := not_or.mp (fun h => hd (List.mem_cons.mpr h))
      rw [hout d hd, hids₁, Function.update_of_ne hdc]

/-- A channel of `n` has the settings that its module had in `n₀`. -/
structure Restored (n₀ n : Node) (c : Channel) : Prop where
  switch : n₀.channelModules c = some .switch →
    (n.switches c).config = (n₀.switches c).config ∧
      (n.switches c).offDelay = (n₀.switches c).offDelay
  button : n₀.channelModules c = some .button →
    (n.buttons c).config = (n₀.buttons c).config

/-- `n'` differs from `n` at most in what belongs to channel `c`: the tables, the
identity, and the settings of the other channels are the same. -/
structure Frame (c : Channel) (n n' : Node) : Prop where
  assignment : n'.assignment = n.assignment
  identity : n'.identity = n.identity
  switches : ∀ d ≠ c, n'.switches d = n.switches d
  buttons : ∀ d ≠ c, n'.buttons d = n.buttons d

theorem Frame.refl (c : Channel) (n : Node) : Frame c n n :=
  ⟨rfl, rfl, fun _ _ => rfl, fun _ _ => rfl⟩

theorem Frame.of_called {c d : Channel} {n n' : Node} {m : FunctionModule} {callback : Callback}
    (h : Frame c (n.called m callback d) n') : Frame c n n' :=
  ⟨h.assignment, h.identity, h.switches, h.buttons⟩

theorem Frame.restored {c d : Channel} {n₀ n n' : Node} (hframe : Frame c n n') (hd : d ≠ c)
    (h : Restored n₀ n d) : Restored n₀ n' d where
  switch := by
    rw [hframe.switches d hd]
    exact h.switch
  button := by
    rw [hframe.buttons d hd]
    exact h.button

/-- Sampling a button changes its state, and not its configuration. -/
theorem buttonSetState_frame (inputs : Inputs) (c : Channel) (n : Node) :
    Frame c n (n.buttonSetState inputs c) ∧
      ((n.buttonSetState inputs c).buttons c).config = (n.buttons c).config := by
  have hset : ∀ state, Frame c n (n.setButton c { n.buttons c with state := state }) ∧
      ((n.setButton c { n.buttons c with state := state }).buttons c).config
        = (n.buttons c).config := by
    intro state
    refine ⟨⟨rfl, rfl, fun _ _ => rfl, fun d hd => Function.update_of_ne hd _ _⟩, ?_⟩
    show (Function.update n.buttons c _ c).config = _
    rw [Function.update_self]
  obtain ⟨state, h | ⟨data, h⟩⟩ := buttonSetState_eq inputs c n
  · rw [h]
    exact hset state
  · rw [h]
    -- the frame that is sent belongs to no channel
    obtain ⟨hframe, hconfig⟩ := hset state
    exact ⟨⟨rfl, rfl, hframe.switches, hframe.buttons⟩, hconfig⟩

/-- A channel that runs neither a switch nor a button has nothing to get back. -/
theorem restored_of_ne {n₀ n : Node} {c : Channel} (hswitch : n₀.channelModules c ≠ some .switch)
    (hbutton : n₀.channelModules c ≠ some .button) : Restored n₀ n c :=
  ⟨fun h => absurd h hswitch, fun h => absurd h hbutton⟩

/-- `switch_load`, with what `switch_save` wrote ahead of it. -/
theorem switchLoad_of_ahead {n₀ n : Node} {c : Channel} {stream : ByteStream} {rest : List UInt8}
    (hc : n₀.channelModules c = some .switch)
    (hahead : stream.Ahead
      (((n₀.switches c).config :: bytesOf (n₀.switches c).offDelay) ++ rest)) :
    (n.switchLoad c stream).2.Ahead rest ∧ Restored n₀ (n.switchLoad c stream).1 c ∧
      Frame c n (n.switchLoad c stream).1 := by
  -- the configuration, then the two bytes of the delay
  obtain ⟨hconfig, hahead⟩ := ahead_cons.mp hahead
  obtain ⟨hhi, hahead⟩ := ahead_cons.mp hahead
  obtain ⟨hlo, hahead⟩ := ahead_cons.mp hahead
  refine ⟨hahead, ⟨fun _ => ?_, fun h => ?_⟩, ⟨rfl, rfl, ?_, fun _ _ => rfl⟩⟩
  · show (Function.update n.switches c _ c).config = _ ∧
      (Function.update n.switches c _ c).offDelay = _
    rw [Function.update_self]
    refine ⟨hconfig, ?_⟩
    show Word16.join stream.readByte.2.readByte.1 stream.readByte.2.readByte.2.readByte.1 = _
    rw [hhi, hlo, Word16.join_high_low]
  · rw [hc] at h
    cases h
  · exact fun d hd => Function.update_of_ne hd _ _

/-- `button_load`, with what `button_save` wrote ahead of it. -/
theorem buttonLoad_of_ahead {n₀ n : Node} {c : Channel} {stream : ByteStream} {rest : List UInt8}
    (hc : n₀.channelModules c = some .button)
    (hahead : stream.Ahead ([(n₀.buttons c).config] ++ rest)) (inputs : Inputs) :
    (n.buttonLoad inputs c stream).2.Ahead rest ∧
      Restored n₀ (n.buttonLoad inputs c stream).1 c ∧
      Frame c n (n.buttonLoad inputs c stream).1 := by
  obtain ⟨hconfig, hahead⟩ := ahead_cons.mp hahead
  obtain ⟨hframe, hkept⟩ := buttonSetState_frame inputs c
    ((n.setButton c ⟨stream.readByte.1, .released⟩).buttonReinit c)
  refine ⟨hahead, ⟨fun h => ?_, fun _ => hkept.trans ?_⟩, ?_⟩
  · rw [hc] at h
    cases h
  · show (Function.update n.buttons c _ c).config = _
    rw [Function.update_self]
    exact hconfig
  · refine ⟨hframe.assignment, hframe.identity, hframe.switches, fun d hd => ?_⟩
    exact (hframe.buttons d hd).trans (Function.update_of_ne hd _ _)

/-- **A turn of the loader reads back what the channel stored**: it takes the
channel's own bytes from the stream, gets the settings of a switch or a button
back, and leaves the other channels alone. -/
theorem loadChannel_of_ahead {inputs : Inputs} {n₀ n : Node} {c : Channel} {stream : ByteStream}
    {rest : List UInt8} (hc : n.channelModules c = n₀.channelModules c)
    (hahead : stream.Ahead (n₀.channelImage inputs c ++ rest)) (inputs' : Inputs) :
    (n.loadChannel inputs' c stream).2.Ahead rest ∧
      Restored n₀ (n.loadChannel inputs' c stream).1 c ∧
      Frame c n (n.loadChannel inputs' c stream).1 := by
  unfold loadChannel
  rw [hc]
  unfold channelImage at hahead
  -- a channel without a function reads nothing
  cases hm : n₀.channelModules c with
  | none =>
    rw [hm] at hahead
    exact ⟨hahead, restored_of_ne (by simp [hm]) (by simp [hm]), Frame.refl c n⟩
  | some m =>
    rw [hm] at hahead
    cases m with
    | switch =>
      obtain ⟨hrest, hrestored, hframe⟩ :=
        switchLoad_of_ahead (n := n.called .switch .load c) hm hahead
      exact ⟨hrest, hrestored, hframe.of_called⟩
    | button =>
      obtain ⟨hrest, hrestored, hframe⟩ :=
        buttonLoad_of_ahead (n := n.called .button .load c) hm hahead inputs'
      exact ⟨hrest, hrestored, hframe.of_called⟩
    | analog =>
      -- whatever the five bytes are, five are read
      obtain ⟨-, hahead⟩ := ahead_cons.mp hahead
      obtain ⟨-, hahead⟩ := ahead_cons.mp hahead
      obtain ⟨-, hahead⟩ := ahead_cons.mp hahead
      obtain ⟨-, hahead⟩ := ahead_cons.mp hahead
      obtain ⟨-, hahead⟩ := ahead_cons.mp hahead
      exact ⟨hahead, restored_of_ne (by simp [hm]) (by simp [hm]),
        ⟨rfl, rfl, fun _ _ => rfl, fun _ _ => rfl⟩⟩
    | ds18b20 => exact ⟨hahead, restored_of_ne (by simp [hm]) (by simp [hm]), Frame.refl c n⟩

/-- **The loop over the modules of the channels**, with their bytes ahead of it. -/
theorem loadChannels_of_ahead {inputs : Inputs} {n₀ : Node} (inputs' : Inputs) :
    ∀ {cs : List Channel} {n : Node} {stream : ByteStream}, n.channelModules = n₀.channelModules →
      stream.Ahead (cs.flatMap (n₀.channelImage inputs)) →
      (loadChannels inputs' cs n stream).1.identity = n.identity ∧
        ∀ c, c ∈ cs ∨ Restored n₀ n c → Restored n₀ (loadChannels inputs' cs n stream).1 c := by
  intro cs
  induction cs with
  | nil =>
    intro n stream _ _
    refine ⟨rfl, fun c hc => ?_⟩
    obtain hc | hc := hc
    · exact absurd hc List.not_mem_nil
    · exact hc
  | cons d cs ih =>
    intro n stream hmodules hahead
    rw [List.flatMap_cons] at hahead
    obtain ⟨hahead, hrestored, hframe⟩ :=
      loadChannel_of_ahead (congrFun hmodules d) hahead inputs'
    obtain ⟨hidentity, hall⟩ := ih ((Prod.mk.inj hframe.assignment).2.trans hmodules) hahead
    refine ⟨hidentity.trans hframe.identity, fun c hc => hall c ?_⟩
    -- the channel just read, one behind it, or one of those read before
    by_cases hcd : c = d
    · rw [hcd]
      exact Or.inr hrestored
    · obtain hc | hc := hc
      · obtain hc | hc := List.mem_cons.mp hc
        · exact absurd hc hcd
        · exact Or.inl hc
      · exact Or.inr (hframe.restored hcd hc)

/-! ### Both together -/

/-- Two nodes whose tables agree with the registry and with each other's numbers
run the same modules. -/
theorem channelModules_eq_of_moduleIds {n n' : Node} (hn : n.Consistent) (hn' : n'.Consistent)
    (h : n'.moduleIds = n.moduleIds) : n'.channelModules = n.channelModules := by
  funext c
  have hc := hn' c
  rw [h, hn c] at hc
  exact (Except.ok.inj hc).symm

/-- **The loader takes the image for what it is**: on a node whose channels are all
free, with the image of `n₀` ahead, it gets the configuration of `n₀` back. -/
theorem loadModules_of_ahead {inputs : Inputs} {n₀ n : Node} (hn₀ : n₀.Consistent)
    (hn : n.Consistent) (hfree : ∀ c, n.channelModules c = none)
    (hahead : Ahead ⟨n.eeprom, 0⟩ (n₀.image inputs)) (inputs' : Inputs) :
    ∃ n', n.loadModules inputs' = .ok n' ∧ n'.identity = n₀.identity ∧
      n'.moduleIds = n₀.moduleIds ∧ ∀ c, Restored n₀ n' c := by
  -- header, label and id, then the functions, then their settings
  obtain ⟨hheader, hahead⟩ := ahead_cons.mp hahead
  have hsysinfo := hn.of_eq (assignment_sysinfoLoad n (readByte ⟨n.eeprom, 0⟩).2)
  obtain ⟨hahead, hidentity⟩ := sysinfoLoad_of_ahead (n := n) hahead
  have hfree₁ : ∀ c ∈ channels,
      (n.sysinfoLoad (readByte ⟨n.eeprom, 0⟩).2).1.channelModules c = none := fun c _ => hfree c
  obtain ⟨n₁, stream, hfunctions, hahead, hidentity₁, hids, -⟩ :=
    loadFunctions_of_ahead hn₀.moduleIds_lt (by decide) hfree₁ hahead
  have hids : n₁.moduleIds = n₀.moduleIds := funext fun c => hids c (mem_channels c)
  have hn₁ := hsysinfo.loadFunctions hfunctions
  obtain ⟨hidentity₂, hall⟩ := loadChannels_of_ahead inputs'
    (channelModules_eq_of_moduleIds hn₀ hn₁ hids) hahead
  refine ⟨(loadChannels inputs' channels n₁ stream).1, ?_, ?_, ?_, ?_⟩
  · unfold loadModules
    dsimp only
    rw [if_neg (not_not.mpr hheader), hfunctions]
    rfl
  · rw [hidentity₂, hidentity₁, hidentity]
  · rw [← hids]
    exact (Prod.mk.inj (assignment_loadChannels inputs' channels n₁ stream)).1
  · exact fun c => hall c (Or.inl (mem_channels c))

/-- **The configuration survives a power cycle**, whatever mix of functions the
channels run: after saving and a reset, loading restores the device id, the label,
the function numbers, and the settings of every switch and every button. -/
theorem boot_saveModules_restores {n : Node} (h : n.Reachable) (inputs inputs' : Inputs) :
    ∃ n', (n.saveModules inputs).boot inputs' = .ok n' ∧
      n'.deviceId = n.deviceId ∧ n'.label = n.label ∧ n'.moduleIds = n.moduleIds ∧
      (∀ c, n.channelModules c = some .switch →
        (n'.switches c).config = (n.switches c).config ∧
          (n'.switches c).offDelay = (n.switches c).offDelay) ∧
      ∀ c, n.channelModules c = some .button →
        (n'.buttons c).config = (n.buttons c).config := by
  have hn := h.consistent
  -- the whole image lies ahead of the loader
  have hahead := ahead_writeBytes ⟨n.eeprom, 0⟩ (n.image inputs)
  rw [← saveModules_eeprom] at hahead
  obtain ⟨n', hboot, hidentity, hids, hrestored⟩ :=
    loadModules_of_ahead (n := (n.saveModules inputs).reset) hn (consistent_reset _)
      (fun _ => rfl) hahead inputs'
  obtain ⟨hdevice, hlabel⟩ := Prod.mk.inj hidentity
  -- only switches and buttons have settings that come back
  refine ⟨n', hboot, hdevice, hlabel, hids, ?_, ?_⟩
  · exact fun c => (hrestored c).switch
  · exact fun c => (hrestored c).button

/-- An EEPROM with a switch on channel 3 behind a thermometer, an analog input and a
button. -/
def sampleEeprom : ℕ → UInt8 := fun i =>
  [0x53, 7, 108, 97, 109, 112, 0, 0, 0, 0, 5, 3, 2, 1, 1, 2, 3, 4, 5, 0x0d, 0x06, 1, 44].getD i 0

theorem boot_saveModules_restores_sample :
    ∃ n n', (blank sampleEeprom).boot .idle = .ok n ∧
      (n.saveModules .idle).boot .idle = .ok n' ∧ n'.deviceId = 7 ∧
      n'.moduleIds 3 = 1 ∧ (n'.switches 3).offDelay = 300 ∧ (n'.buttons 2).config = 0x0d := by
  obtain ⟨n, hboot, hdevice, hids, hswitch, hdelay, hbutton, hconfig⟩ :
      ∃ n, (blank sampleEeprom).boot .idle = .ok n ∧ n.deviceId = 7 ∧ n.moduleIds 3 = 1 ∧
        n.channelModules 3 = some .switch ∧ (n.switches 3).offDelay = 300 ∧
        n.channelModules 2 = some .button ∧ (n.buttons 2).config = 0x0d :=
    ⟨_, rfl, rfl, rfl, rfl, by decide, rfl, rfl⟩
  obtain ⟨n', hboot', hdevice', -, hids', hswitches, hbuttons⟩ :=
    boot_saveModules_restores (Run.Reachable.init ⟨_, _, hboot⟩) .idle .idle
  refine ⟨n, n', hboot, hboot', hdevice'.trans hdevice, ?_, ?_, ?_⟩
  · rw [hids', hids]
  · rw [(hswitches 3 hswitch).2, hdelay]
  · rw [hbuttons 2 hbutton, hconfig]

end Node
end HomeAutomation
