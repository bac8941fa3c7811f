import Mathlib.Data.Fintype.Pi
import HomeAutomation.Node.Analog
import HomeAutomation.Node.Effects

/-!
# The books of the analog module

Which sensors there are is known to the table of modules.  The analog module keeps books
of its own: a count, a state for each sensor, the sensor whose turn it is, and the
converter, which is on while there are sensors.  They are kept by `analog_init`,
`analog_deinit` and `analog_timer`; what else happens to the node does not touch them.

## Main definitions

* `Books` — these variables, beside the table of modules; `books` are those of a node.
* `Books.Balanced` — they agree.

## Main results

* `balanced_analogInit`, `balanced_analogDeinit`, `balanced_analogTimer` — the entries
  of the module.
* `balanced_setChannel` — `CAN_Node_set_channel`, whatever it replaces by what.
* `Reachable.balanced`, `analog_bookkeeping` — every reachable state.

## References

`stm8/can_node/mod_analog.c`, `module.c`.
-/

namespace HomeAutomation
namespace Node

/-- The books of the analog module, and the channels the table has it on. -/
structure Books where
  analog : Channel → Bool
  state : Channel → AnalogState
  count : UInt8
  selected : Channel
  adc : Adc

/-- The books of a node. -/
def books (n : Node) : Books where
  analog c := n.channelModules c = some .analog
  state c := (n.analogSensors c).state
  count := n.sensorCount
  selected := n.selectedSensor
  adc := n.adc

/-- **The books agree** with the table of modules and with each other. -/
structure Books.Balanced (b : Books) : Prop where
  /-- The count is the number of the sensors. -/
  count : b.count.toNat = channels.countP b.analog
  enabled_iff : ∀ c, b.state c ≠ .disabled ↔ b.analog c = true
  /-- The converter is on while there are sensors. -/
  powered_iff : b.adc.enabled = true ↔ 0 < b.count
  selected : 0 < b.count → b.state b.selected ≠ .disabled
  /-- A sensor that waits for a value is the selected one, and its conversion is the one
  that was started last. -/
  active : ∀ c, b.state c = .active → c = b.selected ∧ b.adc.started = some c

/-! ### Counting -/

/-- One channel more. -/
theorem countP_update_true : ∀ (p : Channel → Bool) (c : Channel), p c = false →
    channels.countP (Function.update p c true) = channels.countP p + 1 := by
  decide

/-- One channel less. -/
theorem countP_update_false {p : Channel → Bool} {c : Channel} (h : p c = true) :
    channels.countP (Function.update p c false) + 1 = channels.countP p := by
  have := countP_update_true (Function.update p c false) c (Function.update_self ..)
  rw [Function.update_idem] at this
  rw [← this, ← h, Function.update_eq_self]

theorem countP_le (p : Channel → Bool) : channels.countP p ≤ 4 := List.countP_le_length

section Balanced

variable {b : Books}

/-- The count of some sensors, as the byte that it is kept in. -/
theorem Books.Balanced.count_le (h : b.Balanced) : b.count.toNat ≤ 4 := h.count ▸ countP_le _

theorem Books.Balanced.pos_of_analog (h : b.Balanced) {c : Channel} (hc : b.analog c = true) :
    0 < b.count := by
  rw [UInt8.lt_iff_toNat_lt, h.count]
  exact List.countP_pos_iff.mpr ⟨c, mem_channels c, hc⟩

/-- Without sensors there is none that is not disabled. -/
theorem Books.Balanced.disabled_of_zero (h : b.Balanced) (hzero : b.count = 0) (c : Channel) :
    b.state c = .disabled := by
  by_contra hne
  have := h.pos_of_analog ((h.enabled_iff c).mp hne)
  rw [hzero] at this
  exact absurd this (by decide)

end Balanced

/-! ### What becomes of the books -/

namespace Books

/-- A sensor comes. -/
def enter (b : Books) (c : Channel) : Books where
  analog := Function.update b.analog c true
  state := Function.update b.state c .inactive
  count := b.count + 1
  selected := if b.count = 0 then c else b.selected
  adc := if b.count = 0 then { b.adc with enabled := true, channel := c } else b.adc

/-- A sensor goes, and the turn is another one's. -/
def leave (b : Books) (c selected : Channel) : Books where
  analog := Function.update b.analog c false
  state := Function.update b.state c .disabled
  count := b.count - 1
  selected := selected
  adc := if b.count - 1 = 0 then {} else b.adc

/-- A conversion is started. -/
def start (b : Books) (c : Channel) : Books :=
  { b with
    state := Function.update b.state c .active
    adc := { b.adc with channel := c, started := some c } }

/-- Its value is fetched, and the turn is another one's. -/
def fetch (b : Books) (c selected : Channel) : Books :=
  { b with state := Function.update b.state c .inactive, selected := selected }

variable {b : Books} {c selected : Channel}

theorem Balanced.enter (h : b.Balanced) (hc : b.analog c = false) : (b.enter c).Balanced := by
  have hle := h.count_le
  have hcount : (b.count + 1).toNat = b.count.toNat + 1 := by
    rw [UInt8.toNat_add, UInt8.toNat_one, Nat.mod_eq_of_lt (by omega)]
  have hpos : 0 < b.count + 1 := by
    rw [UInt8.lt_iff_toNat_lt, hcount]
    exact Nat.succ_pos _
  -- the count, the enabled sensors, the converter's power, the turn and the sensor that waits
  refine ⟨?_, ?_, ?_, ?_, ?_⟩
  · show (b.count + 1).toNat = channels.countP (Function.update b.analog c true)
    rw [hcount, h.count, countP_update_true b.analog c hc]
  · intro d
    unfold Books.enter
    by_cases hd : d = c
    · simp [hd]
    · simpa [hd] using h.enabled_iff d
  · refine iff_of_true ?_ hpos
    unfold Books.enter
    dsimp only
    split
    · rfl
    -- the first sensor switches the converter on, for the others it is on already
    · next hne => exact h.powered_iff.mpr (UInt8.pos_iff_ne_zero.mpr hne)
  · intro _
    unfold Books.enter
    dsimp only
    split
    · simp
    -- with more sensors than one the turn stays where it was
    · next hne =>
      have hselected := h.selected (UInt8.pos_iff_ne_zero.mpr hne)
      by_cases hd : b.selected = c
      · simp [hd]
      · simpa [hd] using hselected
  · intro d hd
    have hdc : d ≠ c := by
      rintro rfl
      simp [Books.enter] at hd
    have hactive : b.state d = .active := by simpa [Books.enter, hdc] using hd
    -- a sensor that waits for the converter is one more that is enabled
    have hne : b.count ≠ 0 := by
      intro hzero
      rw [h.disabled_of_zero hzero d] at hactive
      cases hactive
    simpa [Books.enter, hne] using h.active d hactive

theorem Balanced.leave (h : b.Balanced) (hc : b.analog c = true)
    (hsame : c ≠ b.selected → selected = b.selected)
    (hnext : 1 < b.count → selected ≠ c ∧ b.state selected ≠ .disabled) :
    (b.leave c selected).Balanced := by
  have hpos := UInt8.lt_iff_toNat_lt.mp (h.pos_of_analog hc)
  rw [UInt8.toNat_zero] at hpos
  have hcount : (b.count - 1).toNat = b.count.toNat - 1 :=
    UInt8.toNat_sub_of_le _ _ (UInt8.le_iff_toNat_le.mpr hpos)
  have hsensors : (b.count - 1).toNat = channels.countP (Function.update b.analog c false) := by
    rw [hcount, h.count, ← countP_update_false hc, Nat.add_sub_cancel]
  -- what is left of them is at least one when there were two
  have hmany : 0 < b.count - 1 → 1 < b.count := by
    rw [UInt8.lt_iff_toNat_lt, UInt8.lt_iff_toNat_lt, hcount, UInt8.toNat_zero, UInt8.toNat_one]
    omega
  refine ⟨hsensors, ?_, ?_, ?_, ?_⟩
  · intro d
    unfold Books.leave
    by_cases hd : d = c
    · simp [hd]
    · simpa [hd] using h.enabled_iff d
  · unfold Books.leave
    dsimp only
    split
    -- the last sensor switches the converter off
    · next hzero => simp [hzero]
    · next hne =>
      exact iff_of_true (h.powered_iff.mpr (h.pos_of_analog hc)) (UInt8.pos_iff_ne_zero.mpr hne)
  · intro hleft
    obtain ⟨hother, henabled⟩ := hnext (hmany hleft)
    simpa [Books.leave, hother] using henabled
  · intro d hd
    have hdc : d ≠ c := by
      rintro rfl
      simp [Books.leave] at hd
    have hactive : b.state d = .active := by simpa [Books.leave, hdc] using hd
    obtain ⟨hselected, hstarted⟩ := h.active d hactive
    -- the sensor that waits is left, so the converter stays on
    have hne : b.count - 1 ≠ 0 := by
      intro hzero
      rw [hzero, UInt8.toNat_zero] at hsensors
      have hnone := List.countP_eq_zero.mp hsensors.symm d (mem_channels d)
      rw [Function.update_of_ne hdc] at hnone
      exact hnone ((h.enabled_iff d).mp (by simp [hactive]))
    have hkept : selected = b.selected := hsame fun heq => hdc (hselected.trans heq.symm)
    refine ⟨hselected.trans hkept.symm, ?_⟩
    simpa [Books.leave, hne] using hstarted

theorem Balanced.start (h : b.Balanced) (hc : b.analog c = true) (hturn : c = b.selected) :
    (b.start c).Balanced := by
  have henabled := (h.enabled_iff c).mpr hc
  refine ⟨h.count, ?_, h.powered_iff, ?_, ?_⟩
  · intro d
    unfold Books.start
    by_cases hd : d = c
    · simp [hd, hc]
    · simpa [hd] using h.enabled_iff d
  · intro _
    simp [Books.start, ← hturn]
  · intro d hd
    have hdc : d = c := by
      by_contra hdc
      have hactive : b.state d = .active := by simpa [Books.start, hdc] using hd
      exact hdc ((h.active d hactive).1.trans hturn.symm)
    exact ⟨hdc.trans hturn, by simp [Books.start, hdc]⟩

theorem Balanced.fetch (h : b.Balanced) (hc : b.analog c = true) (hturn : c = b.selected)
    (hnext : (b.fetch c selected).state selected ≠ .disabled) : (b.fetch c selected).Balanced := by
  refine ⟨h.count, ?_, h.powered_iff, fun _ => hnext, ?_⟩
  · intro d
    unfold Books.fetch
    by_cases hd : d = c
    · simp [hd, hc]
    · simpa [hd] using h.enabled_iff d
  · intro d hd
    have hdc : d ≠ c := by
      rintro rfl
      simp [Books.fetch] at hd
    have hactive : b.state d = .active := by simpa [Books.fetch, hdc] using hd
    exact absurd ((h.active d hactive).1.trans hturn.symm) hdc

end Books

/-! ### The entries of the module -/

/-- The books with what is made of a record of a sensor. -/
theorem books_setSensor (n : Node) (c : Channel) (sensor : AnalogSensor) :
    (n.setSensor c sensor).books
      = { n.books with state := Function.update n.books.state c sensor.state } := by
  have hstate : (fun d => ((n.setSensor c sensor).analogSensors d).state)
      = Function.update n.books.state c sensor.state := by
    funext d
    by_cases hd : d = c
    · subst hd
      simp [setSensor]
    · simp [setSensor, hd, books]
  rw [← hstate]
  rfl

/-- A record that keeps its state. -/
theorem books_setSensor_settings {n : Node} {c : Channel} {sensor : AnalogSensor}
    (h : sensor.state = (n.analogSensors c).state) : (n.setSensor c sensor).books = n.books := by
  have hstate : Function.update n.books.state c sensor.state = n.books.state := by
    rw [h]
    exact Function.update_eq_self c n.books.state
  rw [books_setSensor, hstate]

theorem books_analogInit (c : Channel) (n : Node) :
    (n.analogInit c).books = { n.books.enter c with analog := n.books.analog } := by
  unfold analogInit
  dsimp only
  rw [books_setSensor]
  split
  · next hzero =>
    have hzero : n.sensorCount = 0 := hzero
    simp [books, Books.enter, gpioInit, hzero]
  · next hne =>
    have hne : ¬ n.sensorCount = 0 := hne
    simp [books, Books.enter, gpioInit, hne]

theorem succ_ne : ∀ c : Channel, c + 1 ≠ c := by
  decide

/-- **The search that ends** gives the turn to the next channel. -/
theorem selectNextSensor_eq_ok_iff {n n' : Node} : n.selectNextSensor = .ok n' ↔
    n.Enabled (n.selectedSensor + 1) ∧
      n' = { n with selectedSensor := n.selectedSensor + 1 } := by
  have hloop := selectNextSensorLoop_eq n n.selectedSensor 0
  unfold selectNextSensor Enabled
  rw [hloop]
  split
  · next henabled =>
    rw [ok_bind]
    constructor
    · intro h
      cases h
      exact ⟨henabled, rfl⟩
    · rintro ⟨-, rfl⟩
      rfl
  · next hdisabled => exact iff_of_false nofun fun h => hdisabled h.1

theorem books_analogDeinit {c : Channel} {n n' : Node} (h : n.analogDeinit c = .ok n') :
    ∃ selected, n'.books = { n.books.leave c selected with analog := n.books.analog } ∧
      (c ≠ n.selectedSensor → selected = n.selectedSensor) ∧
      (c = n.selectedSensor → 1 < n.sensorCount → selected ≠ c ∧ n.Enabled selected) := by
  have hbooks : ∀ selected,
      (analogRelease { n.setSensor c { n.analogSensors c with state := .disabled } with
          selectedSensor := selected }).books
        = { n.books.leave c selected with analog := n.books.analog } := by
    intro selected
    have hset := books_setSensor n c { n.analogSensors c with state := .disabled }
    exact congrArg (fun b : Books => { b with
      count := n.sensorCount - 1
      selected := selected
      adc := if n.sensorCount - 1 = 0 then {} else n.adc }) hset
  unfold analogDeinit at h
  dsimp only at h
  split at h
  -- the sensor that leaves has the turn, so the next one must be enabled
  · next hturn =>
    obtain ⟨n₁, hselect, h⟩ := bind_eq_ok_iff.mp h
    obtain ⟨henabled, rfl⟩ := selectNextSensor_eq_ok_iff.mp hselect
    cases h
    have hturn : c = n.selectedSensor := hturn.1
    have hother : n.selectedSensor + 1 ≠ c := hturn ▸ succ_ne n.selectedSensor
    refine ⟨n.selectedSensor + 1, ?_, fun hne => absurd hturn hne, fun _ _ => ⟨hother, ?_⟩⟩
    · exact hbooks (n.selectedSensor + 1)
    · simpa [Enabled, setSensor, hother] using henabled
  · next hturn =>
    cases h
    exact ⟨n.selectedSensor, hbooks n.selectedSensor, fun _ => rfl,
      fun heq hmany => absurd ⟨heq, hmany⟩ hturn⟩

theorem books_analogActivate (c : Channel) (n : Node) :
    (n.analogActivate c).books = n.books.start c := by
  unfold analogActivate
  rw [books_setSensor]
  rfl

theorem books_analogDeactivate (inputs : Inputs) (c selected : Channel) (n : Node) :
    Node.books { n.analogDeactivate inputs c with selectedSensor := selected }
      = n.books.fetch c selected :=
  congrArg (fun b : Books => { b with selected := selected })
    (books_setSensor n c
      { n.analogSensors c with value := inputs.conversion c, state := .inactive })

/-- **A tick of a sensor**: it is another one's turn, or a conversion is started, or its
value is fetched and it is the next channel's turn, which has a sensor then. -/
theorem analogTimer_cases {inputs : Inputs} {c : Channel} {n n' : Node}
    (h : n.analogTimer inputs c = .ok n') :
    n' = n ∨ c = n.selectedSensor ∧ (n' = n.analogActivate c ∨
      (n.analogSensors c).state = .active ∧ (n.analogDeactivate inputs c).Enabled (c + 1) ∧
        n' = { n.analogDeactivate inputs c with selectedSensor := c + 1 }) := by
  unfold analogTimer at h
  split at h
  · cases h
    exact Or.inl rfl
  -- only the sensor whose turn it is does anything: it starts a conversion or fetches one
  · next hturn =>
    have hturn : c = n.selectedSensor := not_not.mp hturn
    split at h
    · cases h
      exact Or.inr ⟨hturn, Or.inl rfl⟩
    · split at h
      · cases h
        exact Or.inl rfl
      · cases h
        exact Or.inr ⟨hturn, Or.inl rfl⟩
      · next hactive =>
        obtain ⟨henabled, rfl⟩ := selectNextSensor_eq_ok_iff.mp h
        subst hturn
        exact Or.inr ⟨rfl, Or.inr ⟨hactive, henabled, rfl⟩⟩

/-! ### What leaves the books alone -/

theorem books_buttonSetState (inputs : Inputs) (c : Channel) (n : Node) :
    (n.buttonSetState inputs c).books = n.books := by
  obtain ⟨state, h | ⟨data, h⟩⟩ := buttonSetState_eq inputs c n
  · rw [h]
    rfl
  · rw [h]
    rfl

theorem books_onInit {m : FunctionModule} (hm : m ≠ .analog) (c : Channel) (n : Node) :
    (n.onInit c m).books = n.books := by
  cases m with
  | analog => exact absurd rfl hm
  | switch => rfl
  | button => rfl
  | ds18b20 => rfl

theorem books_onDeinit {m : FunctionModule} (hm : m ≠ .analog) {c : Channel} {n n' : Node}
    (h : n.onDeinit c m = .ok n') : n'.books = n.books := by
  cases m with
  | analog => exact absurd rfl hm
  | switch => cases h; rfl
  | button => cases h; rfl
  | ds18b20 => cases h; rfl

theorem books_onWrite (inputs : Inputs) (c : Channel) (address length : UInt8)
    (value : Fin 8 → UInt8) (n : Node) (m : FunctionModule) :
    (n.onWrite inputs c address length value m).books = n.books := by
  cases m with
  | switch => rfl
  | button =>
    obtain h | ⟨button, pins, h⟩ := buttonWrite_eq inputs c address length value n
    · rw [onWrite, h]
    · rw [onWrite, h, books_buttonSetState]
      rfl
  | analog =>
    unfold onWrite analogWrite
    dsimp only
    split
    · split
      · exact books_setSensor_settings rfl
      · rfl
    · split
      · exact books_setSensor_settings rfl
      · rfl
    · rfl
    · rfl
  | ds18b20 => rfl

theorem books_onLoad {inputs : Inputs} {c : Channel} {n : Node} {stream : ByteStream}
    {m : FunctionModule} {r : Node × ByteStream} (h : n.onLoad inputs c stream m = some r) :
    r.1.books = n.books := by
  cases m with
  | switch => cases h; rfl
  | button =>
    cases h
    exact books_buttonSetState inputs c _
  | analog =>
    cases h
    exact books_setSensor_settings rfl
  | ds18b20 => cases h

/-! ### Every step -/

/-- **A tick of a module.** -/
theorem balanced_onTimer {inputs : Inputs} {c : Channel} {n n' : Node} {m : FunctionModule}
    (h : n.books.Balanced) (hm : n.channelModules c = some m)
    (htimer : n.onTimer inputs c m = some (.ok n')) : n'.books.Balanced := by
  cases m with
  | switch =>
    cases htimer
    obtain ⟨mode, offTimer, pins, heq⟩ := switchTimer_eq c n
    rw [heq]
    exact h
  | button =>
    cases htimer
    rw [books_buttonSetState]
    exact h
  | analog =>
    have hc : n.books.analog c = true := by simp [books, hm]
    -- nothing, a start, or a fetch with the turn passed on
    rcases analogTimer_cases (Option.some.inj htimer) with
      rfl | ⟨hturn, rfl | ⟨-, henabled, rfl⟩⟩
    · exact h
    · rw [books_analogActivate]
      exact h.start hc hturn
    · have hfetch := books_analogDeactivate inputs c (c + 1) n
      rw [hfetch]
      refine h.fetch hc hturn ?_
      rw [← hfetch]
      exact henabled
  | ds18b20 => cases htimer

/-- The books with a new entry in the table of modules. -/
theorem books_table (n : Node) (c : Channel) (m : Option FunctionModule) (ids : Channel → UInt8) :
    Node.books { n with
        channelModules := Function.update n.channelModules c m
        moduleIds := ids }
      = { n.books with
          analog := Function.update n.books.analog c (decide (m = some .analog)) } := by
  have hanalog : (fun d => decide (Function.update n.channelModules c m d = some .analog))
      = Function.update n.books.analog c (decide (m = some .analog)) := by
    funext d
    by_cases hd : d = c
    · subst hd
      simp
    · simp [hd, books]
  rw [← hanalog]
  rfl

/-- An entry for a module that is not the analog one, where there was no sensor. -/
theorem books_table_other {n : Node} {c : Channel} (hc : n.books.analog c = false)
    {m : Option FunctionModule} (hm : m ≠ some .analog) (ids : Channel → UInt8) :
    Node.books { n with
        channelModules := Function.update n.channelModules c m
        moduleIds := ids } = n.books := by
  rw [books_table, decide_eq_false hm, ← hc, Function.update_eq_self]

/-- **A sensor goes with its module.** -/
theorem balanced_releaseChannel {c : Channel} {n n' : Node} (h : n.books.Balanced)
    (hrelease : n.releaseChannel c = .ok n') : n'.books.Balanced ∧ n'.books.analog c = false := by
  obtain ⟨hm, rfl⟩ | ⟨m, n₁, hm, hdeinit, rfl⟩ := releaseChannel_cases hrelease
  · exact ⟨h, by simp [books, hm]⟩
  · refine ⟨?_, by simp [books]⟩
    by_cases hanalog : m = .analog
    · subst hanalog
      have hc : n.books.analog c = true := by simp [books, hm]
      obtain ⟨selected, hbooks, hsame, hnext⟩ := books_analogDeinit hdeinit
      have hleave : n₁.books = { n.books.leave c selected with analog := n.books.analog } := hbooks
      rw [books_table n₁ c none n₁.moduleIds, hleave]
      refine h.leave hc hsame fun hmany => ?_
      -- the turn is passed on by the sensor that leaves, or stays with another one
      by_cases hturn : c = n.selectedSensor
      · exact hnext hturn hmany
      · rw [hsame hturn]
        exact ⟨fun heq => hturn heq.symm, h.selected (h.pos_of_analog hc)⟩
    · have hc : n.books.analog c = false := by simp [books, hm, hanalog]
      have hbooks : n₁.books = n.books := (books_onDeinit hanalog hdeinit).trans rfl
      rw [books_table_other (m := none) (hbooks ▸ hc) (by simp) n₁.moduleIds, hbooks]
      exact h

/-- **A sensor comes with its module.** -/
theorem balanced_occupyChannel {c : Channel} {functionId : UInt8} {m : Option FunctionModule}
    {n : Node} (h : n.books.Balanced) (hc : n.books.analog c = false) :
    (n.occupyChannel c functionId m).books.Balanced := by
  have htable := books_table n c m (Function.update n.moduleIds c functionId)
  have hother : m ≠ some .analog → Node.books { n with
      channelModules := Function.update n.channelModules c m
      moduleIds := Function.update n.moduleIds c functionId } = n.books :=
    fun hm => books_table_other hc hm _
  unfold occupyChannel
  cases m with
  | none => exact (hother (by simp)).symm ▸ h
  | some m =>
    by_cases hanalog : m = .analog
    · subst hanalog
      dsimp only
      rw [onInit, books_analogInit]
      have hcalled : ∀ n' : Node, (n'.called .analog .init c).books = n'.books := fun _ => rfl
      rw [hcalled, htable]
      exact h.enter hc
    -- the channel gets another module, and the books stay as they are
    · dsimp only
      rw [books_onInit hanalog]
      exact (hother (by simpa using hanalog)).symm ▸ h

/-- **`CAN_Node_set_channel` keeps the books**, whatever it replaces by what. -/
theorem balanced_setChannel {c : Channel} {functionId : UInt8} {n n' : Node}
    (h : n.books.Balanced) (hset : n.setChannel c functionId = .ok n') : n'.books.Balanced := by
  obtain ⟨n₁, m, hrelease, -, rfl⟩ := exists_of_setChannel hset
  obtain ⟨h₁, hc⟩ := balanced_releaseChannel h hrelease
  exact balanced_occupyChannel h₁ hc

theorem balanced_reset (n : Node) : n.reset.books.Balanced := by
  refine ⟨rfl, fun c => by simp [books, reset], by simp [books, reset], ?_, fun c hc => ?_⟩
  · exact fun hpos => absurd hpos (UInt8.lt_irrefl 0)
  · cases hc

theorem balanced_effect {inputs : Inputs} {n n' : Node} (h : n.books.Balanced)
    (heffect : Effect inputs n n') : n'.books.Balanced := by
  cases heffect with
  | assign f hset => exact balanced_setChannel h hset
  | request hm => exact h
  | write address length value hm =>
    rw [books_onWrite]
    exact h
  | timer hm htimer => exact balanced_onTimer (n := n.called _ .timer _) h hm htimer
  | save hm => exact h
  | load hm hload =>
    rw [books_onLoad hload]
    exact h
  | store eeprom => exact h
  | identify deviceId label => exact h

/-- **The books agree in every state a node can be in.** -/
theorem Reachable.balanced {n : Node} (h : n.Reachable) : n.books.Balanced :=
  h.of_effects balanced_reset (fun _ _ hn => hn) (fun _ _ hn => hn)
    fun _ _ _ hn heffect => balanced_effect hn heffect

/-- **The books of the analog module.**  In every state a node can be in, the count is
the number of channels that run the module, so that there is one to take away when one of
them is released; the sensors that are not disabled are those channels, the converter is
on exactly while there are any, and the turn is then one of theirs. -/
theorem analog_bookkeeping {n : Node} (h : n.Reachable) :
    n.sensorCount.toNat = channels.countP (fun c => n.channelModules c = some .analog) ∧
      (∀ c, n.channelModules c = some .analog → 0 < n.sensorCount) ∧
      (∀ c, (n.analogSensors c).state ≠ .disabled ↔ n.channelModules c = some .analog) ∧
      (n.adc.enabled = true ↔ 0 < n.sensorCount) ∧
      (0 < n.sensorCount → (n.analogSensors n.selectedSensor).state ≠ .disabled) := by
  have hbooks := h.balanced
  have hanalog : ∀ c, n.books.analog c = true ↔ n.channelModules c = some .analog := fun c =>
    decide_eq_true_iff
  refine ⟨hbooks.count, fun c hc => ?_, fun c => ?_, hbooks.powered_iff, hbooks.selected⟩
  · exact hbooks.pos_of_analog ((hanalog c).mpr hc)
  · exact (hbooks.enabled_iff c).trans (hanalog c)

/-- A node with sensors on channels 0 and 2 has its converter on. -/
theorem analog_bookkeeping_two : ∃ n : Node, n.Reachable ∧ n.channelModules 2 = some .analog ∧
    n.sensorCount.toNat = 2 ∧ n.adc.enabled = true := by
  obtain ⟨n, hboot, hmodule, hcount⟩ : ∃ n, (blank analogEeprom).boot .idle = .ok n ∧
      n.channelModules 2 = some .analog ∧
      channels.countP (fun c => n.channelModules c = some .analog) = 2 :=
    ⟨_, rfl, by decide, by decide⟩
  have hreachable : n.Reachable := .init ⟨_, _, hboot⟩
  obtain ⟨hsensors, hpos, -, hpowered, -⟩ := analog_bookkeeping hreachable
  exact ⟨n, hreachable, hmodule, hsensors.trans hcount, hpowered.mpr (hpos 2 hmodule)⟩

end Node
end HomeAutomation
