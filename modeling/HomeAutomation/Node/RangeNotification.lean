import HomeAutomation.Node.Handling
import HomeAutomation.Node.Sampling

/-!
# The range of a sensor

A sensor can be told to check its values against a range, or against what is outside of it,
and to send a value that is in its range when the one before was not.  The check is written,
with a flag for the value before, but `analog_timer` stores the values and never calls it:
the node sends nothing.

## Main definitions

* `AnalogSensor.InRange` — the condition on a value.
* `Stores` — a step stores a new value.
* `rangeFlags` — for each channel, whether the last value that was checked was in range.
* `rangeNotice` — what should be sent for a value.
* `RangeNotified` — a step sends the values that it should, and no others.
* `RangeEdge` — a tick is about to store a value that should be sent.

## Main results

* `analogRangeCheck_eq` — what the check would do, if it were called.
* `sensor_tick` — what a tick makes of a sensor that waits for a value.
* `sends_step` — a step that answers no request sends values of buttons only.
* `rangeNotified_iff` — a run meets the condition as long as nothing is to be sent.

## References

`stm8/can_node/mod_analog.c`, `shared/include/ha/can_node.h`.
-/

namespace HomeAutomation

/-- **The range condition**: the value is between the bounds, or, with a reverse range, it is
not. -/
def AnalogSensor.InRange (sensor : AnalogSensor) : Bool :=
  xor (decide (sensor.rangeMin ≤ sensor.value ∧ sensor.value ≤ sensor.rangeMax))
    (hasBit sensor.config analogConfigReverseRange)

/-- The sensor checks its range. -/
def AnalogSensor.Checks (sensor : AnalogSensor) : Prop :=
  hasBit sensor.config analogConfigRangeCheck = true

instance (sensor : AnalogSensor) : Decidable sensor.Checks := inferInstanceAs (Decidable (_ = _))

namespace Node

/-! ### New values -/

/-- **A step stores a new value for a channel**: on a tick, the sensor no longer waits for
one. -/
def Stores (c : Channel) (t : Node × (Event × Inputs) × Node) : Prop :=
  match t.2.1.1 with
  | .tick => t.1.channelModules c = some .analog ∧ (t.1.analogSensors c).state = .active ∧
      (t.2.2.analogSensors c).state = .inactive
  | _ => False

instance (c : Channel) (t : Node × (Event × Inputs) × Node) : Decidable (Stores c t) :=
  match t with
  | (_, (.tick, _), _) => inferInstanceAs (Decidable (_ ∧ _))
  | (_, (.frame _, _), _) => inferInstanceAs (Decidable False)
  | (_, (.powerCycle, _), _) => inferInstanceAs (Decidable False)

/-- The turn of a sensor that waits for a value: a lone one goes on waiting, and any other
stores the result of the conversion. -/
theorem sensor_turn {inputs : Inputs} {c : Channel} {n n' : Node}
    (hmodule : n.channelModules c = some .analog) (hselected : c = n.selectedSensor)
    (hactive : (n.analogSensors c).state = .active) (h : n.timerChannel inputs c = .ok n') :
    n'.analogSensors c =
      if n.sensorCount = 1 then n.analogSensors c
      else { n.analogSensors c with value := inputs.conversion c, state := .inactive } := by
  replace h := timerChannel_analog hmodule h
  have hturn : ¬ c ≠ (n.called .analog .timer c).selectedSensor := not_not.mpr hselected
  have hstate : ((n.called .analog .timer c).analogSensors c).state = .active := hactive
  rw [analogTimer, if_neg hturn] at h
  by_cases hlone : n.sensorCount = 1
  · have hwaits : (n.called .analog .timer c).sensorCount = 1 ∧
        ((n.called .analog .timer c).analogSensors c).state ≠ .disabled := by
      refine ⟨hlone, fun h => ?_⟩
      cases hstate.symm.trans h
    rw [if_pos hwaits] at h
    cases h
    rw [if_pos hlone]
    have hsame : { n.analogSensors c with state := AnalogState.active } = n.analogSensors c := by
      rw [← hactive]
    exact (Function.update_self ..).trans hsame
  · have hmany : ¬ ((n.called .analog .timer c).sensorCount = 1 ∧
        ((n.called .analog .timer c).analogSensors c).state ≠ .disabled) := fun h => hlone h.1
    rw [if_neg hmany, hstate] at h
    obtain ⟨selected, rfl⟩ := selectNextSensor_eq h
    rw [if_neg hlone]
    exact Function.update_self ..

/-- The turn of another channel leaves the module alone, while the selected sensor is not
its own. -/
theorem sensor_turn_other {inputs : Inputs} {c d : Channel} {n n' : Node}
    (hselected : c = n.selectedSensor) (hd : d ≠ c) (h : n.timerChannel inputs d = .ok n') :
    n'.analogSensors = n.analogSensors ∧ n'.selectedSensor = n.selectedSensor ∧
      n'.sensorCount = n.sensorCount := by
  obtain ⟨rfl, -⟩ | ⟨m, hm, htimer⟩ := timerChannel_cases h
  · exact ⟨rfl, rfl, rfl⟩
  · cases m with
    | switch =>
      cases htimer
      obtain ⟨mode, offTimer, pins, heq⟩ := switchTimer_eq d (n.called .switch .timer d)
      rw [heq]
      exact ⟨rfl, rfl, rfl⟩
    | button =>
      cases htimer
      rw [buttonSetState_looked]
      exact ⟨rfl, rfl, rfl⟩
    | analog =>
      have hidle : d ≠ (n.called .analog .timer d).selectedSensor :=
        fun heq => hd (heq.trans hselected.symm)
      have hsame : (n.called .analog .timer d).analogTimer inputs d
          = .ok (n.called .analog .timer d) := if_pos hidle
      cases (Option.some.inj htimer).symm.trans hsame
      exact ⟨rfl, rfl, rfl⟩
    | ds18b20 => cases htimer

/-- **What a tick makes of a sensor that waits for a value.** -/
theorem sensor_tick {inputs : Inputs} {n n' : Node} (hn : n.books.Balanced)
    (h : timerChannels inputs channels n = .ok n') {c : Channel}
    (hactive : (n.analogSensors c).state = .active) :
    n'.analogSensors c =
      if n.sensorCount = 1 then n.analogSensors c
      else { n.analogSensors c with value := inputs.conversion c, state := .inactive } := by
  have hselected : c = n.selectedSensor := (hn.active c hactive).1
  have hmodule : n.channelModules c = some .analog := by
    have henabled : n.books.state c ≠ .disabled := fun h => nomatch hactive.symm.trans h
    simpa [books] using (hn.enabled_iff c).mp henabled
  have hother : ∀ (d : Channel) (m m' : Node), d ≠ c → (m.analogSensors = n.analogSensors ∧
      m.selectedSensor = n.selectedSensor ∧ m.sensorCount = n.sensorCount ∧
      m.channelModules = n.channelModules) → m.timerChannel inputs d = .ok m' →
      (m'.analogSensors = n.analogSensors ∧ m'.selectedSensor = n.selectedSensor ∧
        m'.sensorCount = n.sensorCount ∧ m'.channelModules = n.channelModules) := by
    rintro d m m' hd ⟨hsensors, hturn, hcount, hmodules⟩ hother
    obtain ⟨hsensors', hturn', hcount'⟩ :=
      sensor_turn_other (hselected.trans hturn.symm) hd hother
    exact ⟨hsensors'.trans hsensors, hturn'.trans hturn, hcount'.trans hcount,
      (timerChannel_identity hother).1.trans hmodules⟩
  obtain ⟨n₁, n₂, ⟨hsensors, hturn, hcount, hmodules⟩, hown, hrecords⟩ :=
    timerChannels_turn hother nodup_channels (mem_channels c) h ⟨rfl, rfl, rfl, rfl⟩
  rw [← hmodules] at hmodule
  rw [← hsensors] at hactive
  refine (congrArg Records.sensor hrecords).trans ?_
  rw [← hcount, ← hsensors]
  exact sensor_turn hmodule (hselected.trans hturn.symm) hactive hown

/-- **When a tick stores a value**: when the sensor waits for one and is not alone; the value
is the result of the conversion. -/
theorem stores_iff {inputs : Inputs} {n n' : Node} (hn : n.books.Balanced)
    (h : timerChannels inputs channels n = .ok n') (c : Channel) :
    (Stores c (n, (.tick, inputs), n') ↔ n.channelModules c = some .analog ∧
      (n.analogSensors c).state = .active ∧ n.sensorCount ≠ 1) ∧
    (Stores c (n, (.tick, inputs), n') → n'.analogSensors c
      = { n.analogSensors c with value := inputs.conversion c, state := .inactive }) := by
  have hstores : Stores c (n, (.tick, inputs), n') ↔ n.channelModules c = some .analog ∧
      (n.analogSensors c).state = .active ∧ n.sensorCount ≠ 1 := by
    refine and_congr_right fun _ => and_congr_right fun hactive => ?_
    rw [show (n, (Event.tick, inputs), n').2.2 = n' from rfl, sensor_tick hn h hactive]
    split
    · next hlone => exact iff_of_false (fun h => nomatch hactive.symm.trans h) (not_not.mpr hlone)
    · next hlone => exact iff_of_true rfl hlone
  refine ⟨hstores, fun hstored => ?_⟩
  obtain ⟨-, hactive, hmany⟩ := hstores.mp hstored
  rw [sensor_tick hn h hactive, if_neg hmany]

/-! ### What should be sent -/

/-- What a step makes of the flags of the sensors: a reset clears them, and a value that is
stored and checked sets that of its channel. -/
def flagStep (flags : Channel → Bool) (t : Node × (Event × Inputs) × Node) (c : Channel) : Bool :=
  if t.1.Resets t.2.1 then false
  else if Stores c t ∧ (t.2.2.analogSensors c).Checks then (t.2.2.analogSensors c).InRange
  else flags c

/-- **Whether the last value that was checked was in range**, for each channel, behind some
steps from a start. -/
def rangeFlags (steps : List (Node × (Event × Inputs) × Node)) : Channel → Bool :=
  steps.foldl flagStep fun _ => false

/-- What should be sent for a value that was stored: one frame with it, when it is checked and
in range, and the last one was not. -/
def rangeNotice (n : Node) (c : Channel) (sensor : AnalogSensor) (flag : Bool) : List SentFrame :=
  if sensor.Checks ∧ sensor.InRange = true ∧ flag = false then
    [⟨n.noticeId c AnalogField.value.toByte, bytesOf sensor.value⟩]
  else []

/-- **The check that nothing calls** would send that, and keep the flag. -/
theorem analogRangeCheck_eq (c : Channel) (n : Node) (flag : Bool) :
    n.analogRangeCheck c flag =
      ({ n with sent := n.sent ++ n.rangeNotice c (n.analogSensors c) flag },
        if (n.analogSensors c).Checks then (n.analogSensors c).InRange else flag) := by
  have hrange : (n.analogSensors c).InRange =
      if hasBit (n.analogSensors c).config analogConfigReverseRange then
        !(decide ((n.analogSensors c).rangeMin ≤ (n.analogSensors c).value) &&
          decide ((n.analogSensors c).value ≤ (n.analogSensors c).rangeMax))
      else decide ((n.analogSensors c).rangeMin ≤ (n.analogSensors c).value) &&
          decide ((n.analogSensors c).value ≤ (n.analogSensors c).rangeMax) := by
    rw [AnalogSensor.InRange, Bool.decide_and]
    cases hasBit (n.analogSensors c).config analogConfigReverseRange <;> simp
  unfold analogRangeCheck rangeNotice
  dsimp only
  rw [← hrange]
  by_cases hchecks : (n.analogSensors c).Checks
  · have hbit : ¬ hasBit (n.analogSensors c).config analogConfigRangeCheck = false :=
      fun h => nomatch hchecks.symm.trans h
    rw [if_neg hbit, if_pos hchecks]
    by_cases hdue : (n.analogSensors c).InRange = true ∧ flag = false
    · rw [if_pos (by simpa using hdue), if_pos ⟨hchecks, hdue⟩, sendData_eq]
    · rw [if_neg (by simpa using hdue), if_neg fun h => hdue h.2, List.append_nil]
  · rw [if_pos (Bool.eq_false_iff.mpr hchecks), if_neg hchecks, if_neg fun h => hchecks h.1,
      List.append_nil]

/-- **A step sends the values that it should**, and no others: for each channel that stores a
new value what is due for it.  Answers to requests are no such frames. -/
def RangeNotified (flags : Channel → Bool) (t : Node × (Event × Inputs) × Node) : Prop :=
  (∀ frame, t.2.1.1 = .frame frame → frame.rtr = false) →
    ∃ frames, t.2.2.sent = t.1.sent ++ frames ∧ ∀ c,
      t.1.noticesOf c AnalogField.value.toByte frames =
        if Stores c t then t.1.rangeNotice c (t.2.2.analogSensors c) (flags c) else []

/-- **A tick is about to store a value that should be sent**: the sensor waits for a value, is
not alone, and checks its range; the result of the conversion is in range, and the last
value that was checked was not. -/
structure RangeEdge (flags : Channel → Bool) (c : Channel) (n : Node) (e : Event × Inputs) :
    Prop where
  tick : e.1 = .tick
  waits : n.channelModules c = some .analog ∧ (n.analogSensors c).state = .active ∧
    n.sensorCount ≠ 1
  checks : (n.analogSensors c).Checks
  inRange : { n.analogSensors c with value := e.2.conversion c }.InRange = true
  before : flags c = false

/-- **What is to be sent is known before the step.** -/
theorem rangeEdge_iff {n n' : Node} {e : Event × Inputs} (hn : n.books.Balanced)
    (h : n.step e = some n') (flags : Channel → Bool) (c : Channel) :
    (if Stores c (n, e, n') then n.rangeNotice c (n'.analogSensors c) (flags c) else []) ≠ [] ↔
      RangeEdge flags c n e := by
  have hdue : (if Stores c (n, e, n') then n.rangeNotice c (n'.analogSensors c) (flags c)
      else []) ≠ [] ↔ Stores c (n, e, n') ∧ (n'.analogSensors c).Checks ∧
        (n'.analogSensors c).InRange = true ∧ flags c = false := by
    unfold rangeNotice
    split
    · next hstored =>
      split
      · next hdue => exact iff_of_true (List.cons_ne_nil _ _) ⟨hstored, hdue⟩
      · next hdue => exact iff_of_false (not_not.mpr rfl) fun h => hdue h.2
    · next hstored => exact iff_of_false (not_not.mpr rfl) fun h => hstored h.1
  rw [hdue]
  obtain ⟨event, inputs⟩ := e
  cases event with
  | tick =>
    obtain ⟨hstores, hvalue⟩ := stores_iff hn (handle_eq_ok_of_step h) c
    constructor
    · rintro ⟨hstored, hchecks, hrange, hflag⟩
      rw [hvalue hstored] at hchecks hrange
      exact ⟨rfl, hstores.mp hstored, hchecks, hrange, hflag⟩
    · rintro ⟨-, hwaits, hchecks, hrange, hflag⟩
      have hstored := hstores.mpr hwaits
      rw [hvalue hstored]
      exact ⟨hstored, hchecks, hrange, hflag⟩
  | frame frame => exact iff_of_false (fun h => h.1) fun h => nomatch h.tick
  | powerCycle => exact iff_of_false (fun h => h.1) fun h => nomatch h.tick

/-! ### What is sent -/

/-- **A step that answers no request sends values of buttons only.** -/
theorem sends_step {n n' : Node} {e : Event × Inputs} (h : n.step e = some n')
    (hdata : ∀ frame, e.1 = .frame frame → frame.rtr = false) : Sends n n' := by
  obtain ⟨event, inputs⟩ := e
  cases handling_step h with
  | tick htick => exact (timerChannels_effects htick).sends
  | @quiet frame receivedId sent calls label eeprom hsent =>
    exact .of_eq (hsent (hdata frame rfl))
  | @assigned frame _ c functionId hassigns hset =>
    have hsent : n'.sent = (n.receiving frame).sent := sent_setChannel hset
    exact .of_eq hsent
  | @commanded frame c m hcommands =>
    have hwrite : Effect inputs (n.receiving frame) _ :=
      Effect.write (addressLo frame.address) frame.length frame.payload hcommands.2.2
    exact hwrite.sends
  | @restarted _ m _ hresets hsent hboot =>
    obtain ⟨frames, hframes, hvalues⟩ := (boot_effects hboot).sends
    exact ⟨frames, hframes.trans (congrArg (· ++ frames) hsent), hvalues⟩

/-- **A step sends what it should exactly when it should send nothing.** -/
theorem rangeNotified_iff_not_rangeEdge {n n' : Node} {e : Event × Inputs}
    (hn : n.books.Balanced) (h : n.step e = some n') (flags : Channel → Bool) :
    RangeNotified flags (n, e, n') ↔ ∀ c, ¬ RangeEdge flags c n e := by
  constructor
  · intro hnotified c hedge
    have hdata : ∀ frame, e.1 = .frame frame → frame.rtr = false :=
      fun frame hframe => nomatch hedge.tick.symm.trans hframe
    obtain ⟨frames, hsent, hvalues⟩ := sends_step h hdata
    obtain ⟨frames', hsent', hnotices⟩ := hnotified hdata
    obtain rfl : frames = frames' := List.append_cancel_left (hsent.symm.trans hsent')
    refine (rangeEdge_iff hn h flags c).mpr hedge ((hnotices c).symm.trans ?_)
    exact noticesOf_eq_nil hvalues n c (by decide)
  · intro hnone hdata
    obtain ⟨frames, hsent, hvalues⟩ := sends_step h hdata
    refine ⟨frames, hsent, fun c => ?_⟩
    have hnothing := not_not.mp (mt (rangeEdge_iff hn h flags c).mp (hnone c))
    exact (noticesOf_eq_nil hvalues n c (by decide)).trans hnothing.symm

/-- **Along a run the values that should be sent are sent exactly when there is none**: in
every run from a start, every step sends what it should, given the values that were checked
before it, exactly when no tick is about to store a value in range behind one that was
not. -/
theorem rangeNotified_iff {n : Node} (h : n.Started) (es : List (Event × Inputs)) :
    (∀ before t after, Run.trace step n es = before ++ t :: after →
      RangeNotified (rangeFlags before) t) ↔
    ∀ before t after, Run.trace step n es = before ++ t :: after →
      ∀ c, ¬ RangeEdge (rangeFlags before) c t.1 t.2.1 := by
  have hbalanced : Run.Always step (fun m => m.books.Balanced) n es :=
    (Run.always_of_step (fun _ e _ hm hstep => .step e hm hstep) es n
      (.init h : n.Reachable)).mono fun _ => Reachable.balanced
  refine forall_congr' fun before => forall_congr' fun t => forall_congr' fun after =>
    forall_congr' fun htrace => ?_
  obtain ⟨hn, hstep⟩ := hbalanced.trace t (htrace ▸ List.mem_append_right _ List.mem_cons_self)
  exact rangeNotified_iff_not_rangeEdge hn hstep (rangeFlags before)

/-- Analog sensors on all four channels; the one on channel 0 checks that its value is at
least `0x100`. -/
def rangeEeprom : ℕ → UInt8 := fun i =>
  [0x53, 5, 0, 0, 0, 0, 0, 0, 0, 0, 3, 3, 3, 3, 0x01, 0x01, 0x00, 0xff, 0xff].getD i 0

/-- A tick that finds the first value out of range sends nothing, as it should. -/
theorem rangeNotified_low : ∃ n : Node, n.Started ∧
    ∀ before t after, Run.trace step n [(.tick, .idle), (.tick, .idle)] = before ++ t :: after →
      RangeNotified (rangeFlags before) t := by
  obtain ⟨n, hboot, n₁, n₂, htrace, hstate, hrange⟩ :
      ∃ n, (blank rangeEeprom).boot .idle = .ok n ∧ ∃ n₁ n₂,
        Run.trace step n [(.tick, .idle), (.tick, .idle)]
          = [(n, (.tick, .idle), n₁), (n₁, (.tick, .idle), n₂)] ∧
        (∀ c, (n.analogSensors c).state ≠ .active) ∧
        ∀ c, ¬ ((n₁.analogSensors c).Checks ∧
          { n₁.analogSensors c with value := 0 }.InRange = true) :=
    ⟨_, rfl, _, _, rfl, by decide, by decide⟩
  refine ⟨n, ⟨_, _, hboot⟩, (rangeNotified_iff ⟨_, _, hboot⟩ _).mpr ?_⟩
  intro before t after hsplit c hedge
  have ht : t ∈ Run.trace step n [(.tick, .idle), (.tick, .idle)] :=
    hsplit ▸ List.mem_append_right _ List.mem_cons_self
  rw [htrace] at ht
  obtain rfl | ht := List.mem_cons.mp ht
  · exact hstate c hedge.waits.2.1
  · obtain rfl := List.mem_singleton.mp ht
    exact hrange c ⟨hedge.checks, hedge.inRange⟩

/-- **The first value that is in range is not sent.**  The second tick stores `0x200`, which
is in the range of the sensor, and the node sends nothing. -/
theorem range_not_notified : ∃ n n₁ n₂ : Node, n.Started ∧
    n.step (.tick, .idle) = some n₁ ∧
    n₁.step (.tick, { Inputs.idle with conversion := fun _ => 0x200 }) = some n₂ ∧
    (n₂.analogSensors 0).Checks ∧ (n₂.analogSensors 0).value = 0x200 ∧
    (n₂.analogSensors 0).InRange = true ∧ n₂.sent = n₁.sent ∧
    ¬ RangeNotified (rangeFlags [(n, (.tick, .idle), n₁)])
      (n₁, (.tick, { Inputs.idle with conversion := fun _ => 0x200 }), n₂) := by
  obtain ⟨n, hboot, n₁, n₂, hfirst, hsecond, hstores, hchecks, hvalue, hrange, hflag, hsent⟩ :
      ∃ n, (blank rangeEeprom).boot .idle = .ok n ∧ ∃ n₁ n₂,
        n.step (.tick, .idle) = some n₁ ∧
        n₁.step (.tick, { Inputs.idle with conversion := fun _ => 0x200 }) = some n₂ ∧
        Stores 0 (n₁, (.tick, { Inputs.idle with conversion := fun _ => 0x200 }), n₂) ∧
        (n₂.analogSensors 0).Checks ∧ (n₂.analogSensors 0).value = 0x200 ∧
        (n₂.analogSensors 0).InRange = true ∧
        rangeFlags [(n, (.tick, .idle), n₁)] 0 = false ∧ n₂.sent = n₁.sent :=
    ⟨_, rfl, _, _, rfl, rfl, by decide, by decide, by decide, by decide, by decide, by decide⟩
  refine ⟨n, n₁, n₂, ⟨_, _, hboot⟩, hfirst, hsecond, hchecks, hvalue, hrange, hsent, fun h => ?_⟩
  obtain ⟨frames, hframes, hnotices⟩ := h nofun
  have hnone : frames = [] := List.append_cancel_left
    (hframes.symm.trans (hsent.trans (List.append_nil _).symm))
  have hone := hnotices 0
  rw [if_pos hstores, rangeNotice, if_pos ⟨hchecks, hrange, hflag⟩, hnone] at hone
  exact nomatch hone

end Node
end HomeAutomation
