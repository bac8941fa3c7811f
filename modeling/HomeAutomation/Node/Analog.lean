import HomeAutomation.Node.Firmware

/-!
# The sensors of the analog module

The module stores the settings of a sensor from a buffer that it fills in part: both
bounds go over the first two bytes, and the other three are what the stack held.  So
what a start finds is not what was set.

The sensors take turns at the converter.  The search for the next one moves on past the
last channel only, and stays where it is at a channel whose sensor is disabled.

## Main definitions

* `AnalogSurvives` — the settings of a sensor survive a power cycle.
* `FirstEnabledAfter` — the sensor whose turn it is next.

## Main results

* `analogSurvives_never` — no sensor's settings survive, and when they are found again
  by chance.
* `selectNextSensor_iff` — the search ends at the right sensor exactly when the sensor
  of the next channel is enabled.

## References

`stm8/can_node/mod_analog.c`.
-/

namespace HomeAutomation
namespace Node

open ByteStream

/-! ### Stored settings -/

/-- The sensor as a later start finds it, at the place where it was stored.  The state
`m` is the one that the reset and the modules before have led to. -/
def analogReloaded (inputs : Inputs) (c : Channel) (n m : Node) (stream : ByteStream) :
    AnalogSensor :=
  (m.analogLoad c ⟨(n.analogSave inputs c stream).memory, stream.offset⟩).1.analogSensors c

/-- The start finds what was set. -/
def AnalogRestored (inputs : Inputs) (c : Channel) (n m : Node) (stream : ByteStream) : Prop :=
  (analogReloaded inputs c n m stream).config = (n.analogSensors c).config ∧
    (analogReloaded inputs c n m stream).rangeMin = (n.analogSensors c).rangeMin ∧
    (analogReloaded inputs c n m stream).rangeMax = (n.analogSensors c).rangeMax

/-- What is stored depends on the node only. -/
def AnalogDetermined (n : Node) (c : Channel) : Prop :=
  ∀ inputs inputs' stream, n.analogSave inputs c stream = n.analogSave inputs' c stream

/-- **The settings of a sensor survive a power cycle**, and what is stored for it is
determined by its state. -/
def AnalogSurvives (n : Node) (c : Channel) : Prop :=
  (∀ inputs m stream, AnalogRestored inputs c n m stream) ∧ n.AnalogDetermined c

/-- What a start finds: the upper bound in the place of the other settings, and the
bytes of the stack. -/
theorem analogReloaded_eq (inputs : Inputs) (c : Channel) (n m : Node) (stream : ByteStream) :
    (analogReloaded inputs c n m stream).config = Word16.high (n.analogSensors c).rangeMax ∧
      (analogReloaded inputs c n m stream).rangeMin
        = Word16.join (Word16.low (n.analogSensors c).rangeMax) (inputs.stack c 0) ∧
      (analogReloaded inputs c n m stream).rangeMax
        = Word16.join (inputs.stack c 1) (inputs.stack c 2) := by
  have hahead := ahead_writeBytes stream
    [Word16.high (n.analogSensors c).rangeMax, Word16.low (n.analogSensors c).rangeMax,
      inputs.stack c 0, inputs.stack c 1, inputs.stack c 2]
  obtain ⟨hconfig, hahead⟩ := ahead_cons.mp hahead
  obtain ⟨hminHi, hahead⟩ := ahead_cons.mp hahead
  obtain ⟨hminLo, hahead⟩ := ahead_cons.mp hahead
  obtain ⟨hmaxHi, hahead⟩ := ahead_cons.mp hahead
  obtain ⟨hmaxLo, -⟩ := ahead_cons.mp hahead
  unfold analogReloaded analogLoad setSensor
  dsimp only
  rw [Function.update_self]
  exact ⟨hconfig, congrArg₂ Word16.join hminHi hminLo, congrArg₂ Word16.join hmaxHi hmaxLo⟩

/-- Hardware at rest, with three bytes on the stack. -/
def withStack (bytes : Fin 3 → UInt8) : Inputs := { Inputs.idle with stack := fun _ => bytes }

/-- The last three bytes that are stored are those of the stack. -/
theorem not_analogDetermined (n : Node) (c : Channel) : ¬ n.AnalogDetermined c := by
  intro h
  have hmax : ∀ bytes,
      (analogReloaded (withStack bytes) c n n ⟨fun _ => 0, 0⟩).rangeMax
        = Word16.join (bytes 1) (bytes 2) :=
    fun bytes => (analogReloaded_eq (withStack bytes) c n n ⟨fun _ => 0, 0⟩).2.2
  -- two stacks that differ in the last byte would be stored alike
  have hsame : Word16.join 0 0 = Word16.join 0 1 := by
    refine (hmax fun _ => 0).symm.trans (Eq.trans ?_ (hmax fun i => if i = 2 then 1 else 0))
    unfold analogReloaded
    rw [h (withStack fun _ => 0) (withStack fun i => if i = 2 then 1 else 0)]
  exact absurd hsame (by decide)

/-- **No sensor's settings survive a power cycle**; a start finds them again when they
happen to repeat the upper bound and the bytes of the stack. -/
theorem analogSurvives_never (n : Node) (c : Channel) :
    ¬ n.AnalogSurvives c ∧
      ∀ inputs m stream, AnalogRestored inputs c n m stream ↔
        (n.analogSensors c).config = Word16.high (n.analogSensors c).rangeMax ∧
        (n.analogSensors c).rangeMin
          = Word16.join (Word16.low (n.analogSensors c).rangeMax) (inputs.stack c 0) ∧
        (n.analogSensors c).rangeMax = Word16.join (inputs.stack c 1) (inputs.stack c 2) := by
  refine ⟨fun h => not_analogDetermined n c h.2, fun inputs m stream => ?_⟩
  obtain ⟨hconfig, hmin, hmax⟩ := analogReloaded_eq inputs c n m stream
  unfold AnalogRestored
  rw [hconfig, hmin, hmax]
  exact and_congr eq_comm (and_congr eq_comm eq_comm)

/-- An EEPROM with analog sensors on channels 0 and 2. -/
def analogEeprom : ℕ → UInt8 := fun i =>
  [header, 7, 0, 0, 0, 0, 0, 0, 0, 0, 3, 0, 3, 0, 1, 0x00, 0x10, 0x02, 0x30].getD i 0

/-- A sensor with range `0x10` to `0x230` is found with another one. -/
theorem analogSurvives_counterexample :
    ∃ n : Node, n.Reachable ∧ n.channelModules 0 = some .analog ∧
      (n.analogSensors 0).rangeMax = 0x230 ∧ ¬ n.AnalogSurvives 0 ∧
      ∀ m stream, (analogReloaded .idle 0 n m stream).rangeMax = 0 := by
  obtain ⟨n, hboot, hmodule, hrange⟩ : ∃ n, (blank analogEeprom).boot .idle = .ok n ∧
      n.channelModules 0 = some .analog ∧ (n.analogSensors 0).rangeMax = 0x230 :=
    ⟨_, rfl, by decide, by decide⟩
  refine ⟨n, .init ⟨_, _, hboot⟩, hmodule, hrange, fun h => ?_, fun m stream => ?_⟩
  · obtain ⟨-, -, hmax⟩ := h.1 .idle n ⟨fun _ => 0, 0⟩
    rw [(analogReloaded_eq .idle 0 n n ⟨fun _ => 0, 0⟩).2.2, hrange] at hmax
    exact absurd hmax (by decide)
  · exact (analogReloaded_eq .idle 0 n m stream).2.2

/-! ### The next sensor -/

/-- A sensor that takes part. -/
def Enabled (n : Node) (c : Channel) : Prop := (n.analogSensors c).state ≠ .disabled

/-- **The sensor whose turn it is next**: the first enabled one behind `prev`, in the
cyclic order of the channels; `prev` itself comes last. -/
def FirstEnabledAfter (n : Node) (prev next : Channel) : Prop :=
  ∃ k : ℕ, 1 ≤ k ∧ k ≤ 4 ∧ next = prev + Fin.ofNat 4 k ∧ n.Enabled next ∧
    ∀ j, 1 ≤ j → j < k → ¬ n.Enabled (prev + Fin.ofNat 4 j)

/-- The call of `select_next_sensor` returns, with the sensor whose turn it is. -/
def SelectsNext (n : Node) : Prop :=
  ∃ fuel next, n.selectNextSensorLoop n.selectedSensor fuel (n.selectedSensor + 1) = .ok next ∧
    n.FirstEnabledAfter n.selectedSensor next

/-- **The search ends at the right sensor exactly when the sensor of the next channel is
enabled.** -/
theorem selectNextSensor_iff (n : Node) : n.SelectsNext ↔ n.Enabled (n.selectedSensor + 1) := by
  constructor
  · rintro ⟨fuel, next, h, -⟩
    cases fuel with
    | zero => cases h
    | succ fuel =>
      rw [selectNextSensorLoop_eq] at h
      split at h
      · next henabled => exact henabled
      · cases h
  · intro h
    refine ⟨1, n.selectedSensor + 1, ?_, 1, le_rfl, by decide, rfl, h, fun j hj hlt => ?_⟩
    · exact (selectNextSensorLoop_eq n n.selectedSensor 0).trans (if_pos h)
    · omega

/-- Sensors on channels 0 and 2: the second tick asks for the next sensor, and hangs at
channel 1. -/
theorem selectNextSensor_counterexample :
    ∃ n : Node, n.Reachable ∧ n.selectedSensor = 0 ∧ (n.analogSensors 0).state = .active ∧
      n.handleTimer .idle = .error .divergence ∧
      (n.analogDeactivate .idle 0).Enabled 2 ∧ ¬ (n.analogDeactivate .idle 0).SelectsNext ∧
      ∀ fuel, (n.analogDeactivate .idle 0).selectNextSensorLoop 0 fuel 1 = .error .divergence := by
  obtain ⟨n₀, n, hboot, hstep, hselected, hactive, hsecond, hnext, htick⟩ :
      ∃ n₀ n, (blank analogEeprom).boot .idle = .ok n₀ ∧ n₀.step (.tick, .idle) = some n ∧
        n.selectedSensor = 0 ∧ (n.analogSensors 0).state = .active ∧
        (n.analogDeactivate .idle 0).Enabled 2 ∧
        ((n.analogDeactivate .idle 0).analogSensors 1).state = .disabled ∧
        n.handleTimer .idle = .error .divergence :=
    ⟨_, _, rfl, rfl, by decide, by decide, by unfold Enabled; decide, by decide, rfl⟩
  have hreachable : n.Reachable := .step _ (.init ⟨_, _, hboot⟩) hstep
  refine ⟨n, hreachable, hselected, hactive, htick, hsecond, fun h => ?_, fun fuel => ?_⟩
  · refine (selectNextSensor_iff _).mp h ?_
    change ((n.analogDeactivate .idle 0).analogSensors (n.selectedSensor + 1)).state = .disabled
    rw [hselected]
    exact hnext
  · have hne : 1 ≠ ((0 : Channel) : ℕ) := by decide
    exact selectNextSensorLoop_stuck (by decide) hne hnext fuel

end Node
end HomeAutomation
