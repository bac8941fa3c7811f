import HomeAutomation.Node.Assignment
import HomeAutomation.Node.Requests

/-!
# The life of a module on a channel

A module serves a channel from the call of its `on_init` to the call of its
`on_deinit`.  The table of modules is changed by the loader and by frames, and it is
used by frames, by ticks and by the image in the EEPROM; in any order of these, the
calls a channel sees are brackets around the life of one module after the other.

## Main definitions

* `callsOf` — the calls that a channel has seen since the last reset.
* `lifeStep` — what a call makes of the module that is up.
* `WellBracketed` — every call lies between an `on_init` and its `on_deinit`.

## Main results

* `wellBracketed_of_exec` — a word that `lifeStep` accepts is well bracketed.
* `InStep.effect` — every elementary step keeps the calls in step with the table.
* `Reachable.moduleLifecycle` — the tables and the calls in every reachable state.

## References

`stm8/can_node/module.c`, `mod_proto.c`, `can.c`.
-/

namespace HomeAutomation
namespace Node

/-! ### Words of calls -/

/-- The calls on one channel: the module and the entry. -/
def callsOf (c : Channel) (calls : List ModuleCall) : List (FunctionModule × Callback) :=
  (calls.filter fun k => k.channel = c).map fun k => (k.module, k.callback)

/-- What a call makes of the module that is up, if the call is in its place. -/
def lifeStep : Option FunctionModule → FunctionModule × Callback → Option (Option FunctionModule)
  | none, (m, .init) => some (some m)
  | none, _ => none
  | some _, (_, .init) => none
  | some up, (m, .deinit) => if m = up then some none else none
  | some up, (m, _) => if m = up then some (some up) else none

/-- **Brackets around the life of a module**: a module is set up only where the one
before it, if any, was shut down, and every other call comes behind the `on_init` of
the same module, with neither an `on_init` nor an `on_deinit` between the two. -/
def WellBracketed (calls : List (FunctionModule × Callback)) : Prop :=
  ∀ before m callback after, calls = before ++ (m, callback) :: after →
    (callback = .init → before = [] ∨ ∃ earlier m', before = earlier ++ [(m', .deinit)]) ∧
    (callback ≠ .init → ∃ earlier life, before = earlier ++ (m, .init) :: life ∧
      ∀ k ∈ life, k.1 = m ∧ k.2 ≠ .init ∧ k.2 ≠ .deinit)

/-- A call is in its place when it sets a module up where none is, or is a call of
the module that is up. -/
theorem lifeStep_cases {up up' : Option FunctionModule} {m : FunctionModule} {callback : Callback}
    (h : lifeStep up (m, callback) = some up') :
    (callback = .init ∧ up = none ∧ up' = some m) ∨
    (callback = .deinit ∧ up = some m ∧ up' = none) ∨
    (callback ≠ .init ∧ callback ≠ .deinit ∧ up = some m ∧ up' = some m) := by
  cases up with
  | none =>
    cases callback with
    | init =>
      cases h
      exact Or.inl ⟨rfl, rfl, rfl⟩
    | _ => cases h
  | some up =>
    cases callback with
    | init => cases h
    | deinit =>
      simp only [lifeStep] at h
      split at h
      · next heq =>
        cases h
        exact Or.inr (Or.inl ⟨rfl, by rw [heq], rfl⟩)
      · cases h
    | _ =>
      simp only [lifeStep] at h
      split at h
      · next heq =>
        cases h
        exact Or.inr (Or.inr ⟨nofun, nofun, by rw [heq], by rw [heq]⟩)
      · cases h

/-- What a word that is accepted ends with, by the module that is up behind it. -/
theorem ending_of_exec (calls : List (FunctionModule × Callback)) :
    ∀ up, Run.exec lifeStep none calls = some up →
      (up = none → calls = [] ∨ ∃ earlier m', calls = earlier ++ [(m', .deinit)]) ∧
      ∀ m, up = some m → ∃ earlier life, calls = earlier ++ (m, .init) :: life ∧
        ∀ k ∈ life, k.1 = m ∧ k.2 ≠ .init ∧ k.2 ≠ .deinit := by
  induction calls using List.reverseRecOn with
  | nil =>
    intro up h
    cases h
    exact ⟨fun _ => Or.inl rfl, nofun⟩
  | append_singleton calls k ih =>
    intro up h
    obtain ⟨m, callback⟩ := k
    rw [Run.exec_append] at h
    obtain ⟨up₀, hcalls, h⟩ := Option.bind_eq_some_iff.mp h
    obtain ⟨up', hlast, h⟩ := Option.bind_eq_some_iff.mp h
    cases h
    obtain ⟨rfl, -, rfl⟩ | ⟨rfl, -, rfl⟩ | ⟨hinit, hdeinit, rfl, rfl⟩ := lifeStep_cases hlast
    · refine ⟨nofun, fun m' hm' => ⟨calls, [], ?_, fun k hk => absurd hk List.not_mem_nil⟩⟩
      cases hm'
      rfl
    · exact ⟨fun _ => Or.inr ⟨calls, m, rfl⟩, nofun⟩
    · refine ⟨nofun, fun m' hm' => ?_⟩
      cases hm'
      -- the life of the module that is up gets one call longer
      obtain ⟨earlier, life, rfl, hlife⟩ := (ih _ hcalls).2 m rfl
      refine ⟨earlier, life ++ [(m, callback)], by simp, fun k hk => ?_⟩
      obtain hk | hk := List.mem_append.mp hk
      · exact hlife k hk
      · rw [List.mem_singleton.mp hk]
        exact ⟨rfl, hinit, hdeinit⟩

/-- **A word that is accepted is well bracketed.** -/
theorem wellBracketed_of_exec {calls : List (FunctionModule × Callback)}
    {up : Option FunctionModule} (h : Run.exec lifeStep none calls = some up) :
    WellBracketed calls := by
  rintro before m callback after rfl
  rw [Run.exec_append] at h
  obtain ⟨up₀, hbefore, h⟩ := Option.bind_eq_some_iff.mp h
  obtain ⟨up', hcall, -⟩ := Option.bind_eq_some_iff.mp h
  obtain ⟨hfree, hup⟩ := ending_of_exec before up₀ hbefore
  obtain ⟨rfl, rfl, -⟩ | ⟨rfl, rfl, -⟩ | ⟨hinit, -, rfl, -⟩ := lifeStep_cases hcall
  · exact ⟨fun _ => hfree rfl, fun hne => absurd rfl hne⟩
  · exact ⟨nofun, fun _ => hup m rfl⟩
  · exact ⟨fun heq => absurd heq hinit, fun _ => hup m rfl⟩

/-! ### The calls of a node -/

/-- The calls each channel has seen are accepted, and end with the module of the
channel up. -/
def InStep (n : Node) : Prop :=
  ∀ c, Run.exec lifeStep none (callsOf c n.calls) = some (n.channelModules c)

theorem callsOf_append (c : Channel) (calls more : List ModuleCall) :
    callsOf c (calls ++ more) = callsOf c calls ++ callsOf c more := by
  simp [callsOf]

/-- Further calls go on from the module that is up. -/
theorem InStep.append {n n' : Node} (hn : n.InStep) {more : List ModuleCall}
    (hcalls : n'.calls = n.calls ++ more)
    (hmore : ∀ c, Run.exec lifeStep (n.channelModules c) (callsOf c more)
      = some (n'.channelModules c)) : n'.InStep := by
  intro c
  rw [hcalls, callsOf_append, Run.exec_append, hn c]
  exact hmore c

/-- A call of the module that runs, other than the two that frame its life. -/
theorem InStep.call {n n' : Node} (hn : n.InStep) {c : Channel} {m : FunctionModule}
    (hm : n.channelModules c = some m) (callback : Callback)
    (h : n'.control = (n.called m callback c).control)
    (hlife : lifeStep (some m) (m, callback) = some (some m)) : n'.InStep := by
  obtain ⟨-, hmodules, -, -, -, -, hcalls⟩ := Control.mk.inj h
  refine hn.append hcalls fun d => ?_
  rw [hmodules]
  by_cases hd : c = d
  · subst hd
    have hword : callsOf c [⟨c, m, callback⟩] = [(m, callback)] := by simp [callsOf]
    rw [hword, hm, Run.exec, hlife]
    exact congrArg some hm.symm
  · have hword : callsOf d [⟨c, m, callback⟩] = [] := by simp [callsOf, hd]
    rw [hword]
    rfl

/-- A new function: the module that goes, and then the module that comes. -/
theorem InStep.setChannel {n n' : Node} (hn : n.InStep) {c : Channel} {functionId : UInt8}
    (h : n.setChannel c functionId = .ok n') : n'.InStep := by
  obtain ⟨m, -, hcontrol⟩ := setChannel_control h
  obtain ⟨-, hmodules, -, -, -, -, hcalls⟩ := Control.mk.inj hcontrol
  refine hn.append (hcalls.trans (List.append_assoc _ _ _)) fun d => ?_
  rw [hmodules]
  by_cases hd : d = c
  · subst hd
    rw [Function.update_self]
    cases n.channelModules d with
    | none => cases m <;> simp [callsOf, callsOn, Run.exec, lifeStep]
    | some old => cases m <;> simp [callsOf, callsOn, Run.exec, lifeStep]
  · have hother : ∀ (callback : Callback) (m : Option FunctionModule),
        callsOf d (callsOn c callback m) = [] := by
      intro callback m
      cases m <;> simp [callsOf, callsOn, Ne.symm hd]
    rw [callsOf_append, hother, hother, Function.update_of_ne hd]
    rfl

/-- **Every elementary step keeps the calls in step with the table.** -/
theorem InStep.effect {inputs : Inputs} {n n' : Node} (hn : n.InStep) (h : Effect inputs n n') :
    n'.InStep := by
  cases h with
  | assign f h => exact hn.setChannel h
  | request hm => exact hn.call hm .request rfl (if_pos rfl)
  | write address length value hm =>
    exact hn.call hm .write (untouched_onWrite inputs _ address length value _ _).control
      (if_pos rfl)
  | timer hm h => exact hn.call hm .timer (untouched_onTimer h).control (if_pos rfl)
  | save hm => exact hn.call hm .save rfl (if_pos rfl)
  | load hm h => exact hn.call hm .load (untouched_onLoad h).control (if_pos rfl)
  | store eeprom => exact hn
  | identify deviceId label => exact hn

theorem Reachable.inStep {n : Node} (h : n.Reachable) : n.InStep :=
  h.of_effects (fun _ _ => rfl) (fun _ _ hn => hn) (fun _ _ hn => hn)
    fun _ _ _ hn heffect => hn.effect heffect

/-! ### Indices -/

/-- The index a frame is dispatched with is the number of the channel, uncut. -/
theorem index_of_dispatch {n : Node} {index : UInt8} {c : Channel} {m : FunctionModule}
    (h : n.dispatch index = some (.function c m)) : (index &&& 0x7f).toNat = c := by
  rw [(dispatch_eq_function_iff.mp h).1]
  clear h
  revert c
  decide

/-- The channel of a function register is the distance from the first one, uncut. -/
theorem index_of_functionRegister {address : UInt8} {c : Channel}
    (h : functionRegister address = some c) : (address - channelFunction0).toNat = c := by
  rw [functionRegister_eq_some_iff.mp h]
  clear h
  revert c
  decide

/-! ### Reachable states -/

/-- **The life of the modules**, whatever the EEPROM held at the start and whatever
frames and ticks were handled since: every function number names a function, every
channel has the module registered for its number, the modules are called with the
index the frame or the register gives, which is that of a channel, and the calls on
each channel are well bracketed — also those made while a new device id is stored,
right before the reset. -/
theorem Reachable.moduleLifecycle {n : Node} (h : n.Reachable) :
    (∀ c, n.moduleIds c < functionCount) ∧
    (∀ c, functionModules (n.moduleIds c) = .ok (n.channelModules c)) ∧
    (∀ index c m, n.dispatch index = some (.function c m) →
      (index &&& 0x7f).toNat = c ∧ (c : ℕ) < channels.length) ∧
    (∀ address c, functionRegister address = some c →
      (address - channelFunction0).toNat = c ∧ (c : ℕ) < channels.length) ∧
    (∀ c, WellBracketed (callsOf c n.calls)) ∧
    ∀ inputs deviceId c,
      WellBracketed (callsOf c ({ n with deviceId := deviceId }.saveModules inputs).calls) := by
  have hstep := h.inStep
  refine ⟨h.consistent.moduleIds_lt, h.consistent, ?_, ?_, ?_, ?_⟩
  · exact fun index c m hdispatch => ⟨index_of_dispatch hdispatch, c.isLt⟩
  · exact fun address c hregister => ⟨index_of_functionRegister hregister, c.isLt⟩
  · exact fun c => wellBracketed_of_exec (hstep c)
  · intro inputs deviceId c
    have heffects : Effects inputs n ({ n with deviceId := deviceId }.saveModules inputs) :=
      (Effect.identify n deviceId n.label).effects.trans (saveModules_effects inputs _)
    have hsaved := heffects.invariant (fun _ _ hn heffect => InStep.effect hn heffect) hstep
    exact wellBracketed_of_exec (hsaved c)

/-- An EEPROM of device 5 with a switch on channel 0. -/
def switchEeprom : ℕ → UInt8 := fun i => [0x53, 5, 0, 0, 0, 0, 0, 0, 0, 0, 1].getD i 0

/-- A frame that puts a button on channel 0 of device 5. -/
def buttonFrame : CanFrame where
  extended := true
  id := packetIdToNumber ⟨0, 5, functionAddress 0 ||| 0x100⟩
  rtr := false
  dlc := 1
  data _ := NodeFunction.button.toByte

/-- The switch of the sample is loaded, ticks once, and gives way to a button. -/
theorem moduleLifecycle_sample :
    ∃ n : Node, n.Reachable ∧
      callsOf 0 n.calls = [(.switch, .init), (.switch, .load), (.switch, .timer),
        (.switch, .deinit), (.button, .init)] ∧
      WellBracketed (callsOf 0 n.calls) := by
  obtain ⟨n₀, hboot, n, hexec, hcalls⟩ : ∃ n₀, (blank switchEeprom).boot .idle = .ok n₀ ∧
      ∃ n, Run.exec step n₀ [(.tick, .idle), (.frame buttonFrame, .idle)] = some n ∧
        callsOf 0 n.calls = [(.switch, .init), (.switch, .load), (.switch, .timer),
          (.switch, .deinit), (.button, .init)] :=
    ⟨_, rfl, _, rfl, by decide⟩
  have hreach : n.Reachable := Run.reachable_of_exec ⟨_, _, hboot⟩ hexec
  obtain ⟨-, -, -, -, hbrackets, -⟩ := Reachable.moduleLifecycle hreach
  exact ⟨n, hreach, hcalls, hbrackets 0⟩

end Node
end HomeAutomation
