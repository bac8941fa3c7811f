import HomeAutomation.Node.Effects

/-!
# Which module runs on which channel

The firmware keeps two tables for the channels: the number of the function and
the module that runs.  Only `CAN_Node_set_channel` writes them, and it writes both;
so in every state a node can be in, the module of a channel is the one registered
for its number.

## Main definitions

* `assignment` — the two tables.
* `Consistent` — the module of each channel is the one of its number.

## Main results

* `setChannel_assignment` — what `CAN_Node_set_channel` does to the tables.
* `Reachable.consistent` — the tables agree in every reachable state.

## References

`stm8/can_node/module.c`.
-/

namespace HomeAutomation
namespace Node

/-- The numbers and the modules of the channels. -/
def assignment (n : Node) : (Channel → UInt8) × (Channel → Option FunctionModule) :=
  (n.moduleIds, n.channelModules)

/-- The module of each channel is the one registered for its function. -/
def Consistent (n : Node) : Prop := ∀ c, functionModules (n.moduleIds c) = .ok (n.channelModules c)

theorem Consistent.of_eq {n n' : Node} (h : n.Consistent) (heq : n'.assignment = n.assignment) :
    n'.Consistent := by
  intro c
  obtain ⟨hids, hmodules⟩ := Prod.mk.inj heq
  rw [hids, hmodules]
  exact h c

/-! ### Who leaves the tables alone -/

/-- The tables are a part of what belongs to no function. -/
theorem assignment_of_control {n n' : Node} (h : n'.control = n.control) :
    n'.assignment = n.assignment :=
  congrArg (fun k : Control => (k.moduleIds, k.channelModules)) h

theorem assignment_called (n : Node) (m : FunctionModule) (callback : Callback) (c : Channel) :
    (n.called m callback c).assignment = n.assignment := rfl

theorem saveChannels_fst (inputs : Inputs) (cs : List Channel) (n : Node) (stream : ByteStream) :
    ∃ calls, (saveChannels inputs cs n stream).1 = { n with calls := calls } := by
  induction cs generalizing n stream with
  | nil => exact ⟨n.calls, rfl⟩
  | cons c cs ih =>
    have hturn : ∃ calls, (n.saveChannel inputs c stream).1 = { n with calls := calls } := by
      unfold saveChannel
      split
      · exact ⟨n.calls, rfl⟩
      · split
        · exact ⟨n.calls, rfl⟩
        · exact ⟨_, rfl⟩
    obtain ⟨calls₁, h₁⟩ := hturn
    obtain ⟨calls, h⟩ := ih (n.saveChannel inputs c stream).1 (n.saveChannel inputs c stream).2
    refine ⟨calls, h.trans ?_⟩
    rw [h₁]

/-- **Saving changes the EEPROM and nothing else** that the firmware can see. -/
theorem saveModules_eq (inputs : Inputs) (n : Node) :
    ∃ calls, n.saveModules inputs
      = { n with eeprom := (n.saveModules inputs).eeprom, calls := calls } := by
  obtain ⟨calls, h⟩ := saveChannels_fst inputs channels n _
  exact ⟨calls, by unfold saveModules; dsimp only; rw [h]⟩

theorem assignment_sysinfoLoad (n : Node) (stream : ByteStream) :
    (n.sysinfoLoad stream).1.assignment = n.assignment := rfl

theorem assignment_loadChannels (inputs : Inputs) (cs : List Channel) (n : Node)
    (stream : ByteStream) : (loadChannels inputs cs n stream).1.assignment = n.assignment := by
  refine loadChannels_rule (I := fun n' => n'.assignment = n.assignment) ?_ cs stream rfl
  intro c m n₁ stream r hn _ hload
  exact (assignment_of_control (untouched_onLoad hload).control).trans hn

/-! ### `CAN_Node_set_channel` -/

/-- **What `CAN_Node_set_channel` does to the tables**: it writes both entries of
the channel. -/
theorem setChannel_assignment {c : Channel} {functionId : UInt8} {n n' : Node}
    (h : n.setChannel c functionId = .ok n') :
    ∃ m, functionModules functionId = .ok m ∧
      n'.assignment
        = (Function.update n.moduleIds c functionId, Function.update n.channelModules c m) := by
  obtain ⟨m, hm, hcontrol⟩ := setChannel_control h
  exact ⟨m, hm, congrArg (fun k : Control => (k.moduleIds, k.channelModules)) hcontrol⟩

theorem Consistent.setChannel {c : Channel} {functionId : UInt8} {n n' : Node}
    (hn : n.Consistent) (h : n.setChannel c functionId = .ok n') : n'.Consistent := by
  obtain ⟨m, hm, heq⟩ := setChannel_assignment h
  obtain ⟨hids, hmodules⟩ := Prod.mk.inj heq
  intro d
  rw [hids, hmodules]
  by_cases hd : d = c
  · rw [hd, Function.update_self, Function.update_self]
    exact hm
  · rw [Function.update_of_ne hd, Function.update_of_ne hd]
    exact hn d

theorem Consistent.loadFunctions {cs : List Channel} {n : Node} {stream : ByteStream}
    {r : Node × ByteStream} (hn : n.Consistent) (h : loadFunctions cs n stream = .ok r) :
    r.1.Consistent :=
  loadFunctions_rule (fun _ _ _ _ hn hset => hn.setChannel hset) h hn

/-! ### Reachable states -/

theorem consistent_reset (n : Node) : n.reset.Consistent := fun _ => rfl

theorem Consistent.effect {inputs : Inputs} {n n' : Node} (hn : n.Consistent)
    (h : Effect inputs n n') : n'.Consistent := by
  cases h with
  | assign f h => exact hn.setChannel h
  | request hm => exact hn
  | write address length value hm =>
    exact hn.of_eq
      ((assignment_of_control (untouched_onWrite inputs _ address length value _ _).control).trans
        (assignment_called n _ .write _))
  | timer hm h =>
    exact hn.of_eq ((assignment_of_control (untouched_onTimer h).control).trans
      (assignment_called n _ .timer _))
  | save hm => exact hn
  | load hm h =>
    exact hn.of_eq ((assignment_of_control (untouched_onLoad h).control).trans
      (assignment_called n _ .load _))
  | store eeprom => exact hn
  | identify deviceId label => exact hn

/-- **The tables agree in every state a node can be in.** -/
theorem Reachable.consistent {n : Node} (h : n.Reachable) : n.Consistent :=
  h.of_effects consistent_reset (fun _ _ hn => hn) (fun _ _ hn => hn)
    fun _ _ _ hn heffect => hn.effect heffect

theorem Consistent.moduleIds_lt {n : Node} (hn : n.Consistent) (c : Channel) :
    n.moduleIds c < functionCount := by
  obtain ⟨f, hf, -⟩ := exists_of_functionModules (hn c)
  rw [hf]
  exact NodeFunction.toByte_lt f

end Node
end HomeAutomation
