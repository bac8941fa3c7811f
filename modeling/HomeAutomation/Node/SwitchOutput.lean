import HomeAutomation.Node.Handling

/-!
# The output of a switch

A switch keeps its mode, and drives the pin of its channel.  Whatever changes the mode or
the polarity drives the pin anew, but for one thing: the record of a switch outlives a
change of function, and a switch that comes back to its channel is given a pin that is
low, whatever its mode.

## Main definitions

* `Switch.level` — the level that a mode and a polarity ask for.
* `SwitchOutput` — the pin shows the mode, and so does the answer to a request.
* `SetsUpLow` — no switch is put on a channel where the level should be high.

## Main results

* `driven_setChannel`, `driven_onWrite`, `driven_onTimer`, `driven_onLoad` — what becomes
  of the pins.
* `switchOutput_iff` — the runs along which the pins show the modes.

## References

`stm8/can_node/mod_switch.c`, `module.c`.
-/

namespace HomeAutomation

/-- The level that `switch_update` drives. -/
def Switch.level (switch : Switch) : Bool :=
  xor (decide (switch.mode = .on)) (hasBit switch.config switchConfigPolarity)

theorem Switch.level_default : ({} : Switch).level = false := by decide

namespace Node

/-! ### What a pin shows -/

/-- **The pin of a switch is driven** to the level of its mode. -/
def Driven (n : Node) (c : Channel) : Prop := n.pins c = ⟨.output, (n.switches c).level⟩

/-- **The output of a switch**: the pin is driven to the level of the mode, and a request
for the value is answered with what the pin shows. -/
structure SwitchOutput (n : Node) (c : Channel) : Prop where
  driven : n.Driven c
  reported : ∀ inputs,
    n.answer inputs (fieldAddress (UInt8.ofNat c) SwitchField.value.toByte)
      = some [if xor (n.pins c).high (hasBit (n.switches c).config switchConfigPolarity) then 1
          else 0]

/-- The pins of all switches are driven. -/
def AllDriven (n : Node) : Prop := ∀ c, n.channelModules c = some .switch → n.Driven c

/-- What is reported is the mode. -/
theorem answer_value {n : Node} {c : Channel} (hm : n.channelModules c = some .switch)
    (inputs : Inputs) :
    n.answer inputs (fieldAddress (UInt8.ofNat c) SwitchField.value.toByte)
      = some [(n.switches c).mode.toByte] := answer_field hm inputs _

/-- A pin that is driven shows the mode that is reported. -/
theorem Driven.output {n : Node} {c : Channel} (h : n.Driven c)
    (hm : n.channelModules c = some .switch) : n.SwitchOutput c := by
  refine ⟨h, fun inputs => ?_⟩
  have hhigh : (n.pins c).high = (n.switches c).level := congrArg Pin.high h
  rw [answer_value hm, hhigh, Switch.level, Bool.xor_assoc, Bool.xor_self, Bool.xor_false]
  cases (n.switches c).mode <;> rfl

/-! ### What becomes of the pins -/

theorem driven_congr {n n' : Node} {c : Channel} (h : n'.records c = n.records c) :
    n'.Driven c ↔ n.Driven c := by
  obtain ⟨hswitch, -, -, hpin⟩ := Records.mk.inj h
  rw [Driven, Driven, hpin, hswitch]

/-- What an entry of a module does to the pins: those of other channels stay driven, and
so it is enough to know of the pin of its own, if the module is that of a switch. -/
theorem Touches.allDriven {n n' : Node} {c : Channel} {m : FunctionModule} (h : Touches c m n n')
    (hn : n.AllDriven) (hmodules : n'.channelModules = n.channelModules)
    (hm : n.channelModules c = some m) (hown : m = .switch → n.Driven c → n'.Driven c) :
    n'.AllDriven := by
  intro d hd
  rw [hmodules] at hd
  by_cases hc : d = c
  · subst hc
    have hswitch : m = .switch := Option.some.inj (hm.symm.trans hd)
    exact hown hswitch (hn d hd)
  · exact (driven_congr (h.elsewhere d hc)).mpr (hn d hd)

/-- `switch_update` drives a pin that is an output. -/
theorem driven_switchUpdate {n : Node} {c : Channel} (h : (n.pins c).mode = .output) :
    (n.switchUpdate c).Driven c := by
  simp [Driven, switchUpdate, gpioWrite, h, Switch.level]

theorem driven_switchWrite {n : Node} {c : Channel} (h : n.Driven c) (address length : UInt8)
    (value : Fin 8 → UInt8) : (n.switchWrite c address length value).Driven c :=
  driven_switchUpdate (congrArg Pin.mode h)

/-- **A tick that does not switch off leaves the level as it is.** -/
theorem driven_switchTimer {n : Node} {c : Channel} (h : n.Driven c) :
    (n.switchTimer c).Driven c := by
  unfold switchTimer
  dsimp only
  split
  · exact h
  split
  · exact driven_switchUpdate (congrArg Pin.mode h)
  · simpa [Driven, setSwitch, Switch.level] using h

/-- **A new function**: a switch that comes finds its pin low. -/
theorem driven_setChannel {n n' : Node} {c : Channel} {functionId : UInt8}
    (h : n.setChannel c functionId = .ok n') (hn : n.AllDriven) :
    (∀ d, d ≠ c → n'.channelModules d = some .switch → n'.Driven d) ∧
      (functionId = NodeFunction.switch.toByte →
        n'.channelModules c = some .switch ∧ n'.pins c = ⟨.output, false⟩) ∧
      (n'.channelModules c = some .switch → functionId = NodeFunction.switch.toByte) := by
  obtain ⟨-, helsewhere⟩ := setChannel_records h
  obtain ⟨m, hm, hcontrol⟩ := setChannel_control h
  have hmodules : n'.channelModules = Function.update n.channelModules c m :=
    congrArg Control.channelModules hcontrol
  refine ⟨fun d hd hswitch => ?_, ?_, fun hswitch => ?_⟩
  · rw [hmodules, Function.update_of_ne hd] at hswitch
    exact (driven_congr (helsewhere d hd)).mpr (hn d hswitch)
  · rintro rfl
    obtain ⟨n₁, -, h⟩ := bind_eq_ok_iff.mp h
    cases h
    refine ⟨?_, ?_⟩
    · rw [hmodules, Function.update_self]
      cases hm
      rfl
    · simp [occupyChannel, functionModule, onInit, switchInit, gpioInit, called]
  · rw [hmodules, Function.update_self] at hswitch
    subst hswitch
    obtain ⟨f, rfl, hswitch⟩ := exists_of_functionModules hm
    cases f <;> first | rfl | cases hswitch

/-! ### Starts and steps -/

/-- **Behind a start every switch is driven**: while the functions are loaded, the records
of the switches are those of a reset, and then every switch loads its own. -/
theorem allDriven_boot {inputs : Inputs} {n n' : Node} (h : n.boot inputs = .ok n') :
    n'.AllDriven := by
  refine boot_rule (I := fun m => m.AllDriven ∧ m.switches = n.reset.switches) (J := AllDriven) h
    ⟨nofun, rfl⟩ (fun _ _ _ hn => hn) ?_ (fun _ hn => hn.1) ?_
  · rintro c f n₁ n₂ ⟨hn₁, hswitches⟩ hset
    have hkept : n₂.switches = n.reset.switches := (setChannel_records hset).1.1.trans hswitches
    obtain ⟨hother, hown, hback⟩ := driven_setChannel hset hn₁
    refine ⟨fun d hd => ?_, hkept⟩
    by_cases hc : d = c
    · subst hc
      rw [Driven, (hown (hback hd)).2, hkept]
      exact congrArg (Pin.mk .output) Switch.level_default.symm
    · exact hother d hc hd
  · intro c m n₂ stream r hn₂ hm hload
    have hmodules : r.1.channelModules = n₂.channelModules :=
      (untouched_onLoad hload).channelModules
    refine (touches_onLoad hload).allDriven hn₂ hmodules hm fun hswitch hdriven => ?_
    subst hswitch
    cases hload
    exact driven_switchUpdate (congrArg Pin.mode hdriven)

theorem allDriven_tick {inputs : Inputs} {n n' : Node}
    (h : timerChannels inputs channels n = .ok n') (hn : n.AllDriven) : n'.AllDriven := by
  refine timerChannels_rule (I := AllDriven) ?_ h hn
  intro c m n₁ n₂ hn₁ hm htimer
  have hmodules : n₂.channelModules = n₁.channelModules :=
    (untouched_onTimer htimer).channelModules
  refine (touches_onTimer htimer).allDriven hn₁ hmodules hm fun hswitch hdriven => ?_
  subst hswitch
  cases htimer
  exact driven_switchTimer hdriven

/-- **No switch is put on a channel where the level of its record is high.** -/
def SetsUpLow (n : Node) (e : Event × Inputs) : Prop :=
  ∀ frame c, e.1 = .frame frame → n.Assigns c NodeFunction.switch.toByte frame →
    (n.switches c).level = false

/-- A step that puts a switch on a channel leaves its pin low. -/
theorem driven_assigned {n n' : Node} {c : Channel}
    (h : n.setChannel c NodeFunction.switch.toByte = .ok n') (hn : n.AllDriven) :
    n'.channelModules c = some .switch ∧ (n'.Driven c ↔ (n.switches c).level = false) := by
  obtain ⟨hmodule, hpin⟩ := (driven_setChannel h hn).2.1 rfl
  refine ⟨hmodule, ?_⟩
  rw [Driven, hpin, (setChannel_records h).1.1]
  exact ⟨fun h => (congrArg Pin.high h).symm, fun h => by rw [h]⟩

/-- **Every other step keeps the pins driven.** -/
theorem allDriven_step {n n' : Node} {e : Event × Inputs} (hn : n.AllDriven)
    (hlow : n.SetsUpLow e) (h : n.step e = some n') : n'.AllDriven := by
  obtain ⟨event, inputs⟩ := e
  cases handling_step h with
  | tick h => exact allDriven_tick h hn
  | quiet hsent hresets hassigns hcommands => exact hn
  | @assigned frame _ c functionId hassigns hset =>
    obtain ⟨hother, hown, hback⟩ := driven_setChannel (n := n.receiving frame) hset hn
    intro d hd
    by_cases hc : d = c
    · subst hc
      obtain rfl := hback hd
      exact (driven_assigned (n := n.receiving frame) hset hn).2.mpr (hlow frame d rfl hassigns)
    · exact hother d hc hd
  | @commanded frame c m hcommands =>
    have hmodules := (untouched_onWrite inputs c (addressLo frame.address) frame.length
      frame.payload ((n.receiving frame).called m .write c) m).channelModules
    refine (touches_onWrite inputs c _ _ _ _ m).allDriven
      (n := (n.receiving frame).called m .write c) hn hmodules hcommands.2.2
      fun hswitch hdriven => ?_
    subst hswitch
    exact driven_switchWrite hdriven _ _ _
  | restarted hresets hsent h => exact allDriven_boot h

/-! ### The exact condition -/

/-- The output of every switch. -/
def SwitchOutputs (n : Node) : Prop :=
  ∀ c, n.channelModules c = some .switch → n.SwitchOutput c

/-- **When the pins show the modes.**  From a start, whatever the EEPROM held, the output of
every switch is right in every state of a run exactly when no step of the run puts a switch
on a channel where the level of its record is high. -/
theorem switchOutput_iff {n : Node} (h : n.Started) (es : List (Event × Inputs)) :
    Run.Always step SwitchOutputs n es ↔ ∀ t ∈ Run.trace step n es, t.1.SetsUpLow t.2.1 := by
  obtain ⟨eeprom, inputs, hboot⟩ := h
  refine Run.always_iff_trace (I := AllDriven) (fun n e n' => allDriven_step)
    (fun n hn c hm => (hn c hm).output hm) ?_ es n (allDriven_boot hboot)
  intro n e n' hn hhigh hstep houtputs
  refine hhigh fun frame c heq hassigns => ?_
  obtain ⟨event, inputs⟩ := e
  obtain rfl : event = .frame frame := heq
  have hset : (n.receiving frame).setChannel c NodeFunction.switch.toByte = .ok n' :=
    (handle_assigns inputs hassigns).symm.trans (handle_eq_ok_of_step hstep)
  obtain ⟨hmodule, hdriven⟩ := driven_assigned (n := n.receiving frame) hset hn
  exact hdriven.mp (houtputs c hmodule).driven

/-- A frame with one byte for device 5. -/
def byteFrame (address : UInt16) (value : UInt8) : CanFrame where
  extended := true
  id := packetIdToNumber ⟨0, 5, address⟩
  rtr := false
  dlc := 1
  data _ := value

/-- A switch that is off is put on its channel again. -/
theorem switchOutput_off : ∃ n : Node, n.Started ∧
    Run.Always step SwitchOutputs n
      [(.frame (byteFrame (functionAddress 0 ||| 0x100) NodeFunction.none.toByte), .idle),
        (.frame (byteFrame (functionAddress 0 ||| 0x100) NodeFunction.switch.toByte), .idle)] := by
  obtain ⟨n, hboot, n₁, n₂, htrace, hlevel⟩ :
      ∃ n, (blank switchEeprom).boot .idle = .ok n ∧ ∃ n₁ n₂, Run.trace step n
        [(.frame (byteFrame (functionAddress 0 ||| 0x100) NodeFunction.none.toByte), .idle),
          (.frame (byteFrame (functionAddress 0 ||| 0x100) NodeFunction.switch.toByte), .idle)]
        = [(n, _, n₁), (n₁, _, n₂)] ∧
          (∀ c, (n.switches c).level = false) ∧ ∀ c, (n₁.switches c).level = false :=
    ⟨_, rfl, _, _, rfl, by decide, by decide⟩
  refine ⟨n, ⟨_, _, hboot⟩, (switchOutput_iff ⟨_, _, hboot⟩ _).mpr ?_⟩
  rw [htrace]
  intro t ht frame c heq hassigns
  obtain rfl | ht := List.mem_cons.mp ht
  · exact hlevel.1 c
  · obtain rfl := List.mem_singleton.mp ht
    exact hlevel.2 c

/-- **A switch that is on is put on its channel again**: the pin is low, and the node still
reports that the switch is on. -/
theorem switch_comes_back_low : ∃ n₀ n : Node, n₀.Started ∧
    Run.exec step n₀
      [(.frame (byteFrame (fieldAddress 0 SwitchField.value.toByte) 1), .idle),
        (.frame (byteFrame (functionAddress 0 ||| 0x100) NodeFunction.none.toByte), .idle),
        (.frame (byteFrame (functionAddress 0 ||| 0x100) NodeFunction.switch.toByte), .idle)]
      = some n ∧
    n.channelModules 0 = some .switch ∧ (n.switches 0).mode = .on ∧
    (n.switches 0).config = 0 ∧ n.pins 0 = ⟨.output, false⟩ ∧
    (∀ inputs, n.answer inputs (fieldAddress 0 SwitchField.value.toByte) = some [1]) ∧
    ¬ n.SwitchOutputs := by
  obtain ⟨n₀, hboot, n, hexec, hmodule, hmode, hconfig, hpin⟩ :
      ∃ n₀, (blank switchEeprom).boot .idle = .ok n₀ ∧ ∃ n, Run.exec step n₀
        [(.frame (byteFrame (fieldAddress 0 SwitchField.value.toByte) 1), .idle),
          (.frame (byteFrame (functionAddress 0 ||| 0x100) NodeFunction.none.toByte), .idle),
          (.frame (byteFrame (functionAddress 0 ||| 0x100) NodeFunction.switch.toByte), .idle)]
        = some n ∧ n.channelModules 0 = some .switch ∧ (n.switches 0).mode = .on ∧
          (n.switches 0).config = 0 ∧ n.pins 0 = ⟨.output, false⟩ :=
    ⟨_, rfl, _, rfl, by decide, by decide, by decide, by decide⟩
  refine ⟨n₀, n, ⟨_, _, hboot⟩, hexec, hmodule, hmode, hconfig, hpin, fun inputs => ?_, fun h => ?_⟩
  · exact (answer_value hmodule inputs).trans (by rw [hmode]; rfl)
  · have hdriven := (h 0 hmodule).driven
    rw [Driven, hpin, Switch.level, hmode, hconfig] at hdriven
    exact absurd hdriven (by decide)

end Node
end HomeAutomation
