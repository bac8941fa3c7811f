import Mathlib.Logic.Relation
import HomeAutomation.Node.Firmware

/-!
# What an event can do to the node

Whatever a frame, a tick or a start asks for, the firmware does it in a few kinds
of elementary steps: a call of an entry of the module that runs on a channel, a
new function for a channel, a write to the EEPROM.  An invariant of the node is
proved once for each kind.

## Main definitions

* `control` — the part of the state that belongs to no function of a channel.
* `Untouched` — that part is left alone, and the port of the thermometers.
* `Effect` — the elementary steps.
* `Reception` — what becomes of a received frame.

## Main results

* `untouched_onWrite` and its siblings — the entries of the modules leave that part
  alone.
* `setChannel_control` — what `CAN_Node_set_channel` does to it.
* `timerChannel_cases` — a turn of a tick.
* `handleReceivedData_reception` — every frame is received in one of these ways.
* `handle_effects` — an event is handled by elementary steps, with a reply or a
  reset behind them.
* `Reachable.of_effects` — the invariant rule of the firmware.

## References

`stm8/can_node/module.c`, `can.c`, `sysinfo.c`, `mod_proto.c`.
-/

namespace HomeAutomation

/-- The identifier of a frame, as `CAN_GetReceivedId` reads it. -/
def CanFrame.receivedId (frame : CanFrame) : UInt32 := frame.id &&& 0x1fffffff

/-- The number of data bytes, as `CAN_GetReceivedDLC` reads it. -/
def CanFrame.length (frame : CanFrame) : UInt8 := frame.dlc &&& 0x0f

/-- The address in the identifier of a frame. -/
def CanFrame.address (frame : CanFrame) : UInt16 := (numberToPacketId frame.receivedId).address

namespace Node

/-! ### The entries of the modules -/

/-- The part of the state that belongs to no function: the registry, the identity
of the device, the identifier to reply to, the EEPROM, and the trace of calls. -/
structure Control where
  moduleIds : Channel → UInt8
  channelModules : Channel → Option FunctionModule
  deviceId : UInt8
  label : Fin 8 → UInt8
  receivedId : UInt32
  eeprom : ℕ → UInt8
  calls : List ModuleCall

/-- That part of a node. -/
def control (n : Node) : Control :=
  ⟨n.moduleIds, n.channelModules, n.deviceId, n.label, n.receivedId, n.eeprom, n.calls⟩

/-- What most entries leave alone: the control part, and the port of the thermometers. -/
structure Untouched (n n' : Node) : Prop where
  control : n'.control = n.control
  oneWire : n'.oneWire = n.oneWire

theorem Untouched.channelModules {n n' : Node} (h : Untouched n n') :
    n'.channelModules = n.channelModules := congrArg Control.channelModules h.control

theorem untouched_buttonSetState (inputs : Inputs) (c : Channel) (n : Node) :
    Untouched n (n.buttonSetState inputs c) := by
  obtain ⟨state, h | ⟨data, h⟩⟩ := buttonSetState_eq inputs c n
  · rw [h]
    exact ⟨rfl, rfl⟩
  · rw [h]
    exact ⟨rfl, rfl⟩

/-- Only a thermometer sets up the port. -/
theorem untouched_onInit {m : FunctionModule} (hm : m ≠ .ds18b20) (c : Channel) (n : Node) :
    Untouched n (n.onInit c m) := by
  cases m with
  | switch => exact ⟨rfl, rfl⟩
  | button => exact ⟨rfl, rfl⟩
  | analog =>
    obtain ⟨pins, adc, selected, count, h⟩ := analogInit_eq c n
    rw [onInit, h]
    exact ⟨rfl, rfl⟩
  | ds18b20 => exact absurd rfl hm

/-- Only a thermometer shuts down the port. -/
theorem untouched_onDeinit {c : Channel} {n n' : Node} {m : FunctionModule} (hm : m ≠ .ds18b20)
    (h : n.onDeinit c m = .ok n') : Untouched n n' := by
  cases m with
  | switch =>
    cases h
    exact ⟨rfl, rfl⟩
  | button =>
    cases h
    exact ⟨rfl, rfl⟩
  | analog =>
    obtain ⟨adc, selected, count, rfl⟩ := analogDeinit_eq h
    exact ⟨rfl, rfl⟩
  | ds18b20 => exact absurd rfl hm

theorem untouched_onWrite (inputs : Inputs) (c : Channel) (address length : UInt8)
    (value : Fin 8 → UInt8) (n : Node) (m : FunctionModule) :
    Untouched n (n.onWrite inputs c address length value m) := by
  cases m with
  | switch => exact ⟨rfl, rfl⟩
  | button =>
    obtain h | ⟨button, pins, h⟩ := buttonWrite_eq inputs c address length value n
    · rw [onWrite, h]
      exact ⟨rfl, rfl⟩
    · have hstate := untouched_buttonSetState inputs c { n.setButton c button with pins := pins }
      rw [onWrite, h]
      exact ⟨hstate.control, hstate.oneWire⟩
  | analog =>
    obtain ⟨sensor, h⟩ := analogWrite_eq c address length value n
    rw [onWrite, h]
    exact ⟨rfl, rfl⟩
  | ds18b20 => exact ⟨rfl, rfl⟩

theorem untouched_onTimer {inputs : Inputs} {c : Channel} {n n' : Node} {m : FunctionModule}
    (h : n.onTimer inputs c m = some (.ok n')) : Untouched n n' := by
  cases m with
  | switch =>
    cases h
    obtain ⟨mode, offTimer, pins, h⟩ := switchTimer_eq c n
    rw [h]
    exact ⟨rfl, rfl⟩
  | button =>
    cases h
    exact untouched_buttonSetState inputs c n
  | analog =>
    obtain ⟨state, value, adc, selected, rfl⟩ := analogTimer_eq (Option.some.inj h)
    exact ⟨rfl, rfl⟩
  | ds18b20 => cases h

theorem untouched_onLoad {inputs : Inputs} {c : Channel} {n : Node} {stream : ByteStream}
    {m : FunctionModule} {r : Node × ByteStream} (h : n.onLoad inputs c stream m = some r) :
    Untouched n r.1 := by
  cases m with
  | switch =>
    cases h
    exact ⟨rfl, rfl⟩
  | button =>
    cases h
    have hstate := untouched_buttonSetState inputs c
      ((n.setButton c ⟨stream.readByte.1, .released⟩).buttonReinit c)
    exact ⟨hstate.control, hstate.oneWire⟩
  | analog =>
    cases h
    exact ⟨rfl, rfl⟩
  | ds18b20 => cases h

theorem control_onInit (c : Channel) (n : Node) (m : FunctionModule) :
    (n.onInit c m).control = n.control := by
  by_cases hm : m = .ds18b20
  · rw [hm]
    rfl
  · exact (untouched_onInit hm c n).control

theorem control_onDeinit {c : Channel} {n n' : Node} {m : FunctionModule}
    (h : n.onDeinit c m = .ok n') : n'.control = n.control := by
  by_cases hm : m = .ds18b20
  · subst hm
    cases h
    rfl
  · exact (untouched_onDeinit hm h).control

/-! ### `CAN_Node_set_channel` -/

/-- A call of one entry of the module on a channel, if there is a module. -/
def callsOn (c : Channel) (callback : Callback) (m : Option FunctionModule) : List ModuleCall :=
  m.toList.map fun m => ⟨c, m, callback⟩

/-- Either the channel was free, or its module has been shut down. -/
theorem releaseChannel_cases {c : Channel} {n n' : Node} (h : n.releaseChannel c = .ok n') :
    (n.channelModules c = none ∧ n' = n) ∨
      ∃ m n₁, n.channelModules c = some m ∧ (n.called m .deinit c).onDeinit c m = .ok n₁ ∧
        n' = { n₁ with channelModules := Function.update n₁.channelModules c none } := by
  unfold releaseChannel at h
  cases hm : n.channelModules c with
  | none =>
    rw [hm] at h
    cases h
    exact .inl ⟨rfl, rfl⟩
  | some m =>
    rw [hm] at h
    obtain ⟨n₁, hdeinit, h⟩ := bind_eq_ok_iff.mp h
    cases h
    exact .inr ⟨m, n₁, rfl, hdeinit, rfl⟩

/-- **`CAN_Node_set_channel` in its two parts.** -/
theorem exists_of_setChannel {c : Channel} {functionId : UInt8} {n n' : Node}
    (h : n.setChannel c functionId = .ok n') :
    ∃ n₁ m, n.releaseChannel c = .ok n₁ ∧ functionModules functionId = .ok m ∧
      n' = n₁.occupyChannel c functionId m := by
  obtain ⟨n₁, hrelease, h⟩ := bind_eq_ok_iff.mp h
  obtain ⟨m, hm, h⟩ := bind_eq_ok_iff.mp h
  cases h
  exact ⟨n₁, m, hrelease, hm, rfl⟩

theorem releaseChannel_control {c : Channel} {n n' : Node} (h : n.releaseChannel c = .ok n') :
    n'.control = { n.control with
      channelModules := Function.update n.channelModules c none
      calls := n.calls ++ callsOn c .deinit (n.channelModules c) } := by
  obtain ⟨hm, rfl⟩ | ⟨m, n₁, hm, hdeinit, rfl⟩ := releaseChannel_cases h
  · rw [← hm, Function.update_eq_self, hm]
    simp [control, callsOn]
  · rw [hm]
    exact congrArg (fun k : Control =>
      { k with channelModules := Function.update k.channelModules c none })
      (control_onDeinit hdeinit)

theorem occupyChannel_control (c : Channel) (functionId : UInt8) (m : Option FunctionModule)
    (n : Node) :
    (n.occupyChannel c functionId m).control = { n.control with
      moduleIds := Function.update n.moduleIds c functionId
      channelModules := Function.update n.channelModules c m
      calls := n.calls ++ callsOn c .init m } := by
  unfold occupyChannel
  cases m with
  | none => simp [control, callsOn]
  | some m =>
    dsimp only
    rw [control_onInit]
    rfl

/-- **What `CAN_Node_set_channel` does to the registry**: it writes both entries of
the channel, and calls the module that goes and the module that comes. -/
theorem setChannel_control {c : Channel} {functionId : UInt8} {n n' : Node}
    (h : n.setChannel c functionId = .ok n') :
    ∃ m, functionModules functionId = .ok m ∧
      n'.control = { n.control with
        moduleIds := Function.update n.moduleIds c functionId
        channelModules := Function.update n.channelModules c m
        calls := n.calls ++ callsOn c .deinit (n.channelModules c) ++ callsOn c .init m } := by
  obtain ⟨n₁, m, hrelease, hm, rfl⟩ := exists_of_setChannel h
  have hcontrol := releaseChannel_control hrelease
  refine ⟨m, hm, ?_⟩
  rw [occupyChannel_control, hcontrol]
  obtain ⟨hids, hmodules, -, -, -, -, hcalls⟩ := Control.mk.inj hcontrol
  rw [hids, hmodules, hcalls, Function.update_idem]
  rfl

/-! ### The loops over the channels -/

/-- A number that names no function is replaced by the one of `None`. -/
theorem loadedFunction_lt (functionId : UInt8) :
    (if functionId < functionCount then functionId else NodeFunction.none.toByte)
      < functionCount := by
  split
  · assumption
  · decide

/-- What `CAN_Node_set_channel` keeps, the loop over the function numbers keeps; the
number that is set is always one of a function. -/
theorem loadFunctions_rule {I : Node → Prop}
    (hset : ∀ c (f : NodeFunction) n n', I n → n.setChannel c f.toByte = .ok n' → I n')
    {cs : List Channel} {n : Node} {stream : ByteStream} {r : Node × ByteStream}
    (h : loadFunctions cs n stream = .ok r) (hn : I n) : I r.1 := by
  induction cs generalizing n stream with
  | nil =>
    cases h
    exact hn
  | cons c cs ih =>
    obtain ⟨n₁, hfirst, h⟩ := bind_eq_ok_iff.mp h
    obtain ⟨f, hf⟩ := NodeFunction.exists_ofByte_of_lt (loadedFunction_lt stream.readByte.1)
    rw [hf] at hfirst
    exact ih h (hset c f n n₁ hn hfirst)

/-- The same for channels that run nothing yet: each is free when its function is set. -/
theorem loadFunctions_free_rule {I : Node → Prop}
    (hset : ∀ c (f : NodeFunction) n n', I n → n.channelModules c = none →
      n.setChannel c f.toByte = .ok n' → I n') :
    ∀ {cs : List Channel} {n : Node} {stream : ByteStream} {r : Node × ByteStream}, cs.Nodup →
      (∀ c ∈ cs, n.channelModules c = none) → loadFunctions cs n stream = .ok r → I n → I r.1 := by
  intro cs
  induction cs with
  | nil =>
    intro n stream r _ _ h hn
    cases h
    exact hn
  | cons c cs ih =>
    intro n stream r hnodup hfree h hn
    obtain ⟨hc, hnodup⟩ := List.nodup_cons.mp hnodup
    obtain ⟨n₁, hfirst, h⟩ := bind_eq_ok_iff.mp h
    obtain ⟨f, hf⟩ := NodeFunction.exists_ofByte_of_lt (loadedFunction_lt stream.readByte.1)
    rw [hf] at hfirst
    obtain ⟨m, -, hcontrol⟩ := setChannel_control hfirst
    have hmodules : n₁.channelModules = Function.update n.channelModules c m :=
      congrArg Control.channelModules hcontrol
    -- the other channels are as free as before
    refine ih hnodup (fun d hd => ?_) h (hset c f n n₁ hn (hfree c List.mem_cons_self) hfirst)
    have hne : d ≠ c := fun heq => hc (heq ▸ hd)
    rw [hmodules, Function.update_of_ne hne]
    exact hfree d (List.mem_cons_of_mem c hd)

/-- What the modules keep when they load, the loop over the modules keeps. -/
theorem loadChannels_rule {inputs : Inputs} {I : Node → Prop}
    (hload : ∀ c m n stream r, I n → n.channelModules c = some m →
      (n.called m .load c).onLoad inputs c stream m = some r → I r.1)
    (cs : List Channel) {n : Node} (stream : ByteStream) (hn : I n) :
    I (loadChannels inputs cs n stream).1 := by
  induction cs generalizing n stream with
  | nil => exact hn
  | cons c cs ih =>
    have hturn : I (n.loadChannel inputs c stream).1 := by
      unfold loadChannel
      split
      · exact hn
      · next m hm =>
        split
        · exact hn
        · next hresult => exact hload c m n stream _ hn hm hresult
    exact ih _ hturn

/-- **A turn of a tick**: the function of the channel is told of it, if there is one that
wants to know. -/
theorem timerChannel_cases {inputs : Inputs} {c : Channel} {n n' : Node}
    (h : n.timerChannel inputs c = .ok n') :
    (n' = n ∧ ∀ m, n.channelModules c = some m → m = .ds18b20) ∨
      ∃ m, n.channelModules c = some m ∧
        (n.called m .timer c).onTimer inputs c m = some (.ok n') := by
  unfold timerChannel at h
  cases hm : n.channelModules c with
  | none =>
    rw [hm] at h
    cases h
    exact Or.inl ⟨rfl, nofun⟩
  | some m =>
    rw [hm] at h
    dsimp only at h
    split at h
    · next hnone =>
      cases h
      refine Or.inl ⟨rfl, fun m' hm' => ?_⟩
      cases hm'
      cases m <;> first | rfl | cases hnone
    · next hresult => exact Or.inr ⟨m, rfl, h ▸ hresult⟩

/-- A turn changes neither the table of modules nor the id of the device. -/
theorem timerChannel_identity {inputs : Inputs} {c : Channel} {n n' : Node}
    (h : n.timerChannel inputs c = .ok n') :
    n'.channelModules = n.channelModules ∧ n'.deviceId = n.deviceId := by
  obtain ⟨rfl, -⟩ | ⟨m, hm, htimer⟩ := timerChannel_cases h
  · exact ⟨rfl, rfl⟩
  · have hcontrol := (untouched_onTimer htimer).control
    exact ⟨congrArg Control.channelModules hcontrol, congrArg Control.deviceId hcontrol⟩

/-- What the modules keep on a tick, the loop over the modules keeps. -/
theorem timerChannels_rule {inputs : Inputs} {I : Node → Prop}
    (htimer : ∀ c m n n', I n → n.channelModules c = some m →
      (n.called m .timer c).onTimer inputs c m = some (.ok n') → I n')
    {cs : List Channel} {n n' : Node} (h : timerChannels inputs cs n = .ok n') (hn : I n) :
    I n' := by
  induction cs generalizing n with
  | nil =>
    cases h
    exact hn
  | cons c cs ih =>
    obtain ⟨n₁, hturn, h⟩ := bind_eq_ok_iff.mp h
    refine ih h ?_
    obtain ⟨rfl, -⟩ | ⟨m, hm, hresult⟩ := timerChannel_cases hturn
    · exact hn
    · exact htimer c m n n₁ hn hm hresult

/-! ### The elementary steps -/

/-- The elementary steps of the firmware. -/
inductive Effect (inputs : Inputs) : Node → Node → Prop
  /-- A function is put on a channel, in the place of the one that was there. -/
  | assign {n n' : Node} {c : Channel} (f : NodeFunction) (h : n.setChannel c f.toByte = .ok n') :
    Effect inputs n n'
  /-- The module of a channel is asked for a register. -/
  | request {n : Node} {c : Channel} {m : FunctionModule} (hm : n.channelModules c = some m) :
    Effect inputs n (n.called m .request c)
  /-- The module of a channel is given a value for a register. -/
  | write {n : Node} {c : Channel} {m : FunctionModule} (address length : UInt8)
      (value : Fin 8 → UInt8) (hm : n.channelModules c = some m) :
    Effect inputs n ((n.called m .write c).onWrite inputs c address length value m)
  /-- The module of a channel is told of a tick. -/
  | timer {n n' : Node} {c : Channel} {m : FunctionModule} (hm : n.channelModules c = some m)
      (h : (n.called m .timer c).onTimer inputs c m = some (.ok n')) :
    Effect inputs n n'
  /-- The module of a channel stores its settings. -/
  | save {n : Node} {c : Channel} {m : FunctionModule} (hm : n.channelModules c = some m) :
    Effect inputs n (n.called m .save c)
  /-- The module of a channel reads its settings back. -/
  | load {n : Node} {c : Channel} {m : FunctionModule} {stream : ByteStream}
      {r : Node × ByteStream} (hm : n.channelModules c = some m)
      (h : (n.called m .load c).onLoad inputs c stream m = some r) :
    Effect inputs n r.1
  /-- The EEPROM is written. -/
  | store (n : Node) (eeprom : ℕ → UInt8) : Effect inputs n { n with eeprom := eeprom }
  /-- The device gets an id and a label. -/
  | identify (n : Node) (deviceId : UInt8) (label : Fin 8 → UInt8) :
    Effect inputs n { n with deviceId := deviceId, label := label }

/-- Any number of elementary steps. -/
def Effects (inputs : Inputs) : Node → Node → Prop := Relation.ReflTransGen (Effect inputs)

theorem Effects.refl {inputs : Inputs} (n : Node) : Effects inputs n n :=
  Relation.ReflTransGen.refl

theorem Effects.trans {inputs : Inputs} {n n₁ n₂ : Node} (h₁ : Effects inputs n n₁)
    (h₂ : Effects inputs n₁ n₂) : Effects inputs n n₂ := Relation.ReflTransGen.trans h₁ h₂

theorem Effect.effects {inputs : Inputs} {n n' : Node} (h : Effect inputs n n') :
    Effects inputs n n' := .single h

/-- What every elementary step keeps, any number of them keeps. -/
theorem Effects.invariant {inputs : Inputs} {I : Node → Prop}
    (hstep : ∀ n n', I n → Effect inputs n n' → I n') {n n' : Node} (h : Effects inputs n n')
    (hn : I n) : I n' := by
  induction h with
  | refl => exact hn
  | tail _ hlast ih => exact hstep _ _ ih hlast

/-! ### The image in the EEPROM -/

theorem saveChannel_effects (inputs : Inputs) (c : Channel) (n : Node) (stream : ByteStream) :
    Effects inputs n (n.saveChannel inputs c stream).1 := by
  unfold saveChannel
  split
  · exact .refl n
  · next m hm =>
    split
    · exact .refl n
    · exact (Effect.save hm).effects

theorem saveChannels_effects (inputs : Inputs) (cs : List Channel) (n : Node)
    (stream : ByteStream) : Effects inputs n (saveChannels inputs cs n stream).1 := by
  induction cs generalizing n stream with
  | nil => exact .refl n
  | cons c cs ih => exact (saveChannel_effects inputs c n stream).trans (ih _ _)

theorem saveModules_effects (inputs : Inputs) (n : Node) :
    Effects inputs n (n.saveModules inputs) :=
  (saveChannels_effects inputs channels n _).trans (Effect.store _ _).effects

/-- **A start is a reset and elementary steps.** -/
theorem boot_effects {inputs : Inputs} {n n' : Node} (h : n.boot inputs = .ok n') :
    Effects inputs n.reset n' := by
  unfold boot loadModules at h
  dsimp only at h
  split at h
  · cases h
    exact .refl _
  · obtain ⟨⟨n₁, stream⟩, hfunctions, h⟩ := bind_eq_ok_iff.mp h
    cases h
    have hidentity : Effects inputs n.reset
        (n.reset.sysinfoLoad (ByteStream.readByte ⟨n.reset.eeprom, 0⟩).2).1 :=
      (Effect.identify n.reset _ _).effects
    have hfunctions' : Effects inputs n.reset n₁ :=
      loadFunctions_rule (fun _ f _ _ hn hset => hn.trans (Effect.assign f hset).effects)
        hfunctions hidentity
    exact loadChannels_rule (fun _ _ _ _ _ hn hm hload => hn.trans (Effect.load hm hload).effects)
      channels stream hfunctions'

/-! ### Frames and ticks -/

theorem sysinfoWrite_effects (inputs : Inputs) (address length : UInt8) (value : Fin 8 → UInt8)
    (n : Node) : Effects inputs n (n.sysinfoWrite inputs address length value) := by
  unfold sysinfoWrite
  split
  · exact (Effect.identify n n.deviceId _).effects.trans (saveModules_effects inputs _)
  · exact .refl n

theorem protoWrite_effects {inputs : Inputs} {address length : UInt8} {value : Fin 8 → UInt8}
    {n n' : Node} (h : n.protoWrite inputs address length value = .ok n') :
    Effects inputs n n' := by
  unfold protoWrite at h
  split at h
  · cases h
    exact saveModules_effects inputs n
  · split at h
    · cases h
      exact .refl n
    · next c _ =>
      split at h
      · cases h
        exact .refl n
      · next hcheck =>
        have hlt : value 0 < functionCount := UInt8.not_le.mp fun hle => hcheck (Or.inr hle)
        obtain ⟨f, hf⟩ := NodeFunction.exists_ofByte_of_lt hlt
        rw [hf] at h
        exact (Effect.assign f h).effects

/-- A frame for the module of a channel has passed both checks. -/
theorem of_dispatch_function {n : Node} {index : UInt8} {c : Channel} {m : FunctionModule}
    (h : n.dispatch index = some (.function c m)) :
    (index ≥ 0x80 ∧ index &&& 0x7f < 4 ∧ c = Fin.ofNat 4 (index &&& 0x7f).toNat) ∧
      n.channelModules c = some m := by
  unfold dispatch at h
  split at h
  · cases h
  split at h
  · cases h
  split at h
  · next hindex =>
    obtain ⟨m', hm', h⟩ := Option.map_eq_some_iff.mp h
    cases h
    exact ⟨⟨hindex.1, hindex.2, rfl⟩, hm'⟩
  · cases h

theorem write_effects {inputs : Inputs} {index address length : UInt8} {data : Fin 8 → UInt8}
    {n n' : Node} {target : Target} (htarget : n.dispatch index = some target)
    (h : n.write inputs address length data target = .ok n') : Effects inputs n n' := by
  cases target with
  | sysinfo =>
    cases h
    exact sysinfoWrite_effects inputs address length data n
  | proto => exact protoWrite_effects h
  | function c m =>
    cases h
    exact (Effect.write address length data (of_dispatch_function htarget).2).effects

/-- A request is a call of the module, and then a reply or none. -/
theorem request_effects {inputs : Inputs} {index address : UInt8} {n : Node} {target : Target}
    (htarget : n.dispatch index = some target) :
    ∃ m, Effects inputs n m ∧ (reply (n.request inputs address target) = m ∨
      ∃ data, reply (n.request inputs address target) = m.sendReply data) := by
  -- an answer is sent only when there is one and it is short enough
  have hreply : ∀ (m : Node) (response : Option (List UInt8)),
      reply (m, response) = m ∨ ∃ data, reply (m, response) = m.sendReply data := by
    rintro m (_ | response)
    · exact Or.inl rfl
    · unfold reply
      dsimp only
      split
      · exact Or.inr ⟨response, rfl⟩
      · exact Or.inl rfl
  cases target with
  | sysinfo =>
    refine ⟨n, .refl n, ?_⟩
    unfold request sysinfoRequest
    dsimp only
    split
    -- the handler of the label sends the answer itself
    case h_5 => exact Or.inr ⟨_, rfl⟩
    all_goals exact hreply n _
  | proto => exact ⟨n, .refl n, hreply n _⟩
  | function c m =>
    exact ⟨_, (Effect.request (of_dispatch_function htarget).2).effects, hreply _ _⟩

/-- **A request changes what was sent and called, and nothing else.** -/
theorem request_eq (inputs : Inputs) (address : UInt8) (n : Node) (target : Target) :
    ∃ sent calls, reply (n.request inputs address target)
      = { n with sent := sent, calls := calls } := by
  have hreply : ∀ (m : Node) (response : Option (List UInt8)),
      ∃ sent, reply (m, response) = { m with sent := sent } := by
    rintro m (_ | response)
    · exact ⟨m.sent, rfl⟩
    · unfold reply
      dsimp only
      split
      · exact ⟨_, rfl⟩
      · exact ⟨m.sent, rfl⟩
  cases target with
  | sysinfo =>
    unfold request sysinfoRequest
    dsimp only
    split
    case h_5 => exact ⟨_, n.calls, rfl⟩
    all_goals
      obtain ⟨sent, h⟩ := hreply n _
      exact ⟨sent, n.calls, h⟩
  | proto =>
    obtain ⟨sent, h⟩ := hreply n _
    exact ⟨sent, n.calls, h⟩
  | function c m =>
    obtain ⟨sent, h⟩ := hreply _ _
    exact ⟨sent, _, h⟩

theorem timerChannels_effects {inputs : Inputs} {cs : List Channel} {n n' : Node}
    (h : timerChannels inputs cs n = .ok n') : Effects inputs n n' :=
  timerChannels_rule (fun _ _ _ _ hn hm htimer => hn.trans (Effect.timer hm htimer).effects) h
    (.refl n)

/-! ### Received frames -/

/-- A frame with this identifier is addressed to the device. -/
def Addressed (n : Node) (id : UInt32) : Prop :=
  n.deviceId.toNat = (numberToPacketId id).deviceId.toNat

/-- The node with the identifier of a frame in the place that replies take it from. -/
def receiving (n : Node) (frame : CanFrame) : Node := { n with receivedId := frame.receivedId }

/-- What becomes of a received frame, with the checks it has passed by then. -/
inductive Reception (inputs : Inputs) (n : Node) (frame : CanFrame) (r : Except Fault Node) : Prop
  /-- A frame with a standard identifier is not looked at. -/
  | standard (hextended : frame.extended = false) (hr : r = .ok n)
  /-- A frame that is too long, that changes the id of another device, or that is
  addressed to another device, leaves its identifier behind. -/
  | dropped (hextended : frame.extended = true)
      (hcheck : frame.rtr = false ∧ frame.length > 8 ∨
        frame.rtr = false ∧ frame.receivedId = specialIdUpdate ∧
          ¬ (frame.length = 2 ∧ frame.payload 0 = n.deviceId) ∨
        frame.receivedId ≠ specialIdUpdate ∧ ¬ n.Addressed frame.receivedId)
      (hr : r = .ok (n.receiving frame))
  /-- A request for the ids of all devices is answered. -/
  | idRequest (hextended : frame.extended = true) (hrtr : frame.rtr = true)
      (hid : frame.receivedId = specialIdUpdate)
      (hr : r = .ok ((n.receiving frame).sendReply [n.deviceId]))
  /-- The device gets another id. -/
  | idChange (hextended : frame.extended = true) (hrtr : frame.rtr = false)
      (hid : frame.receivedId = specialIdUpdate) (hlength : frame.length = 2)
      (hold : frame.payload 0 = n.deviceId)
      (hr : r = (n.receiving frame).setDeviceId inputs (frame.payload 1))
  /-- A frame for a register of the device is dispatched. -/
  | own (hextended : frame.extended = true) (hlength : frame.rtr = true ∨ frame.length ≤ 8)
      (hid : frame.receivedId ≠ specialIdUpdate) (haddressed : n.Addressed frame.receivedId)
      (hr : r = (n.receiving frame).handlePacket inputs frame.rtr frame.address frame.length
        frame.payload)

/-- **What becomes of a received frame.** -/
theorem handleReceivedData_reception (inputs : Inputs) (frame : CanFrame) (n : Node) :
    Reception inputs n frame (n.handleReceivedData inputs frame) := by
  unfold handleReceivedData
  -- the checks of the handler, in its own order
  dsimp only
  split
  · next hextended => exact .standard (by simpa using hextended) rfl
  have hextended : frame.extended = true := by simp_all
  split
  · next hlong =>
    obtain ⟨hrtr, hlong⟩ := Bool.and_eq_true_iff.mp hlong
    exact .dropped hextended (Or.inl ⟨by simpa using hrtr, of_decide_eq_true hlong⟩) rfl
  next hshort =>
  split
  · next hid =>
    split
    · next hrtr => exact .idRequest hextended hrtr hid rfl
    · next hrtr =>
      have hrtr : frame.rtr = false := by simpa using hrtr
      split
      · next hchange => exact .idChange hextended hrtr hid hchange.1 hchange.2 rfl
      · next hchange => exact .dropped hextended (Or.inr (Or.inl ⟨hrtr, hid, hchange⟩)) rfl
  · next hid =>
    split
    · next hforeign => exact .dropped hextended (Or.inr (Or.inr ⟨hid, hforeign⟩)) rfl
    · next hown =>
      have hlength : frame.rtr = true ∨ frame.length ≤ 8 := by
        rw [← UInt8.not_lt]
        by_contra hcon
        obtain ⟨hrtr, hlong⟩ := not_or.mp hcon
        refine hshort (Bool.and_eq_true_iff.mpr ⟨by simpa using hrtr, ?_⟩)
        exact decide_eq_true (not_not.mp hlong)
      exact .own hextended hlength hid (not_not.mp hown) rfl

/-! ### Events -/

/-- What is left to be done with the state `m` that elementary steps lead to. -/
inductive Ending (inputs : Inputs) (m n' : Node) : Prop
  | done (h : n' = m)
  | replied (data : List UInt8) (h : n' = m.sendReply data)
  | restarted (h : Effects inputs m.reset n')

theorem handlePacket_effects {inputs : Inputs} {rtr : Bool} {address : UInt16} {length : UInt8}
    {data : Fin 8 → UInt8} {n n' : Node}
    (h : n.handlePacket inputs rtr address length data = .ok n') :
    ∃ m, Effects inputs n m ∧ Ending inputs m n' := by
  unfold handlePacket at h
  split at h
  · cases h
    exact ⟨_, .refl _, .done rfl⟩
  · next target htarget =>
    split at h
    · cases h
      obtain ⟨m, heffects, hdone | ⟨data, hreply⟩⟩ := request_effects htarget
      · exact ⟨m, heffects, .done hdone⟩
      · exact ⟨m, heffects, .replied data hreply⟩
    · exact ⟨n', write_effects htarget h, .done rfl⟩

/-- **An event is handled by elementary steps**, behind a frame or not; then there may
be a reply, or a reset and further steps. -/
theorem handle_effects {inputs : Inputs} {n n' : Node} {e : Event}
    (h : n.handle inputs e = .ok n') :
    ∃ n₀ m, (n₀ = n ∨ ∃ frame, n₀ = n.receiving frame) ∧ Effects inputs n₀ m ∧
      Ending inputs m n' := by
  cases e with
  | tick => exact ⟨n, n', Or.inl rfl, timerChannels_effects h, .done rfl⟩
  | powerCycle => exact ⟨n, n, Or.inl rfl, .refl n, .restarted (boot_effects h)⟩
  | frame frame =>
    cases handleReceivedData_reception inputs frame n with
    | standard hextended hr =>
      cases h.symm.trans hr
      exact ⟨n, n, Or.inl rfl, .refl n, .done rfl⟩
    | dropped hextended hcheck hr =>
      cases h.symm.trans hr
      exact ⟨_, _, Or.inr ⟨frame, rfl⟩, .refl _, .done rfl⟩
    | idRequest hextended hrtr hid hr =>
      cases h.symm.trans hr
      exact ⟨_, _, Or.inr ⟨frame, rfl⟩, .refl _, .replied [n.deviceId] rfl⟩
    | idChange hextended hrtr hid hlength hold hr =>
      have hidentify : Effects inputs (n.receiving frame)
          { n.receiving frame with deviceId := frame.payload 1 } :=
        (Effect.identify _ (frame.payload 1) n.label).effects
      exact ⟨_, _, Or.inr ⟨frame, rfl⟩, hidentify.trans (saveModules_effects inputs _),
        .restarted (boot_effects (hr.symm.trans h))⟩
    | own hextended hlength hid haddressed hr =>
      obtain ⟨m, heffects, hending⟩ := handlePacket_effects (hr.symm.trans h)
      exact ⟨_, m, Or.inr ⟨frame, rfl⟩, heffects, hending⟩

/-- **The invariant rule of the firmware**: what holds behind every reset, and what
every received identifier, every reply and every elementary step keeps, holds in every
state a node can be in. -/
theorem Reachable.of_effects {I : Node → Prop} (hreset : ∀ n : Node, I n.reset)
    (hreceive : ∀ (n : Node) (frame : CanFrame), I n → I (n.receiving frame))
    (hreply : ∀ (n : Node) (data : List UInt8), I n → I (n.sendReply data))
    (hstep : ∀ inputs n n', I n → Effect inputs n n' → I n') {n : Node} (h : n.Reachable) :
    I n := by
  refine Run.Reachable.invariant ?_ ?_ h
  · rintro n ⟨eeprom, inputs, hboot⟩
    exact (boot_effects hboot).invariant (hstep inputs) (hreset _)
  · intro n e n' hn hevent
    obtain ⟨n₀, m, hstart, heffects, hending⟩ := handle_effects (handle_eq_ok_of_step hevent)
    have hn₀ : I n₀ := by
      obtain rfl | ⟨frame, rfl⟩ := hstart
      · exact hn
      · exact hreceive n frame hn
    have hm := heffects.invariant (hstep e.2) hn₀
    cases hending with
    | done h => exact h ▸ hm
    | replied data h => exact h ▸ hreply m data hm
    | restarted h => exact h.invariant (hstep e.2) (hreset m)

end Node
end HomeAutomation
