import HomeAutomation.Node.Handling

/-!
# The 1-Wire port

There is one 1-Wire port for all channels.  A thermometer that is put on a channel sets
the port up, and one that is taken from its channel shuts it down, whether or not there
is another one.

## Main definitions

* `portUp` — whether the last call that sets the port up or shuts it down set it up.
* `PortServed` — the port is up exactly when a channel runs a thermometer.
* `LeavesPort` — no thermometer is taken away from beside another one.

## Main results

* `setChannel_oneWire` — what `CAN_Node_set_channel` makes of the port.
* `Reachable.portUp` — the state of the port in terms of the calls.
* `portServed_iff` — the runs along which the port is served.

## References

`stm8/can_node/mod_ds18b20.c`, `onewire.c`, `module.c`.
-/

namespace HomeAutomation
namespace Node

/-! ### The port and the calls -/

/-- What a call makes of the port. -/
def portCall (up : Bool) (k : ModuleCall) : Bool :=
  match k.module, k.callback with
  | .ds18b20, .init => true
  | .ds18b20, .deinit => false
  | _, _ => up

/-- **The port after some calls**: the last of `CAN_Node_OW_init` and `CAN_Node_OW_deinit`
that they come to was the first of the two. -/
def portUp (calls : List ModuleCall) : Bool := calls.foldl portCall false

/-! ### The entries of the modules -/

/-- A call of a module other than that of a thermometer. -/
theorem portCall_of_ne {m : FunctionModule} (hm : m ≠ .ds18b20) (up : Bool) (c : Channel)
    (callback : Callback) : portCall up ⟨c, m, callback⟩ = up := by
  cases m with
  | switch => rfl
  | button => rfl
  | analog => rfl
  | ds18b20 => exact absurd rfl hm

theorem oneWire_onInit (c : Channel) (n : Node) (m : FunctionModule) :
    (n.onInit c m).oneWire = portCall n.oneWire ⟨c, m, .init⟩ := by
  by_cases hm : m = .ds18b20
  · rw [hm]
    rfl
  · rw [portCall_of_ne hm]
    exact (untouched_onInit hm c n).oneWire

theorem oneWire_onDeinit {c : Channel} {n n' : Node} {m : FunctionModule}
    (h : n.onDeinit c m = .ok n') : n'.oneWire = portCall n.oneWire ⟨c, m, .deinit⟩ := by
  by_cases hm : m = .ds18b20
  · subst hm
    cases h
    rfl
  · rw [portCall_of_ne hm]
    exact (untouched_onDeinit hm h).oneWire

/-! ### New functions -/

theorem releaseChannel_oneWire {c : Channel} {n n' : Node} (h : n.releaseChannel c = .ok n') :
    n'.oneWire = (callsOn c .deinit (n.channelModules c)).foldl portCall n.oneWire := by
  obtain ⟨hm, rfl⟩ | ⟨m, n₁, hm, hdeinit, rfl⟩ := releaseChannel_cases h
  · rw [hm]
    rfl
  · rw [hm]
    have hport := oneWire_onDeinit hdeinit
    exact hport

theorem occupyChannel_oneWire (c : Channel) (functionId : UInt8) (m : Option FunctionModule)
    (n : Node) :
    (n.occupyChannel c functionId m).oneWire = (callsOn c .init m).foldl portCall n.oneWire := by
  unfold occupyChannel
  cases m with
  | none => rfl
  | some m => exact oneWire_onInit c _ m

/-- **What `CAN_Node_set_channel` makes of the port**: what the two calls make of it. -/
theorem setChannel_oneWire {c : Channel} {functionId : UInt8} {n n' : Node}
    (h : n.setChannel c functionId = .ok n') :
    ∃ m, functionModules functionId = .ok m ∧
      n'.channelModules = Function.update n.channelModules c m ∧
      n'.oneWire = (callsOn c .deinit (n.channelModules c) ++ callsOn c .init m).foldl portCall
        n.oneWire := by
  obtain ⟨m, hm, hcontrol⟩ := setChannel_control h
  refine ⟨m, hm, congrArg Control.channelModules hcontrol, ?_⟩
  obtain ⟨n₁, m', hrelease, hm', rfl⟩ := exists_of_setChannel h
  cases hm.symm.trans hm'
  rw [occupyChannel_oneWire, releaseChannel_oneWire hrelease, List.foldl_append]

/-! ### The port in terms of the calls -/

theorem portUp_append (calls more : List ModuleCall) :
    portUp (calls ++ more) = more.foldl portCall (portUp calls) := List.foldl_append

/-- A call that neither sets a module up nor shuts it down. -/
theorem portUp_called (n : Node) (m : FunctionModule) {callback : Callback} (c : Channel)
    (hinit : callback ≠ .init) (hdeinit : callback ≠ .deinit) :
    portUp (n.called m callback c).calls = portUp n.calls := by
  refine (portUp_append n.calls _).trans ?_
  cases m <;> cases callback <;> first | rfl | exact absurd rfl hinit | exact absurd rfl hdeinit

/-- **The port is what the calls made of it**, in every state a node can be in. -/
theorem Reachable.portUp {n : Node} (h : n.Reachable) : n.oneWire = Node.portUp n.calls := by
  refine h.of_effects (I := fun n => n.oneWire = Node.portUp n.calls) (fun _ => rfl)
    (fun _ _ hn => hn) (fun _ _ hn => hn) ?_
  intro inputs n n' hn heffect
  -- every other elementary step is a call, and leaves the port as it is
  have hcall : ∀ (c : Channel) (m : FunctionModule) (callback : Callback) {n' : Node},
      Untouched (n.called m callback c) n' → callback ≠ .init ∧ callback ≠ .deinit →
      n'.oneWire = Node.portUp n'.calls := by
    intro c m callback n' huntouched ⟨hinit, hdeinit⟩
    have hcalls : n'.calls = (n.called m callback c).calls :=
      congrArg Control.calls huntouched.control
    rw [huntouched.oneWire, hcalls, portUp_called n m c hinit hdeinit, ← hn]
    rfl
  cases heffect with
  | assign f h =>
    obtain ⟨m, hm, -, hport⟩ := setChannel_oneWire h
    obtain ⟨m', hm', hcontrol⟩ := setChannel_control h
    cases hm.symm.trans hm'
    have hcalls := congrArg Control.calls hcontrol
    rw [hport, hn, ← portUp_append]
    exact congrArg Node.portUp ((List.append_assoc _ _ _).symm.trans hcalls.symm)
  | @request c m hm => exact hcall c m .request ⟨rfl, rfl⟩ ⟨nofun, nofun⟩
  | @write c m address length value hm =>
    exact hcall c m .write (untouched_onWrite inputs c address length value _ m) ⟨nofun, nofun⟩
  | @timer _ c m hm h => exact hcall c m .timer (untouched_onTimer h) ⟨nofun, nofun⟩
  | @save c m hm => exact hcall c m .save ⟨rfl, rfl⟩ ⟨nofun, nofun⟩
  | @load c m _ _ hm h => exact hcall c m .load (untouched_onLoad h) ⟨nofun, nofun⟩
  | store eeprom => exact hn
  | identify deviceId label => exact hn

/-! ### Thermometers and the port -/

/-- **The port is served**: it is up exactly when a channel runs a thermometer. -/
def PortServed (n : Node) : Prop :=
  n.oneWire = true ↔ ∃ c, n.channelModules c = some .ds18b20

/-- The table of modules and the port tell whether it is. -/
theorem PortServed.congr {n n' : Node} (h : n.PortServed)
    (hmodules : n'.channelModules = n.channelModules) (hport : n'.oneWire = n.oneWire) :
    n'.PortServed := by
  rw [PortServed, hmodules, hport]
  exact h

/-- **No thermometer is taken from its channel while there is another one.** -/
def LeavesPort (n : Node) (e : Event × Inputs) : Prop :=
  ∀ frame c functionId, e.1 = .frame frame → n.Assigns c functionId frame →
    n.channelModules c = some .ds18b20 → functionId ≠ NodeFunction.ds18b20.toByte →
    ∀ d, d ≠ c → n.channelModules d ≠ some .ds18b20

/-- The module behind a number is that of a thermometer. -/
theorem functionModules_ds18b20_iff {functionId : UInt8} {m : Option FunctionModule}
    (h : functionModules functionId = .ok m) :
    m = some .ds18b20 ↔ functionId = NodeFunction.ds18b20.toByte := by
  obtain ⟨f, rfl, rfl⟩ := exists_of_functionModules h
  cases f <;> decide

/-- **A new function and the port**: where a thermometer goes and none comes, the port is
shut down; where one comes, it is set up; and else it stays as it is. -/
theorem oneWire_cases {c : Channel} {functionId : UInt8} {n n' : Node}
    (h : n.setChannel c functionId = .ok n') :
    (functionId = NodeFunction.ds18b20.toByte ∧ n'.oneWire = true ∧
      n'.channelModules c = some .ds18b20) ∨
    (functionId ≠ NodeFunction.ds18b20.toByte ∧ n'.channelModules c ≠ some .ds18b20 ∧
      n'.oneWire = if n.channelModules c = some .ds18b20 then false else n.oneWire) := by
  obtain ⟨m, hm, hmodules, hport⟩ := setChannel_oneWire h
  have hmodule : n'.channelModules c = m := by rw [hmodules, Function.update_self]
  have hiff := functionModules_ds18b20_iff hm
  by_cases hid : functionId = NodeFunction.ds18b20.toByte
  · have hthermometer := hiff.mpr hid
    subst hthermometer
    refine Or.inl ⟨hid, ?_, hmodule⟩
    rw [hport, List.foldl_append]
    rfl
  · have hother : m ≠ some .ds18b20 := fun h => hid (hiff.mp h)
    refine Or.inr ⟨hid, hmodule ▸ hother, ?_⟩
    -- what comes does not touch the port
    have hinit : ∀ up, (callsOn c .init m).foldl portCall up = up := by
      intro up
      cases m with
      | none => rfl
      | some m => cases m <;> first | rfl | exact absurd rfl hother
    rw [hport, List.foldl_append, hinit]
    cases n.channelModules c with
    | none => rfl
    | some old => cases old <;> rfl

/-- **A new function keeps the port served** unless it takes a thermometer from beside
another one. -/
theorem portServed_setChannel_iff {c : Channel} {functionId : UInt8} {n n' : Node}
    (h : n.setChannel c functionId = .ok n') (hn : n.PortServed) :
    n'.PortServed ↔ (n.channelModules c = some .ds18b20 →
      functionId ≠ NodeFunction.ds18b20.toByte →
        ∀ d, d ≠ c → n.channelModules d ≠ some .ds18b20) := by
  obtain ⟨m, hm, hmodules, -⟩ := setChannel_oneWire h
  have helsewhere : ∀ d, d ≠ c → n'.channelModules d = n.channelModules d := fun d hd => by
    rw [hmodules, Function.update_of_ne hd]
  obtain ⟨hid, hport, hmodule⟩ | ⟨hid, hmodule, hport⟩ := oneWire_cases h
  · refine iff_of_true ?_ fun _ hne => absurd hid hne
    rw [PortServed, hport]
    exact iff_of_true rfl ⟨c, hmodule⟩
  -- no thermometer comes, so the ones there are those of the other channels
  have hothers : (∃ d, n'.channelModules d = some .ds18b20) ↔
      ∃ d, d ≠ c ∧ n.channelModules d = some .ds18b20 := by
    constructor
    · rintro ⟨d, hd⟩
      have hne : d ≠ c := by
        rintro rfl
        exact hmodule hd
      exact ⟨d, hne, helsewhere d hne ▸ hd⟩
    · rintro ⟨d, hne, hd⟩
      exact ⟨d, (helsewhere d hne).trans hd⟩
  rw [PortServed, hothers, hport]
  by_cases hold : n.channelModules c = some .ds18b20
  · rw [if_pos hold]
    constructor
    · exact fun hserved _ _ d hne hd => Bool.false_ne_true (hserved.mpr ⟨d, hne, hd⟩)
    · intro hleaves
      refine iff_of_false Bool.false_ne_true ?_
      rintro ⟨d, hne, hd⟩
      exact hleaves hold hid d hne hd
  · rw [if_neg hold]
    refine iff_of_true (hn.trans ?_) fun hthermometer => absurd hthermometer hold
    refine exists_congr fun d => (and_iff_right_of_imp fun hd => ?_).symm
    rintro rfl
    exact hold hd

/-! ### Steps -/

/-- **Behind a start the port is served**: every function was put on a channel that had
none. -/
theorem portServed_boot {inputs : Inputs} {n n' : Node} (h : n.boot inputs = .ok n') :
    n'.PortServed := by
  refine boot_free_rule (I := PortServed) (J := PortServed) h ?_ (fun _ _ _ hn => hn) ?_
    (fun _ hn => hn) ?_
  · exact iff_of_false Bool.false_ne_true nofun
  · intro c f n₁ n₂ hn₁ hfree hset
    exact (portServed_setChannel_iff hset hn₁).mpr fun hm => nomatch hfree.symm.trans hm
  · intro c m n₁ stream r hn₁ hm hload
    have hport := (untouched_onLoad hload).oneWire
    exact hn₁.congr (untouched_onLoad hload).channelModules hport

theorem portServed_tick {inputs : Inputs} {n n' : Node}
    (h : timerChannels inputs channels n = .ok n') (hn : n.PortServed) : n'.PortServed := by
  refine timerChannels_rule (I := PortServed) ?_ h hn
  intro c m n₁ n₂ hn₁ hm htimer
  have hport := (untouched_onTimer htimer).oneWire
  exact hn₁.congr (untouched_onTimer htimer).channelModules hport

/-- **A step keeps the port served** exactly when it leaves it to the thermometers there
are. -/
theorem portServed_step_iff {n n' : Node} {e : Event × Inputs} (hn : n.PortServed)
    (h : n.step e = some n') : n'.PortServed ↔ n.LeavesPort e := by
  obtain ⟨event, inputs⟩ := e
  cases handling_step h with
  | tick htick => exact iff_of_true (portServed_tick htick hn) nofun
  | @quiet frame receivedId sent calls label eeprom hsent hresets hassigns hcommands =>
    refine iff_of_true hn ?_
    rintro _ c functionId ⟨rfl⟩ h
    exact absurd h (hassigns c functionId)
  | @assigned frame _ c functionId hassigns hset =>
    rw [portServed_setChannel_iff (n := n.receiving frame) hset hn]
    constructor
    · rintro hleaves _ d id ⟨rfl⟩ h
      obtain ⟨rfl, rfl⟩ := hassigns.unique h
      exact hleaves
    · exact fun hleaves => hleaves frame c functionId rfl hassigns
  | @commanded frame c m hcommands =>
    refine iff_of_true (hn.congr ?_ (untouched_onWrite inputs c _ _ _ _ m).oneWire) ?_
    · exact (untouched_onWrite inputs c _ _ _ _ m).channelModules
    · rintro _ d functionId ⟨rfl⟩ h
      exact absurd hcommands h.not_commands
  | restarted hresets hsent hboot =>
    refine iff_of_true (portServed_boot hboot) ?_
    rintro frame c functionId heq hassigns
    obtain rfl : event = .frame frame := heq
    exact absurd hresets hassigns.1.not_resets

/-! ### The exact condition -/

/-- **When the port is served.**  From a start, whatever the EEPROM held, the port is up
exactly while a channel runs a thermometer, in every state of a run, if and only if no step
of the run takes a thermometer from its channel while there is another one. -/
theorem portServed_iff {n : Node} (h : n.Started) (es : List (Event × Inputs)) :
    Run.Always step PortServed n es ↔ ∀ t ∈ Run.trace step n es, t.1.LeavesPort t.2.1 := by
  obtain ⟨eeprom, inputs, hboot⟩ := h
  refine Run.always_iff_trace (I := PortServed) ?_ (fun _ hn => hn) ?_ es n (portServed_boot hboot)
  · exact fun n e n' hn hleaves hstep => (portServed_step_iff hn hstep).mpr hleaves
  · exact fun n e n' hn hleaves hstep hserved => hleaves ((portServed_step_iff hn hstep).mp hserved)

/-- An EEPROM of device 5 with these function numbers. -/
def functionsEeprom (ids : List UInt8) : ℕ → UInt8 :=
  fun i => ([0x53, 5, 0, 0, 0, 0, 0, 0, 0, 0] ++ ids).getD i 0

/-- A frame that puts a function on a channel of device 5. -/
def assignFrame (c : UInt8) (f : NodeFunction) : CanFrame where
  extended := true
  id := packetIdToNumber ⟨0, 5, functionAddress c ||| 0x100⟩
  rtr := false
  dlc := 1
  data _ := f.toByte

/-- A lone thermometer is taken away, and put on another channel. -/
theorem portServed_moved : ∃ n : Node, n.Started ∧ Run.Always step PortServed n
    [(.frame (assignFrame 0 .none), .idle), (.frame (assignFrame 1 .ds18b20), .idle)] := by
  obtain ⟨n, hboot, n₁, n₂, htrace, hlone, hlone₁⟩ :
      ∃ n, (blank (functionsEeprom [5])).boot .idle = .ok n ∧ ∃ n₁ n₂, Run.trace step n
        [(.frame (assignFrame 0 .none), .idle), (.frame (assignFrame 1 .ds18b20), .idle)]
        = [(n, _, n₁), (n₁, _, n₂)] ∧
          (∀ c d, n.channelModules c = some .ds18b20 → d ≠ c →
            n.channelModules d ≠ some .ds18b20) ∧
          ∀ c d, n₁.channelModules c = some .ds18b20 → d ≠ c →
            n₁.channelModules d ≠ some .ds18b20 :=
    ⟨_, rfl, _, _, rfl, by decide, by decide⟩
  refine ⟨n, ⟨_, _, hboot⟩, (portServed_iff ⟨_, _, hboot⟩ _).mpr ?_⟩
  rw [htrace]
  rintro t ht frame c functionId - - hm - d hne
  obtain rfl | ht := List.mem_cons.mp ht
  · exact hlone c d hm hne
  · obtain rfl := List.mem_singleton.mp ht
    exact hlone₁ c d hm hne

/-- **One of two thermometers is taken away**: the port is shut down, and the other one
still runs. -/
theorem port_down_in_use : ∃ n₀ n : Node, n₀.Started ∧
    Run.exec step n₀ [(.frame (assignFrame 1 .none), .idle)] = some n ∧
    n.channelModules 0 = some .ds18b20 ∧ n.oneWire = false ∧ Node.portUp n.calls = false ∧
    ¬ n.PortServed := by
  obtain ⟨n₀, hboot, n, hexec, hmodule, hport, hcalls⟩ :
      ∃ n₀, (blank (functionsEeprom [5, 5])).boot .idle = .ok n₀ ∧ ∃ n, Run.exec step n₀
        [(.frame (assignFrame 1 .none), .idle)] = some n ∧
          n.channelModules 0 = some .ds18b20 ∧ n.oneWire = false ∧ Node.portUp n.calls = false :=
    ⟨_, rfl, _, rfl, by decide, by decide, by decide⟩
  refine ⟨n₀, n, ⟨_, _, hboot⟩, hexec, hmodule, hport, hcalls, fun hserved => ?_⟩
  exact Bool.false_ne_true (hport.symm.trans (hserved.mpr ⟨0, hmodule⟩))

end Node
end HomeAutomation
