import HomeAutomation.Node.Notices
import HomeAutomation.Node.RegisterFile

/-!
# What an event asks of the functions

Most of what happens to a node is no business of the functions of its channels: frames
for other devices, requests, labels, the image in the EEPROM.  What is left are the tick,
which every function is told of, the frame that puts a function on a channel, the frame
that is handed to the function of a channel, and the reset.

## Main definitions

* `Assigns`, `Commands`, `WritesByte` — the frames that change a function, and those for
  one.
* `Handling` — the ways an event is handled.

## Main results

* `handling_step` — every step is one of them.
* `handle_assigns` — what a frame that assigns a function does.
* `boot_rule` — the rule for starts.
* `timerChannels_local` — a tick, by the channels.
* `timerChannels_sent` — what is sent on a tick.
* `touches_onWrite` and its siblings — whose records an entry changes.

## References

`stm8/can_node/can.c`, `module.c`, `mod_proto.c`.
-/

namespace HomeAutomation
namespace Node

/-! ### Frames -/

/-- **A frame that puts a function on a channel**, with its number. -/
def Assigns (n : Node) (c : Channel) (functionId : UInt8) (frame : CanFrame) : Prop :=
  n.Writes frame ∧
    (moduleIndex frame.address = 1 ∧
      addressLo frame.address = channelFunction0 + UInt8.ofNat c) ∧
    frame.length = 1 ∧ frame.payload 0 = functionId ∧ functionId < functionCount

/-- **A frame that is handed to the function of a channel.** -/
def Commands (n : Node) (c : Channel) (m : FunctionModule) (frame : CanFrame) : Prop :=
  n.Writes frame ∧ moduleIndex frame.address = channelSpace c ∧ n.channelModules c = some m

/-- **A frame that writes one byte to a field** of the function of a channel. -/
def WritesByte (n : Node) (c : Channel) (m : FunctionModule) (field : UInt8) (frame : CanFrame) :
    Prop := n.Commands c m frame ∧ addressLo frame.address = field ∧ frame.length = 1

instance (n : Node) (c : Channel) (functionId : UInt8) (frame : CanFrame) :
    Decidable (n.Assigns c functionId frame) := inferInstanceAs (Decidable (_ ∧ _))

instance (n : Node) (c : Channel) (m : FunctionModule) (frame : CanFrame) :
    Decidable (n.Commands c m frame) := inferInstanceAs (Decidable (_ ∧ _))

theorem channelSpace_ne_one (c : Channel) : channelSpace c ≠ 1 := (channelSpace_spec c).1.2

instance (n : Node) (c : Channel) (m : FunctionModule) (field : UInt8) (frame : CanFrame) :
    Decidable (n.WritesByte c m field frame) := inferInstanceAs (Decidable (_ ∧ _))

instance (n : Node) (e : Event × Inputs) : Decidable (n.Resets e) :=
  match e with
  | (.frame _, _) => inferInstanceAs (Decidable (_ ∧ _))
  | (.tick, _) => inferInstanceAs (Decidable False)
  | (.powerCycle, _) => inferInstanceAs (Decidable True)

/-- A frame is for the function of one channel. -/
theorem Commands.unique {n : Node} {c d : Channel} {m m' : FunctionModule} {frame : CanFrame}
    (h : n.Commands c m frame) (h' : n.Commands d m' frame) : d = c ∧ m' = m := by
  obtain rfl : d = c := channelSpace_injective (h'.2.1.symm.trans h.2.1)
  exact ⟨rfl, Option.some.inj (h'.2.2.symm.trans h.2.2)⟩

/-- A frame assigns one function to one channel. -/
theorem Assigns.unique {n : Node} {c d : Channel} {functionId functionId' : UInt8}
    {frame : CanFrame} (h : n.Assigns c functionId frame) (h' : n.Assigns d functionId' frame) :
    d = c ∧ functionId' = functionId := by
  have hregister : functionRegister (addressLo frame.address) = some c :=
    functionRegister_eq_some_iff.mpr h.2.1.2
  obtain rfl : d = c :=
    Option.some.inj ((functionRegister_eq_some_iff.mpr h'.2.1.2).symm.trans hregister)
  exact ⟨rfl, h'.2.2.2.1.symm.trans h.2.2.2.1⟩

/-- A frame that assigns a function is for none. -/
theorem Assigns.not_commands {n : Node} {c d : Channel} {functionId : UInt8} {m : FunctionModule}
    {frame : CanFrame} (h : n.Assigns c functionId frame) : ¬ n.Commands d m frame :=
  fun h' => channelSpace_ne_one d (h'.2.1.symm.trans h.2.1.1)

/-- A write is no reset. -/
theorem Writes.not_resets {n : Node} {frame : CanFrame} {inputs : Inputs} (h : n.Writes frame) :
    ¬ n.Resets (.frame frame, inputs) := fun hresets => h.2.1 hresets.2.2.1

/-- **A data frame for the device is dispatched.** -/
theorem handle_writes (inputs : Inputs) {n : Node} {frame : CanFrame} (h : n.Writes frame) :
    n.handle inputs (.frame frame) = (n.receiving frame).handlePacket inputs false frame.address
      frame.length frame.payload := by
  cases handleReceivedData_reception inputs frame n with
  | standard hstandard hr => exact nomatch h.1.1.symm.trans hstandard
  | dropped hextended hcheck hr => exact absurd h (not_writes_of_dropped hcheck)
  | idRequest hextended hrtr hid hr => exact absurd hid h.2.1
  | idChange hextended hrtr hid hlength hold hr => exact absurd hid h.2.1
  | own hextended hlength hid haddressed hr =>
    rw [h.1.2.1] at hr
    exact hr

/-- **A frame that assigns a function** has `CAN_Node_set_channel` called. -/
theorem handle_assigns (inputs : Inputs) {n : Node} {c : Channel} {functionId : UInt8}
    {frame : CanFrame} (h : n.Assigns c functionId frame) :
    n.handle inputs (.frame frame) = (n.receiving frame).setChannel c functionId := by
  obtain ⟨hwrites, ⟨hindex, haddress⟩, hlength, rfl, hlt⟩ := h
  have hregister : functionRegister (addressLo frame.address) = some c :=
    functionRegister_eq_some_iff.mpr haddress
  have hnotsave : addressLo frame.address ≠ channelSaveConfig := by
    rw [haddress]
    clear hregister haddress
    revert c
    decide
  rw [handle_writes inputs hwrites, handlePacket, dispatch_eq_proto_iff.mpr hindex]
  dsimp only
  rw [if_neg Bool.false_ne_true, write, protoWrite, if_neg hnotsave, hregister]
  exact if_neg (not_or.mpr ⟨not_not.mpr hlength, UInt8.not_le.mpr hlt⟩)

/-! ### The ways an event is handled -/

/-- **The ways an event is handled**, as far as the functions are concerned. -/
inductive Handling (inputs : Inputs) (n : Node) : Event → Node → Prop
  /-- Every function is told of the tick. -/
  | tick {n' : Node} (h : timerChannels inputs channels n = .ok n') : Handling inputs n .tick n'
  /-- No function is concerned.  Only a request is answered. -/
  | quiet {frame : CanFrame} {receivedId : UInt32} {sent : List SentFrame}
      {calls : List ModuleCall} {label : Fin 8 → UInt8} {eeprom : ℕ → UInt8}
      (hsent : frame.rtr = false → sent = n.sent)
      (hresets : ¬ n.Resets (.frame frame, inputs))
      (hassigns : ∀ c functionId, ¬ n.Assigns c functionId frame)
      (hcommands : ∀ c m, ¬ n.Commands c m frame) :
      Handling inputs n (.frame frame) { n with
        receivedId := receivedId, sent := sent, calls := calls, label := label, eeprom := eeprom }
  /-- A channel gets a function. -/
  | assigned {frame : CanFrame} {n' : Node} {c : Channel} {functionId : UInt8}
      (hassigns : n.Assigns c functionId frame)
      (h : (n.receiving frame).setChannel c functionId = .ok n') :
      Handling inputs n (.frame frame) n'
  /-- A function is given a value. -/
  | commanded {frame : CanFrame} {c : Channel} {m : FunctionModule}
      (hcommands : n.Commands c m frame) :
      Handling inputs n (.frame frame) (((n.receiving frame).called m .write c).onWrite inputs c
        (addressLo frame.address) frame.length frame.payload m)
  /-- The node starts again. -/
  | restarted {e : Event} {m n' : Node} (hresets : n.Resets (e, inputs)) (hsent : m.sent = n.sent)
      (h : m.boot inputs = .ok n') : Handling inputs n e n'

/-- A frame that is no write concerns no function. -/
theorem handling_of_not_writes {inputs : Inputs} {n : Node} {frame : CanFrame}
    {receivedId : UInt32} {sent : List SentFrame} {calls : List ModuleCall}
    (hsent : frame.rtr = false → sent = n.sent) (hresets : ¬ n.Resets (.frame frame, inputs))
    (hwrites : ¬ n.Writes frame) :
    Handling inputs n (.frame frame)
      { n with receivedId := receivedId, sent := sent, calls := calls } :=
  .quiet hsent hresets (fun _ _ h => hwrites h.1)
    fun _ _ h => hwrites h.1

/-- A write that concerns no function: the label, the image and the calls of `save` may
change. -/
theorem Writes.quiet {inputs : Inputs} {n : Node} {frame : CanFrame} (hwrites : n.Writes frame)
    {calls : List ModuleCall} {label : Fin 8 → UInt8} {eeprom : ℕ → UInt8}
    (hassigns : ∀ c functionId, ¬ n.Assigns c functionId frame)
    (hcommands : ∀ c m, ¬ n.Commands c m frame) :
    Handling inputs n (.frame frame)
      { n.receiving frame with calls := calls, label := label, eeprom := eeprom } :=
  .quiet (fun _ => rfl) hwrites.not_resets hassigns hcommands

/-- A write to the system information. -/
theorem handling_sysinfoWrite {inputs : Inputs} {n : Node} {frame : CanFrame}
    (hwrites : n.Writes frame) (hindex : moduleIndex frame.address = 0) :
    Handling inputs n (.frame frame) ((n.receiving frame).sysinfoWrite inputs
      (addressLo frame.address) frame.length frame.payload) := by
  have hassigns : ∀ c functionId, ¬ n.Assigns c functionId frame := fun c functionId hassigns =>
    absurd (hindex.symm.trans hassigns.2.1.1) (by decide)
  have hcommands : ∀ c m, ¬ n.Commands c m frame := fun c m hcommands =>
    (channelSpace_spec c).1.1 (hcommands.2.1.symm.trans hindex)
  unfold sysinfoWrite
  split
  · obtain ⟨calls, heq⟩ := saveModules_eq inputs { n.receiving frame with label := _ }
    rw [heq]
    exact hwrites.quiet hassigns hcommands
  · exact hwrites.quiet hassigns hcommands

/-- A write to the registers of the board: the image is saved, or a function is put on a
channel, or the frame does nothing. -/
theorem handling_protoWrite {inputs : Inputs} {n n' : Node} {frame : CanFrame}
    (hwrites : n.Writes frame) (hindex : moduleIndex frame.address = 1)
    (h : (n.receiving frame).protoWrite inputs (addressLo frame.address) frame.length
      frame.payload = .ok n') : Handling inputs n (.frame frame) n' := by
  have hcommands : ∀ c m, ¬ n.Commands c m frame := fun c m hcommands =>
    channelSpace_ne_one c (hcommands.2.1.symm.trans hindex)
  rw [protoWrite] at h
  split at h
  -- saving the modules changes the memory and the calls alone
  · next hsave =>
    cases h
    obtain ⟨calls, heq⟩ := saveModules_eq inputs (n.receiving frame)
    rw [heq]
    refine hwrites.quiet (fun c functionId hassigns => ?_) hcommands
    have haddress := hassigns.2.1.2.symm.trans hsave
    clear hassigns hcommands
    revert c
    decide
  -- a register that is no channel's function
  split at h
  · next hregister =>
    cases h
    refine hwrites.quiet (fun c functionId hassigns => ?_) hcommands
    exact nomatch hregister.symm.trans (functionRegister_eq_some_iff.mpr hassigns.2.1.2)
  next c hregister =>
  have haddress := functionRegister_eq_some_iff.mp hregister
  -- the length or the number of the function is wrong, and nothing is assigned
  split at h
  · next hcheck =>
    cases h
    refine hwrites.quiet (fun d functionId hassigns => ?_) hcommands
    obtain ⟨-, -, hlength, rfl, hlt⟩ := hassigns
    obtain hne | hle := hcheck
    · exact hne hlength
    · exact absurd hlt (UInt8.not_lt.mpr hle)
  · next hcheck =>
    obtain ⟨hlength, hlt⟩ := not_or.mp hcheck
    exact .assigned ⟨hwrites, ⟨hindex, haddress⟩, not_not.mp hlength, rfl,
      UInt8.not_le.mp hlt⟩ h

/-- A write, by the module that it is dispatched to. -/
theorem handling_writes {inputs : Inputs} {n n' : Node} {frame : CanFrame}
    (hwrites : n.Writes frame)
    (h : (n.receiving frame).handlePacket inputs false frame.address frame.length frame.payload
      = .ok n') : Handling inputs n (.frame frame) n' := by
  have hdispatch : (n.receiving frame).dispatch (moduleIndex frame.address)
      = n.dispatch (moduleIndex frame.address) := rfl
  rw [handlePacket, hdispatch] at h
  -- nobody is behind the address
  cases htarget : n.dispatch (moduleIndex frame.address) with
  | none =>
    rw [htarget] at h
    cases h
    refine hwrites.quiet (fun c functionId hassigns => ?_) fun c m hcommands => ?_
    · have hproto := htarget.symm.trans (dispatch_eq_proto_iff.mpr hassigns.2.1.1)
      cases hproto
    · have hfunction := htarget.symm.trans (dispatch_eq_function_iff.mpr hcommands.2)
      cases hfunction
  | some target =>
    rw [htarget] at h
    dsimp only at h
    rw [if_neg Bool.false_ne_true] at h
    cases target with
    | sysinfo =>
      cases h
      exact handling_sysinfoWrite hwrites (dispatch_eq_sysinfo_iff.mp htarget)
    | proto => exact handling_protoWrite hwrites (dispatch_eq_proto_iff.mp htarget) h
    | function c m =>
      cases h
      exact .commanded ⟨hwrites, dispatch_eq_function_iff.mp htarget⟩

/-- **Every step is handled in one of these ways.** -/
theorem handling_step {n n' : Node} {e : Event} {inputs : Inputs}
    (h : n.step (e, inputs) = some n') : Handling inputs n e n' := by
  replace h : n.handle inputs e = .ok n' := handle_eq_ok_of_step h
  cases e with
  | tick => exact .tick h
  | powerCycle => exact .restarted trivial rfl h
  | frame frame =>
    cases handleReceivedData_reception inputs frame n with
    | standard hstandard hr =>
      cases h.symm.trans hr
      exact handling_of_not_writes (fun _ => rfl)
        (fun hresets => nomatch hresets.1.symm.trans hstandard)
        fun hw => nomatch hw.1.1.symm.trans hstandard
    | dropped hextended hcheck hr =>
      cases h.symm.trans hr
      refine handling_of_not_writes (fun _ => rfl) (fun hresets => ?_)
        (not_writes_of_dropped hcheck)
      -- each of the three checks rules out the write of an id
      obtain ⟨-, hlong⟩ | ⟨-, -, hother⟩ | ⟨hid, -⟩ := hcheck
      · rw [hresets.2.2.2.1] at hlong
        exact absurd hlong (by decide)
      · exact hother hresets.2.2.2
      · exact hid hresets.2.2.1
    | idRequest hextended hrtr hid hr =>
      cases h.symm.trans hr
      exact handling_of_not_writes (fun hdata => nomatch hrtr.symm.trans hdata)
        (fun hresets => nomatch hrtr.symm.trans hresets.2.1) fun hw => hw.2.1 hid
    | idChange hextended hrtr hid hlength hold hr =>
      have hboot := hr.symm.trans h
      -- the node saves its modules and starts again
      refine .restarted ⟨hextended, hrtr, hid, hlength, hold⟩ ?_ hboot
      obtain ⟨calls, heq⟩ := saveModules_eq inputs
        { n.receiving frame with deviceId := frame.payload 1 }
      rw [heq]
      rfl
    | own hextended hlength hid haddressed hr =>
      replace h := hr.symm.trans h
      cases hrtr : frame.rtr with
      | false =>
        rw [hrtr] at h
        exact handling_writes (writes_of_own hextended hrtr hlength hid haddressed) h
      | true =>
        -- a request answers and records its calls
        rw [hrtr, handlePacket] at h
        have hresets : ¬ n.Resets (.frame frame, inputs) :=
          fun hresets => nomatch hrtr.symm.trans hresets.2.1
        have hwrites : ¬ n.Writes frame := fun hw => nomatch hrtr.symm.trans hw.1.2.1
        split at h
        · cases h
          exact handling_of_not_writes (fun _ => rfl) hresets hwrites
        · cases h
          obtain ⟨sent, calls, heq⟩ :=
            request_eq inputs (addressLo frame.address) (n.receiving frame) _
          rw [heq]
          exact handling_of_not_writes (fun hdata => nomatch hrtr.symm.trans hdata) hresets hwrites

/-- **The rule for starts**: what holds behind a reset and is kept while the identity and
the functions are loaded, each on a channel that is free, and what is then kept while the
modules load their settings. -/
theorem boot_free_rule {inputs : Inputs} {I J : Node → Prop} {n n' : Node}
    (h : n.boot inputs = .ok n') (hreset : I n.reset)
    (hidentify : ∀ n deviceId label, I n → I { n with deviceId := deviceId, label := label })
    (hset : ∀ c (f : NodeFunction) n n', I n → n.channelModules c = none →
      n.setChannel c f.toByte = .ok n' → I n')
    (hfunctions : ∀ n, I n → J n)
    (hload : ∀ c m n stream r, J n → n.channelModules c = some m →
      (n.called m .load c).onLoad inputs c stream m = some r → J r.1) : J n' := by
  unfold boot loadModules at h
  dsimp only at h
  split at h
  · cases h
    exact hfunctions _ hreset
  · obtain ⟨⟨n₁, stream⟩, hloaded, h⟩ := bind_eq_ok_iff.mp h
    cases h
    have hn₁ : I n₁ := loadFunctions_free_rule hset (by decide) (fun _ _ => rfl) hloaded
      (hidentify _ _ _ hreset)
    exact loadChannels_rule hload channels stream (hfunctions _ hn₁)

/-- The rule for starts where it does not matter that the channels are free. -/
theorem boot_rule {inputs : Inputs} {I J : Node → Prop} {n n' : Node}
    (h : n.boot inputs = .ok n') (hreset : I n.reset)
    (hidentify : ∀ n deviceId label, I n → I { n with deviceId := deviceId, label := label })
    (hset : ∀ c (f : NodeFunction) n n', I n → n.setChannel c f.toByte = .ok n' → I n')
    (hfunctions : ∀ n, I n → J n)
    (hload : ∀ c m n stream r, J n → n.channelModules c = some m →
      (n.called m .load c).onLoad inputs c stream m = some r → J r.1) : J n' :=
  boot_free_rule h hreset hidentify (fun c f n n' hn _ => hset c f n n' hn) hfunctions hload

/-! ### The turns of a tick -/

/-- **A tick, by the channels**: what the turn of a module makes of its own channel, and the
turns of the other modules of none, is what the tick makes of each channel of the module. -/
theorem timerChannels_local {α : Type*} {inputs : Inputs} {m : FunctionModule}
    (hm : m ≠ .ds18b20) (view : Node → Channel → α) (ticked : Channel → α → α)
    (hown : ∀ c n n', (n.called m .timer c).onTimer inputs c m = some (.ok n') →
      view n' = Function.update (view n) c (ticked c (view n c)))
    (hother : ∀ c k n n', k ≠ m → (n.called k .timer c).onTimer inputs c k = some (.ok n') →
      view n' = view n)
    {cs : List Channel} (hnodup : cs.Nodup) {n n' : Node} (h : timerChannels inputs cs n = .ok n')
    (c : Channel) :
    view n' c =
      if c ∈ cs ∧ n.channelModules c = some m then ticked c (view n c) else view n c := by
  induction cs generalizing n with
  | nil =>
    cases h
    exact (if_neg fun h => List.not_mem_nil h.1).symm
  | cons d cs ih =>
    obtain ⟨hd, hnodup⟩ := List.nodup_cons.mp hnodup
    obtain ⟨n₁, hfirst, h⟩ := bind_eq_ok_iff.mp h
    -- the turn of the first channel changes its own record only
    have hturn : view n₁ = if n.channelModules d = some m then
        Function.update (view n) d (ticked d (view n d)) else view n := by
      obtain ⟨rfl, hnone⟩ | ⟨k, hk, htimer⟩ := timerChannel_cases hfirst
      · exact (if_neg fun h => hm (hnone m h)).symm
      · by_cases hkm : k = m
        · subst hkm
          rw [if_pos hk]
          exact hown d n n₁ htimer
        · rw [if_neg fun h => hkm (Option.some.inj (hk.symm.trans h))]
          exact hother d k n n₁ hkm htimer
    have hrest := ih hnodup h
    rw [(timerChannel_identity hfirst).1, hturn] at hrest
    rw [hrest]
    -- the channels are distinct, so no later turn reaches this one again
    by_cases hc : c = d
    · subst hc
      rw [if_neg fun h => hd h.1]
      split
      · next hmodule => rw [if_pos ⟨List.mem_cons_self, hmodule⟩, Function.update_self]
      · next hmodule => rw [if_neg fun h => hmodule h.2]
    · have hsame : (if n.channelModules d = some m then
          Function.update (view n) d (ticked d (view n d)) else view n) c = view n c := by
        split
        · exact Function.update_of_ne hc ..
        · rfl
      rw [hsame]
      simp [hc]

/-- **What is sent on a tick**: what every turn sends, when no turn changes what another
one will send. -/
theorem timerChannels_sent {inputs : Inputs} (notices : Node → Channel → List SentFrame)
    (hturn : ∀ c n n', n.timerChannel inputs c = .ok n' → n'.sent = n.sent ++ notices n c)
    (hother : ∀ c d n n', n.timerChannel inputs d = .ok n' → c ≠ d → notices n' c = notices n c)
    {cs : List Channel} (hnodup : cs.Nodup) {n n' : Node}
    (h : timerChannels inputs cs n = .ok n') : n'.sent = n.sent ++ cs.flatMap (notices n) := by
  induction cs generalizing n with
  | nil =>
    cases h
    exact (List.append_nil _).symm
  | cons d cs ih =>
    obtain ⟨hd, hnodup⟩ := List.nodup_cons.mp hnodup
    obtain ⟨n₁, hfirst, h⟩ := bind_eq_ok_iff.mp h
    have hsame : cs.flatMap (notices n₁) = cs.flatMap (notices n) :=
      List.flatMap_congr fun c hc =>
        hother c d n n₁ hfirst fun heq => hd (heq ▸ hc)
    rw [ih hnodup h, hturn d n n₁ hfirst, hsame, List.flatMap_cons, List.append_assoc]

theorem nodup_channels : channels.Nodup := by decide

/-- An event that leaves a channel its function: no reset, and no frame that assigns
one. -/
def KeepsFunction (c : Channel) (n : Node) (e : Event × Inputs) : Prop :=
  ¬ n.Resets e ∧ ∀ frame functionId, e.1 = .frame frame → ¬ n.Assigns c functionId frame

/-- **A channel keeps its function.** -/
theorem KeepsFunction.channelModules {n n' : Node} {e : Event × Inputs} {c : Channel}
    (hkeeps : KeepsFunction c n e) (h : n.step e = some n') :
    n'.channelModules c = n.channelModules c := by
  obtain ⟨event, inputs⟩ := e
  cases handling_step h with
  | tick htick =>
    refine timerChannels_rule (I := fun m => m.channelModules c = n.channelModules c) ?_ htick rfl
    intro d m n₁ n₂ hn₁ hm htimer
    exact (congrFun (untouched_onTimer htimer).channelModules c).trans hn₁
  | quiet => rfl
  | @assigned frame _ d functionId hassign hset =>
    -- the frame assigns the function of another channel
    obtain ⟨m, -, hcontrol⟩ := setChannel_control hset
    have hd : c ≠ d := by
      rintro rfl
      exact hkeeps.2 frame functionId rfl hassign
    have hmodules := congrFun (congrArg Control.channelModules hcontrol) c
    exact hmodules.trans (Function.update_of_ne hd ..)
  | @commanded frame d m =>
    have huntouched := untouched_onWrite inputs d (addressLo frame.address) frame.length
      frame.payload ((n.receiving frame).called m .write d) m
    exact congrFun huntouched.channelModules c
  | restarted hresets => exact absurd hresets hkeeps.1

/-! ### Whose records an entry changes -/

/-- The records of the functions for a channel, and its pin. -/
structure Records where
  switch : Switch
  button : Button
  sensor : AnalogSensor
  pin : Pin

/-- Those of a node. -/
def records (n : Node) (c : Channel) : Records :=
  ⟨n.switches c, n.buttons c, n.analogSensors c, n.pins c⟩

/-- **An entry of a module works on its channel**, and with the records of the module. -/
structure Touches (c : Channel) (m : FunctionModule) (n n' : Node) : Prop where
  elsewhere : ∀ d, d ≠ c → n'.records d = n.records d
  switches : m ≠ .switch → n'.switches = n.switches
  buttons : m ≠ .button → n'.buttons = n.buttons

section Touches

variable {c : Channel} {n n' : Node} {m : FunctionModule}

theorem records_setSwitch {d : Channel} (hd : d ≠ c) (switch : Switch) :
    (n.setSwitch c switch).records d = n.records d := by
  simp [records, setSwitch, hd]

theorem records_setButton {d : Channel} (hd : d ≠ c) (button : Button) :
    (n.setButton c button).records d = n.records d := by
  simp [records, setButton, hd]

theorem records_setSensor {d : Channel} (hd : d ≠ c) (sensor : AnalogSensor) :
    (n.setSensor c sensor).records d = n.records d := by
  simp [records, setSensor, hd]

theorem records_gpioInit {d : Channel} (hd : d ≠ c) (mode : PinMode) :
    (n.gpioInit c mode).records d = n.records d := by
  simp [records, gpioInit, hd]

theorem records_switchUpdate {d : Channel} (hd : d ≠ c) :
    (n.switchUpdate c).records d = n.records d := by
  simp [records, switchUpdate, gpioWrite, hd]

theorem records_buttonSetState {d : Channel} (hd : d ≠ c) (inputs : Inputs) :
    (n.buttonSetState inputs c).records d = n.records d := by
  obtain ⟨state, h | ⟨data, h⟩⟩ := buttonSetState_eq inputs c n
  · rw [h, records_setButton hd]
  · rw [h]
    exact (records_setButton (n := n) hd { n.buttons c with state := state } :)

theorem switches_buttonSetState (inputs : Inputs) :
    (n.buttonSetState inputs c).switches = n.switches := by
  obtain ⟨state, h | ⟨data, h⟩⟩ := buttonSetState_eq inputs c n
  · rw [h]
    rfl
  · rw [h]
    rfl

theorem touches_onInit (c : Channel) (n : Node) (m : FunctionModule) :
    Touches c m n (n.onInit c m) := by
  cases m with
  | switch => exact ⟨fun d hd => records_gpioInit hd _, fun _ => rfl, fun _ => rfl⟩
  | button => exact ⟨fun d hd => records_gpioInit hd _, fun _ => rfl, fun _ => rfl⟩
  | analog =>
    refine ⟨fun d hd => ?_, fun _ => ?_, fun _ => ?_⟩
    · rw [onInit, analogInit, records_setSensor hd]
      exact Eq.trans (by split <;> rfl) (records_gpioInit (n := n) hd .inputFloating)
    · obtain ⟨pins, adc, selected, count, h⟩ := analogInit_eq c n
      rw [onInit, h]
      rfl
    · obtain ⟨pins, adc, selected, count, h⟩ := analogInit_eq c n
      rw [onInit, h]
      rfl
  | ds18b20 => exact ⟨fun _ _ => rfl, fun _ => rfl, fun _ => rfl⟩

theorem touches_onDeinit (h : n.onDeinit c m = .ok n') : Touches c m n n' := by
  cases m with
  | switch =>
    cases h
    exact ⟨fun d hd => records_gpioInit hd _, fun _ => rfl, fun _ => rfl⟩
  | button =>
    cases h
    exact ⟨fun d hd => records_gpioInit hd _, fun _ => rfl, fun _ => rfl⟩
  | analog =>
    obtain ⟨adc, selected, count, rfl⟩ := analogDeinit_eq h
    exact ⟨fun d hd => records_setSensor (n := n) hd _, fun _ => rfl, fun _ => rfl⟩
  | ds18b20 =>
    cases h
    exact ⟨fun _ _ => rfl, fun _ => rfl, fun _ => rfl⟩

theorem touches_onWrite (inputs : Inputs) (c : Channel) (address length : UInt8)
    (value : Fin 8 → UInt8) (n : Node) (m : FunctionModule) :
    Touches c m n (n.onWrite inputs c address length value m) := by
  cases m with
  | switch =>
    refine ⟨fun d hd => ?_, fun h => absurd rfl h, fun _ => rfl⟩
    rw [onWrite, switchWrite, records_switchUpdate hd, records_setSwitch hd]
  | button =>
    refine ⟨fun d hd => ?_, fun _ => ?_, fun h => absurd rfl h⟩
    · unfold onWrite buttonWrite
      dsimp only
      split
      · split
        · rw [records_buttonSetState hd]
          exact (records_gpioInit hd _).trans (records_setButton hd _)
        · rfl
      · split
        · rw [records_buttonSetState hd, records_setButton hd]
        · rfl
      · rfl
    · obtain h | ⟨button, pins, h⟩ := buttonWrite_eq inputs c address length value n
      · rw [onWrite, h]
      · rw [onWrite, h]
        exact switches_buttonSetState inputs
  | analog =>
    obtain ⟨sensor, h⟩ := analogWrite_eq c address length value n
    rw [onWrite, h]
    exact ⟨fun d hd => records_setSensor hd sensor, fun _ => rfl, fun _ => rfl⟩
  | ds18b20 => exact ⟨fun _ _ => rfl, fun _ => rfl, fun _ => rfl⟩

theorem touches_onTimer {inputs : Inputs} (h : n.onTimer inputs c m = some (.ok n')) :
    Touches c m n n' := by
  cases m with
  | switch =>
    cases h
    refine ⟨fun d hd => ?_, fun h => absurd rfl h, fun _ => ?_⟩
    · unfold switchTimer
      dsimp only
      split
      · rfl
      split
      · rw [records_switchUpdate hd, records_setSwitch hd]
      · rw [records_setSwitch hd]
    · obtain ⟨mode, offTimer, pins, h⟩ := switchTimer_eq c n
      rw [h]
      rfl
  | button =>
    cases h
    exact ⟨fun d hd => records_buttonSetState hd inputs,
      fun _ => switches_buttonSetState inputs, fun h => absurd rfl h⟩
  | analog =>
    obtain ⟨state, value, adc, selected, rfl⟩ := analogTimer_eq (Option.some.inj h)
    exact ⟨fun d hd => records_setSensor (n := n) hd _, fun _ => rfl, fun _ => rfl⟩
  | ds18b20 => cases h

theorem touches_onLoad {inputs : Inputs} {stream : ByteStream} {r : Node × ByteStream}
    (h : n.onLoad inputs c stream m = some r) : Touches c m n r.1 := by
  cases m with
  | switch =>
    cases h
    refine ⟨fun d hd => ?_, fun h => absurd rfl h, fun _ => rfl⟩
    rw [switchLoad, records_switchUpdate hd, records_setSwitch hd]
  | button =>
    cases h
    refine ⟨fun d hd => ?_, fun _ => switches_buttonSetState inputs, fun h => absurd rfl h⟩
    rw [buttonLoad, records_buttonSetState hd]
    exact (records_gpioInit hd _).trans (records_setButton hd _)
  | analog =>
    cases h
    exact ⟨fun d hd => records_setSensor hd _, fun _ => rfl, fun _ => rfl⟩
  | ds18b20 => cases h

/-- The switch of a channel is changed by the module of switches, on that channel. -/
theorem Touches.switch_eq (h : Touches c m n n') {d : Channel} (hd : ¬ (c = d ∧ m = .switch)) :
    n'.switches d = n.switches d := by
  by_cases hm : m = .switch
  · exact congrArg Records.switch (h.elsewhere d fun heq => hd ⟨heq.symm, hm⟩)
  · exact congrFun (h.switches hm) d

/-- The button of a channel is changed by the module of buttons, on that channel. -/
theorem Touches.button_eq (h : Touches c m n n') {d : Channel} (hd : ¬ (c = d ∧ m = .button)) :
    n'.buttons d = n.buttons d := by
  by_cases hm : m = .button
  · exact congrArg Records.button (h.elsewhere d fun heq => hd ⟨heq.symm, hm⟩)
  · exact congrFun (h.buttons hm) d

/-- A turn of a tick is the turn of one channel. -/
theorem records_timerChannel {inputs : Inputs} (h : n.timerChannel inputs c = .ok n')
    {d : Channel} (hd : d ≠ c) : n'.records d = n.records d := by
  obtain ⟨rfl, -⟩ | ⟨m, -, htimer⟩ := timerChannel_cases h
  · rfl
  · exact ((touches_onTimer htimer).elsewhere d hd).trans rfl

theorem records_timerChannels {inputs : Inputs} {cs : List Channel}
    (h : timerChannels inputs cs n = .ok n') (hc : c ∉ cs) : n'.records c = n.records c := by
  induction cs generalizing n with
  | nil =>
    cases h
    rfl
  | cons d cs ih =>
    obtain ⟨hcd, hc⟩ := not_or.mp (mt List.mem_cons.mpr hc)
    obtain ⟨n₁, hfirst, h⟩ := bind_eq_ok_iff.mp h
    exact (ih h hc).trans (records_timerChannel hfirst hcd)

/-- **The turn of one channel in a tick**: what the turns of the other channels keep holds
before it, and behind it they leave the records of the channel alone. -/
theorem timerChannels_turn {inputs : Inputs} {I : Node → Prop}
    (hother : ∀ d n n', d ≠ c → I n → n.timerChannel inputs d = .ok n' → I n')
    {cs : List Channel} (hnodup : cs.Nodup) (hc : c ∈ cs)
    (h : timerChannels inputs cs n = .ok n') (hn : I n) :
    ∃ n₁ n₂, I n₁ ∧ n₁.timerChannel inputs c = .ok n₂ ∧ n'.records c = n₂.records c := by
  induction cs generalizing n with
  | nil => exact absurd hc List.not_mem_nil
  | cons d cs ih =>
    obtain ⟨hd, hnodup⟩ := List.nodup_cons.mp hnodup
    obtain ⟨n₁, hfirst, h⟩ := bind_eq_ok_iff.mp h
    by_cases hdc : d = c
    · subst hdc
      exact ⟨n, n₁, hn, hfirst, records_timerChannels h hd⟩
    · have hmem : c ∈ cs := List.mem_of_ne_of_mem (Ne.symm hdc) hc
      exact ih hnodup hmem h (hother d n n₁ hdc hn hfirst)

/-- A module that comes or goes leaves the records of switches and buttons alone. -/
theorem switches_onInit (c : Channel) (n : Node) (m : FunctionModule) :
    (n.onInit c m).switches = n.switches ∧ (n.onInit c m).buttons = n.buttons := by
  cases m with
  | analog =>
    obtain ⟨pins, adc, selected, count, h⟩ := analogInit_eq c n
    rw [onInit, h]
    exact ⟨rfl, rfl⟩
  | _ => exact ⟨rfl, rfl⟩

theorem switches_onDeinit (h : n.onDeinit c m = .ok n') :
    n'.switches = n.switches ∧ n'.buttons = n.buttons := by
  cases m with
  | analog =>
    obtain ⟨adc, selected, count, rfl⟩ := analogDeinit_eq h
    exact ⟨rfl, rfl⟩
  | _ =>
    cases h
    exact ⟨rfl, rfl⟩

/-- **A new function leaves the records of switches and buttons alone**, and everything of
the other channels. -/
theorem setChannel_records {functionId : UInt8} (h : n.setChannel c functionId = .ok n') :
    (n'.switches = n.switches ∧ n'.buttons = n.buttons) ∧
      ∀ d, d ≠ c → n'.records d = n.records d := by
  obtain ⟨n₁, m, hrelease, -, rfl⟩ := exists_of_setChannel h
  have hreleased : (n₁.switches = n.switches ∧ n₁.buttons = n.buttons) ∧
      ∀ d, d ≠ c → n₁.records d = n.records d := by
    obtain ⟨-, rfl⟩ | ⟨m, n₂, -, hdeinit, rfl⟩ := releaseChannel_cases hrelease
    · exact ⟨⟨rfl, rfl⟩, fun _ _ => rfl⟩
    · obtain ⟨hswitches, hbuttons⟩ := switches_onDeinit hdeinit
      exact ⟨⟨hswitches, hbuttons⟩, fun d hd => (touches_onDeinit hdeinit).elsewhere d hd⟩
  unfold occupyChannel
  cases m with
  | none => exact hreleased
  | some m =>
    obtain ⟨hswitches, hbuttons⟩ := switches_onInit c _ m
    refine ⟨⟨hswitches.trans hreleased.1.1, hbuttons.trans hreleased.1.2⟩, fun d hd => ?_⟩
    exact ((touches_onInit c _ m).elsewhere d hd).trans (hreleased.2 d hd)

end Touches

end Node
end HomeAutomation
