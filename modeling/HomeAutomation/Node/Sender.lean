import HomeAutomation.Node.Identity
import HomeAutomation.Node.RegisterFile

/-!
# Which device a frame is from

A node makes the identifiers of its notices from its own id, and its replies have the
identifier of a request that was for it, so the device field of what it sends is its own.
The one exception is the answer to the request that is for all devices.

The firmware keeps the identifier of the last frame in one variable for its replies.  A
frame that is for another device goes no further than that variable, and nothing that the
node does later depends on it.

## Main definitions

* `signature` — the device field of what a device sends by itself.
* `FromDevice` — a frame has the device field of that device.
* `Signs` — a step of the node that sends only such frames.
* `renumbered` — the node with another identifier in the place for replies.
* `Heeds` — the frames that go further.

## Main results

* `sent_signed` — the frames that one event sends.
* `handleReceivedData_unheeded` — what becomes of the other frames.
* `timerChannels_renumbered`, `handleReceivedData_renumbered` — nothing depends on the
  identifier that was received before.

## References

`stm8/can_node/can.c`, `mod_button.c`, `shared/include/ha/can_proto.h`.
-/

namespace HomeAutomation
namespace Node

/-! ### Signatures -/

/-- The device field of the identifiers that a device makes of its id. -/
def signature (deviceId : UInt8) : BitVec 7 := BitVec.ofNat 7 deviceId.toNat

/-- The device field of an identifier, as a receiver reads it. -/
def deviceField (id : UInt32) : BitVec 7 := (numberToPacketId (id &&& 0x1fffffff)).deviceId

/-- The frame has the device field of the device. -/
def FromDevice (deviceId : UInt8) (f : SentFrame) : Prop := deviceField f.id = signature deviceId

/-- An identifier that is packed has no more bits than a receiver reads. -/
theorem packetIdToNumber_and_mask (p : PacketId) :
    packetIdToNumber p &&& 0x1fffffff = packetIdToNumber p := by
  have hd := p.deviceId.isLt
  have ha := p.address.toNat_lt
  have hp := toNat_packetIdToNumber p
  apply UInt32.toNat_inj.mp
  have hmask : (packetIdToNumber p &&& 0x1fffffff).toNat = (packetIdToNumber p).toNat % 2 ^ 29 := by
    rw [UInt32.toNat_and]
    exact Nat.and_two_pow_sub_one_eq_mod _ 29
  rw [hmask]
  omega

theorem deviceField_noticeId (n : Node) (c : Channel) (index : UInt8) :
    deviceField (n.noticeId c index) = signature n.deviceId := by
  unfold deviceField noticeId
  rw [packetIdToNumber_and_mask, (numberToPacketId_packetIdToNumber _).1]
  rfl

/-- The identifier of a frame for the device has the device field of the device. -/
theorem deviceField_of_addressed {n : Node} {frame : CanFrame}
    (h : n.Addressed frame.receivedId) :
    deviceField frame.receivedId = signature n.deviceId := by
  have hmask : frame.receivedId &&& 0x1fffffff = frame.receivedId := by
    unfold CanFrame.receivedId
    rw [UInt32.and_assoc]
    rfl
  apply BitVec.eq_of_toNat_eq
  have hlt := (numberToPacketId frame.receivedId).deviceId.isLt
  unfold Addressed at h
  rw [deviceField, hmask, signature, BitVec.toNat_ofNat, h, Nat.mod_eq_of_lt hlt]

/-! ### What one event sends -/

/-- `n'` has sent what `n` had sent, and frames with the device field of its device. -/
def Signs (n n' : Node) : Prop :=
  ∃ frames, n'.sent = n.sent ++ frames ∧ ∀ f ∈ frames, FromDevice n'.deviceId f

theorem Signs.of_eq {n n' : Node} (h : n'.sent = n.sent) : Signs n n' :=
  ⟨[], by simpa using h, by simp⟩

theorem Signs.trans {n n₁ n₂ : Node} (h₁ : Signs n n₁) (hid : n₂.deviceId = n₁.deviceId)
    (h₂ : Signs n₁ n₂) : Signs n n₂ := by
  rcases h₁ with ⟨frames₁, hsent₁, hframes₁⟩
  rcases h₂ with ⟨frames₂, hsent₂, hframes₂⟩
  refine ⟨frames₁ ++ frames₂, by rw [hsent₂, hsent₁, List.append_assoc], fun f hf => ?_⟩
  rcases List.mem_append.mp hf with hf | hf
  · rw [hid]
    apply hframes₁ f hf
  · apply hframes₂ f hf

theorem signs_buttonSetState (inputs : Inputs) (c : Channel) (n : Node) :
    Signs n (n.buttonSetState inputs c) := by
  rw [buttonSetState_looked]
  refine ⟨_, rfl, fun f hf => ?_⟩
  unfold buttonNotice at hf
  split at hf
  · rw [List.mem_singleton.mp hf]
    apply deviceField_noticeId
  · simp at hf

/-- **A module sends with the device field of its device.** -/
theorem signs_onTimer {inputs : Inputs} {c : Channel} {n n' : Node} {m : FunctionModule}
    (h : n.onTimer inputs c m = some (.ok n')) : Signs n n' := by
  cases m with
  | switch =>
    cases h
    rcases switchTimer_eq c n with ⟨mode, offTimer, pins, h⟩
    rw [h]
    exact .of_eq rfl
  | button =>
    cases h
    apply signs_buttonSetState
  | analog =>
    rcases analogTimer_eq (Option.some.inj h) with ⟨state, value, adc, selected, rfl⟩
    exact .of_eq rfl
  | ds18b20 => cases h

theorem signs_onWrite (inputs : Inputs) (c : Channel) (address length : UInt8)
    (value : Fin 8 → UInt8) (n : Node) (m : FunctionModule) :
    Signs n (n.onWrite inputs c address length value m) := by
  cases m with
  | switch => exact .of_eq rfl
  | button =>
    rw [onWrite]
    rcases buttonWrite_eq inputs c address length value n with h | ⟨button, pins, h⟩
    · rw [h]
      exact .of_eq rfl
    · rw [h]
      exact signs_buttonSetState inputs c { n.setButton c button with pins := pins }
  | analog =>
    rcases analogWrite_eq c address length value n with ⟨sensor, h⟩
    rw [onWrite, h]
    exact .of_eq rfl
  | ds18b20 => exact .of_eq rfl

theorem signs_onLoad {inputs : Inputs} {c : Channel} {n : Node} {m : FunctionModule}
    {stream : ByteStream} {r : Node × ByteStream} (h : n.onLoad inputs c stream m = some r) :
    Signs n r.1 := by
  cases m with
  | switch =>
    cases h
    exact .of_eq rfl
  | button =>
    cases h
    apply signs_buttonSetState
  | analog =>
    cases h
    exact .of_eq rfl
  | ds18b20 => cases h

theorem Signs.timerChannels {inputs : Inputs} {cs : List Channel} {n n' : Node}
    (h : timerChannels inputs cs n = .ok n') : Signs n n' := by
  refine timerChannels_rule (I := Signs n) ?_ h (.of_eq rfl)
  intro c m n₁ n₂ hn _ htimer
  have hid : n₂.deviceId = n₁.deviceId :=
    congrArg Control.deviceId (untouched_onTimer htimer).control
  exact hn.trans hid (signs_onTimer (n := n₁.called m .timer c) htimer)

/-- A start sends with the id that it finds in the EEPROM. -/
theorem Signs.boot {inputs : Inputs} {n n' : Node} (h : n.boot inputs = .ok n') : Signs n n' := by
  have hreset : Signs n n.reset := .of_eq rfl
  unfold Node.boot loadModules at h
  dsimp only at h
  split at h
  · cases h
    exact hreset
  · rcases bind_eq_ok_iff.mp h with ⟨⟨n₁, stream⟩, hfunctions, h⟩
    cases h
    have hquiet : n₁.sent = n.sent := by
      refine loadFunctions_rule (I := fun n' => n'.sent = n.sent) ?_ hfunctions rfl
      intro c f n₂ n₃ hn hset
      rw [sent_setChannel hset, hn]
    refine loadChannels_rule (I := Signs n) ?_ channels stream (.of_eq hquiet)
    intro c m n₂ stream r hn _ hload
    have hid : r.1.deviceId = n₂.deviceId :=
      congrArg Control.deviceId (untouched_onLoad hload).control
    exact hn.trans hid (signs_onLoad (n := n₂.called m .load c) hload)

theorem sent_saveModules (inputs : Inputs) (n : Node) :
    (n.saveModules inputs).sent = n.sent := by
  rcases saveModules_eq inputs n with ⟨calls, h⟩
  rw [h]

/-- A write for a register sends with the id that the device keeps. -/
theorem Signs.write {inputs : Inputs} {address length : UInt8} {data : Fin 8 → UInt8}
    {n n' : Node} {target : Target} (h : n.write inputs address length data target = .ok n') :
    Signs n n' := by
  cases target with
  | sysinfo =>
    cases h
    unfold sysinfoWrite
    split
    · exact .of_eq (sent_saveModules inputs _)
    · exact .of_eq rfl
  | proto =>
    unfold Node.write protoWrite at h
    dsimp only at h
    split at h
    · cases h
      exact .of_eq (sent_saveModules inputs n)
    split at h
    · cases h
      exact .of_eq rfl
    split at h
    · cases h
      exact .of_eq rfl
    · exact .of_eq (sent_setChannel h)
  | function c m =>
    cases h
    exact signs_onWrite inputs c address length data (n.called m .write c) m

/-- **The frames that one event sends** have the device field of the device, but for the
answer to the request for all device ids. -/
theorem sent_signed {n n' : Node} {e : Event × Inputs} (h : n.step e = some n') :
    ∃ frames, n'.sent = n.sent ++ frames ∧
      ∀ f ∈ frames, IsUpdate f.id ∨ FromDevice n'.deviceId f := by
  have hsigns : Signs n n' → ∃ frames, n'.sent = n.sent ++ frames ∧
      ∀ f ∈ frames, IsUpdate f.id ∨ FromDevice n'.deviceId f := by
    rintro ⟨frames, hsent, hframes⟩
    exact ⟨frames, hsent, fun f hf => Or.inr (hframes f hf)⟩
  rcases e with ⟨event, inputs⟩
  replace h := handle_eq_ok_of_step h
  cases event with
  | tick =>
    apply hsigns
    exact Signs.timerChannels h
  | powerCycle =>
    apply hsigns
    exact Signs.boot h
  | frame frame =>
    cases handleReceivedData_reception inputs frame n with
    | standard hextended hr =>
      cases h.symm.trans hr
      exact hsigns (.of_eq rfl)
    | dropped hextended hcheck hr =>
      cases h.symm.trans hr
      exact hsigns (.of_eq rfl)
    | idRequest hextended hrtr hid hr =>
      cases h.symm.trans hr
      refine ⟨[⟨frame.receivedId, [n.deviceId]⟩], rfl, fun f hf => Or.inl ?_⟩
      rw [List.mem_singleton.mp hf]
      exact isUpdate_and_mask.mpr hid
    | idChange hextended hrtr hid hlength hold hr =>
      apply hsigns
      rcases Signs.boot (hr.symm.trans h) with ⟨frames, hsent, hframes⟩
      rw [sent_saveModules] at hsent
      exact ⟨frames, hsent, hframes⟩
    | own hextended hlength hid haddressed hr =>
      cases hrtr : frame.rtr with
      | true =>
        -- a reply has the identifier of its request
        rcases sent_handleReceivedData inputs hextended hrtr hid haddressed with
          ⟨n₁, hhandled, hsent⟩
        cases h.symm.trans hhandled
        refine ⟨_, hsent, fun f hf => Or.inr ?_⟩
        rcases List.mem_map.mp hf with ⟨r, -, rfl⟩
        have hpacket := hr.symm.trans hhandled
        rw [hrtr] at hpacket
        have hkept : n'.deviceId = n.deviceId := by
          unfold handlePacket at hpacket
          split at hpacket
          · cases hpacket
            rfl
          · cases hpacket
            rcases request_eq inputs (addressLo frame.address) (n.receiving frame) _ with
              ⟨sent, calls, hreply⟩
            rw [hreply]
            rfl
        rw [FromDevice, hkept]
        apply deviceField_of_addressed haddressed
      | false =>
        have hwrite := hr.symm.trans h
        rw [hrtr] at hwrite
        unfold handlePacket at hwrite
        split at hwrite
        · cases hwrite
          exact hsigns (.of_eq rfl)
        · have hreceived : Signs (n.receiving frame) n' := .write hwrite
          exact hsigns hreceived

/-! ### The identifier that was received last -/

/-- The node with another identifier in the place for replies. -/
def renumbered (n : Node) (id : UInt32) : Node := { n with receivedId := id }

theorem selectNextSensorLoop_renumbered (n : Node) (id : UInt32) (prevSelected : Channel)
    (fuel selected : ℕ) :
    (n.renumbered id).selectNextSensorLoop prevSelected fuel selected
      = n.selectNextSensorLoop prevSelected fuel selected := by
  have hsensors : (n.renumbered id).analogSensors = n.analogSensors := rfl
  induction fuel generalizing selected with
  | zero => rfl
  | succ fuel ih => simp only [selectNextSensorLoop, hsensors, ih]

theorem selectNextSensor_renumbered (n : Node) (id : UInt32) :
    (n.renumbered id).selectNextSensor
      = n.selectNextSensor.map fun n' => n'.renumbered id := by
  have hselected : (n.renumbered id).selectedSensor = n.selectedSensor := rfl
  unfold selectNextSensor
  rw [selectNextSensorLoop_renumbered, hselected]
  cases n.selectNextSensorLoop n.selectedSensor 1 (n.selectedSensor + 1) with
  | error fault => rfl
  | ok selected => rfl

theorem analogTimer_renumbered (inputs : Inputs) (c : Channel) (n : Node) (id : UInt32) :
    (n.renumbered id).analogTimer inputs c
      = (n.analogTimer inputs c).map fun n' => n'.renumbered id := by
  have hselected : (n.renumbered id).selectedSensor = n.selectedSensor := rfl
  have hcount : (n.renumbered id).sensorCount = n.sensorCount := rfl
  have hsensors : (n.renumbered id).analogSensors = n.analogSensors := rfl
  unfold analogTimer
  rw [hselected, hcount, hsensors]
  by_cases hother : c ≠ n.selectedSensor
  · rw [if_pos hother, if_pos hother]
    rfl
  rw [if_neg hother, if_neg hother]
  by_cases hlone : n.sensorCount = 1 ∧ (n.analogSensors c).state ≠ .disabled
  · rw [if_pos hlone, if_pos hlone]
    rfl
  rw [if_neg hlone, if_neg hlone]
  cases (n.analogSensors c).state with
  | disabled => rfl
  | inactive => rfl
  | active => exact selectNextSensor_renumbered (n.analogDeactivate inputs c) id

/-- **No module looks at the identifier.** -/
theorem timerChannel_renumbered (inputs : Inputs) (c : Channel) (n : Node) (id : UInt32) :
    (n.renumbered id).timerChannel inputs c
      = (n.timerChannel inputs c).map fun n' => n'.renumbered id := by
  have hmodule : (n.renumbered id).channelModules c = n.channelModules c := rfl
  unfold timerChannel
  rw [hmodule]
  cases n.channelModules c with
  | none => rfl
  | some m =>
    cases m with
    | switch =>
      simp only [onTimer]
      unfold switchTimer
      dsimp only [called, renumbered]
      split_ifs <;> rfl
    | button =>
      simp only [onTimer]
      rw [buttonSetState_looked, buttonSetState_looked]
      rfl
    | analog =>
      simp only [onTimer]
      exact analogTimer_renumbered inputs c (n.called .analog .timer c) id
    | ds18b20 => rfl

theorem timerChannels_renumbered (inputs : Inputs) (cs : List Channel) (n : Node) (id : UInt32) :
    timerChannels inputs cs (n.renumbered id)
      = (timerChannels inputs cs n).map fun n' => n'.renumbered id := by
  induction cs generalizing n with
  | nil => rfl
  | cons c cs ih =>
    rw [timerChannels, timerChannels, timerChannel_renumbered]
    cases n.timerChannel inputs c with
    | error fault => rfl
    | ok n' => apply ih

/-- **An extended frame puts its own identifier there**, and a standard one is not looked
at. -/
theorem handleReceivedData_renumbered (inputs : Inputs) (frame : CanFrame) (n : Node)
    (id : UInt32) :
    (n.renumbered id).handleReceivedData inputs frame
      = if frame.extended then n.handleReceivedData inputs frame else .ok (n.renumbered id) := by
  unfold handleReceivedData
  cases hextended : frame.extended with
  | true => rfl
  | false => rfl

/-! ### Frames for other devices -/

/-- The frames that go further than their identifier. -/
def Heeds (n : Node) (frame : CanFrame) : Prop :=
  frame.extended = true ∧
    (frame.receivedId = specialIdUpdate ∧ (frame.rtr = true ∨ n.ChangesId frame) ∨
      frame.receivedId ≠ specialIdUpdate ∧ n.Addressed frame.receivedId)

instance (n : Node) (frame : CanFrame) : Decidable (n.ChangesId frame) :=
  inferInstanceAs (Decidable (_ ∧ _))

instance (n : Node) (frame : CanFrame) : Decidable (n.Heeds frame) :=
  inferInstanceAs (Decidable (_ ∧ _))

/-- **What becomes of the other frames**: they leave an identifier behind, at most. -/
theorem handleReceivedData_unheeded (inputs : Inputs) {frame : CanFrame} {n : Node}
    (h : ¬ n.Heeds frame) : ∃ id, n.handleReceivedData inputs frame = .ok (n.renumbered id) := by
  cases handleReceivedData_reception inputs frame n with
  | standard hextended hr => exact ⟨n.receivedId, hr⟩
  | dropped hextended hcheck hr => exact ⟨frame.receivedId, hr⟩
  | idRequest hextended hrtr hid hr =>
    exact absurd ⟨hextended, Or.inl ⟨hid, Or.inl hrtr⟩⟩ h
  | idChange hextended hrtr hid hlength hold hr =>
    exact absurd ⟨hextended, Or.inl ⟨hid, Or.inr ⟨hrtr, hid, hlength, hold⟩⟩⟩ h
  | own hextended hlength hid haddressed hr =>
    exact absurd ⟨hextended, Or.inr ⟨hid, haddressed⟩⟩ h

end Node
end HomeAutomation
