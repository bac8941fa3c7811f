import HomeAutomation.Node.Notices
import HomeAutomation.Node.PowerCycle

/-!
# The device id, and what the node sends

A node changes its id in one place, on a frame with the identifier that is kept for
it.  Replies repeat the identifier of the request, so a node that is asked for its id
answers with that very identifier; its answer has one byte, and no other frame of a
node has that identifier.

## Main definitions

* `Stored` — the id is the one that the next start will find in the EEPROM.
* `Notifies` — a step of the node that sends no frame for device ids.

## Main results

* `Stored.step` — one event, and the only way in which it changes the id.
* `Sends.notifies` — the modules send no frame for device ids.
* `sent_step` — the frames that one event sends.

## References

`stm8/can_node/can.c`, `sysinfo.c`, `shared/include/ha/can_proto.h`.
-/

namespace HomeAutomation
namespace Node

open ByteStream

/-! ### The device id -/

/-- The id that a start finds in the EEPROM. -/
def storedId (eeprom : ℕ → UInt8) : UInt8 := if eeprom 0 = header then eeprom 1 else 0xff

/-- The id is the one in the EEPROM. -/
def Stored (n : Node) : Prop := n.deviceId = storedId n.eeprom

theorem Stored.of_control {n n' : Node} (hn : n.Stored) (h : n'.control = n.control) :
    n'.Stored ∧ n'.deviceId = n.deviceId := by
  have hid : n'.deviceId = n.deviceId := congrArg Control.deviceId h
  have heeprom : n'.eeprom = n.eeprom := congrArg Control.eeprom h
  refine ⟨?_, hid⟩
  unfold Stored at hn ⊢
  rw [hid, heeprom]
  exact hn

/-- Saving stores the id. -/
theorem stored_saveModules (inputs : Inputs) (n : Node) :
    (n.saveModules inputs).Stored ∧ (n.saveModules inputs).deviceId = n.deviceId := by
  have hid : (n.saveModules inputs).deviceId = n.deviceId := by
    obtain ⟨calls, h⟩ := saveModules_eq inputs n
    rw [h]
  have hahead := ahead_writeBytes ⟨n.eeprom, 0⟩ (n.image inputs)
  rw [← saveModules_eeprom] at hahead
  obtain ⟨hheader, hahead⟩ := ahead_cons.mp hahead
  obtain ⟨hdevice, -⟩ := ahead_cons.mp hahead
  refine ⟨?_, hid⟩
  unfold Stored storedId
  rw [hid]
  exact (Eq.trans (if_pos hheader) hdevice).symm

/-- **A start takes the id from the EEPROM.** -/
theorem stored_boot {inputs : Inputs} {n n' : Node} (h : n.boot inputs = .ok n') :
    n'.Stored ∧ n'.deviceId = storedId n.eeprom := by
  have hboth : n'.deviceId = storedId n.eeprom ∧ n'.eeprom = n.eeprom := by
    unfold boot loadModules at h
    dsimp only at h
    split at h
    · next hheader =>
      cases h
      exact ⟨(if_neg hheader).symm, rfl⟩
    · next hheader =>
      obtain ⟨⟨n₁, stream⟩, hfunctions, h⟩ := bind_eq_ok_iff.mp h
      cases h
      have hid : storedId n.eeprom = n.eeprom 1 := if_pos (not_not.mp hheader)
      have hfunctions : n₁.deviceId = n.eeprom 1 ∧ n₁.eeprom = n.eeprom := by
        refine loadFunctions_rule (I := fun n' => n'.deviceId = n.eeprom 1 ∧ n'.eeprom = n.eeprom)
          ?_ hfunctions ⟨rfl, rfl⟩
        intro c f n₂ n₃ hn hset
        obtain ⟨m, -, hcontrol⟩ := setChannel_control hset
        exact ⟨(congrArg Control.deviceId hcontrol).trans hn.1,
          (congrArg Control.eeprom hcontrol).trans hn.2⟩
      rw [hid]
      refine loadChannels_rule (I := fun n' => n'.deviceId = n.eeprom 1 ∧ n'.eeprom = n.eeprom)
        ?_ channels stream hfunctions
      intro c m n₂ stream r hn _ hload
      exact ⟨(congrArg Control.deviceId (untouched_onLoad hload).control).trans hn.1,
        (congrArg Control.eeprom (untouched_onLoad hload).control).trans hn.2⟩
  refine ⟨?_, hboth.1⟩
  unfold Stored
  rw [hboth.1, hboth.2]

theorem Stored.protoWrite {inputs : Inputs} {address length : UInt8} {value : Fin 8 → UInt8}
    {n n' : Node} (hn : n.Stored) (h : n.protoWrite inputs address length value = .ok n') :
    n'.Stored ∧ n'.deviceId = n.deviceId := by
  unfold Node.protoWrite at h
  split at h
  · cases h
    exact stored_saveModules inputs n
  split at h
  · cases h
    exact ⟨hn, rfl⟩
  split at h
  · cases h
    exact ⟨hn, rfl⟩
  · obtain ⟨m, -, hcontrol⟩ := setChannel_control h
    have hid := congrArg Control.deviceId hcontrol
    have heeprom := congrArg Control.eeprom hcontrol
    refine ⟨?_, hid⟩
    exact hid.trans (hn.trans (congrArg storedId heeprom.symm))

theorem Stored.write {inputs : Inputs} {address length : UInt8} {data : Fin 8 → UInt8}
    {n n' : Node} {target : Target} (hn : n.Stored)
    (h : n.write inputs address length data target = .ok n') :
    n'.Stored ∧ n'.deviceId = n.deviceId := by
  cases target with
  | sysinfo =>
    cases h
    unfold sysinfoWrite
    split
    · exact stored_saveModules inputs _
    · exact ⟨hn, rfl⟩
  | proto => exact hn.protoWrite h
  | function c m =>
    cases h
    exact Stored.of_control (n := n.called m .write c) hn
      (untouched_onWrite inputs c address length data _ m).control

theorem Stored.timerChannels {inputs : Inputs} {cs : List Channel} {n n' : Node} (hn : n.Stored)
    (h : timerChannels inputs cs n = .ok n') : n'.Stored ∧ n'.deviceId = n.deviceId := by
  refine timerChannels_rule (I := fun n' => n'.Stored ∧ n'.deviceId = n.deviceId) ?_ h ⟨hn, rfl⟩
  intro c m n₁ n₂ hn₁ _ htimer
  obtain ⟨hstored, hid⟩ :=
    Stored.of_control (n := n₁.called m .timer c) hn₁.1 (untouched_onTimer htimer).control
  exact ⟨hstored, hid.trans hn₁.2⟩

theorem Stored.handlePacket {inputs : Inputs} {rtr : Bool} {address : UInt16} {length : UInt8}
    {data : Fin 8 → UInt8} {n n' : Node} (hn : n.Stored)
    (h : n.handlePacket inputs rtr address length data = .ok n') :
    n'.Stored ∧ n'.deviceId = n.deviceId := by
  unfold Node.handlePacket at h
  split at h
  · cases h
    exact ⟨hn, rfl⟩
  · next target htarget =>
    split at h
    · cases h
      obtain ⟨sent, calls, h⟩ := request_eq inputs (addressLo address) n target
      rw [h]
      exact ⟨hn, rfl⟩
    · exact hn.write h

/-- The frame gives the device another id. -/
def ChangesId (n : Node) (frame : CanFrame) : Prop :=
  frame.rtr = false ∧ frame.receivedId = specialIdUpdate ∧ frame.length = 2 ∧
    frame.payload 0 = n.deviceId

/-- **One event, and the only way in which it changes the id.** -/
theorem Stored.step {n n' : Node} {e : Event × Inputs} (hn : n.Stored) (h : n.step e = some n') :
    n'.Stored ∧ (n'.deviceId = n.deviceId ∨
      ∃ frame, e.1 = .frame frame ∧ n.ChangesId frame ∧ n'.deviceId = frame.payload 1) := by
  obtain ⟨event, inputs⟩ := e
  replace h := handle_eq_ok_of_step h
  cases event with
  | tick =>
    obtain ⟨hstored, hid⟩ := hn.timerChannels h
    exact ⟨hstored, Or.inl hid⟩
  | powerCycle =>
    obtain ⟨hstored, hid⟩ := stored_boot h
    exact ⟨hstored, Or.inl (hid.trans hn.symm)⟩
  | frame frame =>
    cases handleReceivedData_reception inputs frame n with
    | standard hextended hr =>
      cases h.symm.trans hr
      exact ⟨hn, Or.inl rfl⟩
    | dropped hextended hcheck hr =>
      cases h.symm.trans hr
      exact ⟨hn, Or.inl rfl⟩
    | idRequest hextended hrtr hid hr =>
      cases h.symm.trans hr
      exact ⟨hn, Or.inl rfl⟩
    | idChange hextended hrtr hid hlength hold hr =>
      -- the id is saved before the reset, and found there behind it
      obtain ⟨hstored, hnew⟩ := stored_boot (hr.symm.trans h)
      obtain ⟨hsaved, hvalue⟩ :=
        stored_saveModules inputs { n.receiving frame with deviceId := frame.payload 1 }
      refine ⟨hstored, Or.inr ⟨frame, rfl, ⟨hrtr, hid, hlength, hold⟩, ?_⟩⟩
      exact hnew.trans (hsaved.symm.trans hvalue)
    | own hextended hlength hid haddressed hr =>
      obtain ⟨hstored, hsame⟩ :=
        Stored.handlePacket (n := n.receiving frame) hn (hr.symm.trans h)
      exact ⟨hstored, Or.inl hsame⟩

/-- **A node that was started has the id in its EEPROM.** -/
theorem Reachable.stored {n : Node} (h : n.Reachable) : n.Stored := by
  refine Run.Reachable.invariant ?_ ?_ h
  · rintro n ⟨eeprom, inputs, hboot⟩
    exact (stored_boot hboot).1
  · exact fun n e n' hn hstep => (hn.step hstep).1

/-! ### What a node sends -/

/-- The identifier, as a receiver reads it, is the one for device ids. -/
def IsUpdate (id : UInt32) : Prop := id &&& 0x1fffffff = specialIdUpdate

/-- Identifiers that are packed from their parts leave that bit clear. -/
theorem not_isUpdate_packetIdToNumber (p : PacketId) : ¬ IsUpdate (packetIdToNumber p) := by
  intro h
  have hd := p.deviceId.isLt
  have ha := p.address.toNat_lt
  have hmask : (packetIdToNumber p &&& 0x1fffffff).toNat = (packetIdToNumber p).toNat % 2 ^ 29 := by
    rw [UInt32.toNat_and]
    exact Nat.and_two_pow_sub_one_eq_mod _ 29
  have hnumber := congrArg UInt32.toNat h
  rw [hmask, toNat_packetIdToNumber] at hnumber
  have hupdate : specialIdUpdate.toNat = 2 ^ 29 - 1 := rfl
  omega

theorem isUpdate_and_mask {id : UInt32} :
    IsUpdate (id &&& 0x1fffffff) ↔ id &&& 0x1fffffff = specialIdUpdate := by
  unfold IsUpdate
  rw [UInt32.and_assoc]
  rfl

/-- `n'` has sent what `n` had sent, and further frames, none of them for device ids. -/
def Notifies (n n' : Node) : Prop :=
  ∃ frames, n'.sent = n.sent ++ frames ∧ ∀ f ∈ frames, ¬ IsUpdate f.id

/-- **The modules send no frame for device ids**: the values of buttons that they send have
identifiers that are packed from their parts. -/
theorem Sends.notifies {n n' : Node} (h : Sends n n') : Notifies n n' := by
  obtain ⟨frames, hsent, hframes⟩ := h
  refine ⟨frames, hsent, fun f hf => ?_⟩
  obtain ⟨m, c, hid⟩ := hframes f hf
  rw [hid]
  exact not_isUpdate_packetIdToNumber _

/-- **The frames that one event sends**: those for device ids have one byte, so that no
device takes one of them for a command. -/
theorem sent_step {n n' : Node} {e : Event × Inputs} (h : n.step e = some n') :
    ∃ frames, n'.sent = n.sent ++ frames ∧ ∀ f ∈ frames, IsUpdate f.id → f.data.length = 1 := by
  have hquiet : ∀ m : Node, m.sent = n.sent → Notifies m n' →
      ∃ frames, n'.sent = n.sent ++ frames ∧
        ∀ f ∈ frames, IsUpdate f.id → f.data.length = 1 := by
    rintro m hm ⟨frames, hsent, hframes⟩
    exact ⟨frames, hm ▸ hsent, fun f hf hid => absurd hid (hframes f hf)⟩
  obtain ⟨event, inputs⟩ := e
  replace h := handle_eq_ok_of_step h
  cases event with
  | tick => exact hquiet n rfl (timerChannels_effects h).sends.notifies
  | powerCycle => exact hquiet n.reset rfl (boot_effects h).sends.notifies
  | frame frame =>
    cases handleReceivedData_reception inputs frame n with
    | standard hextended hr =>
      cases h.symm.trans hr
      exact hquiet _ rfl (Sends.of_eq rfl).notifies
    | dropped hextended hcheck hr =>
      cases h.symm.trans hr
      exact hquiet _ rfl (Sends.of_eq rfl).notifies
    | idRequest hextended hrtr hid hr =>
      cases h.symm.trans hr
      -- the reply has the identifier of a command, and is one byte too short for one
      refine ⟨[⟨frame.receivedId, [n.deviceId]⟩], rfl, fun f hf _ => ?_⟩
      rw [List.mem_singleton.mp hf]
      rfl
    | idChange hextended hrtr hid hlength hold hr =>
      have hsaved := (saveModules_effects inputs
        { n.receiving frame with deviceId := frame.payload 1 }).sends
      exact hquiet n rfl (hsaved.trans (boot_effects (hr.symm.trans h)).sends).notifies
    | own hextended hlength hid haddressed hr =>
      cases hrtr : frame.rtr with
      | true =>
        -- a reply has the identifier of its request, which is none for device ids here
        obtain ⟨n₁, hhandled, hsent⟩ := sent_handleReceivedData inputs hextended hrtr hid haddressed
        cases h.symm.trans hhandled
        refine ⟨_, hsent, fun f hf hupdate => absurd ?_ hid⟩
        obtain ⟨r, -, rfl⟩ := List.mem_map.mp hf
        exact isUpdate_and_mask.mp hupdate
      | false =>
        have hwrite := hr.symm.trans h
        rw [hrtr] at hwrite
        unfold Node.handlePacket at hwrite
        split at hwrite
        · cases hwrite
          exact hquiet _ rfl (Sends.of_eq rfl).notifies
        · next target htarget => exact hquiet _ rfl (write_effects htarget hwrite).sends.notifies

end Node
end HomeAutomation
