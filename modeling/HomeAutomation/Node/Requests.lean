import HomeAutomation.Node.Effects

/-!
# One request, one answer

A remote frame asks for a register.  The module behind the address returns its
answer to the dispatcher, which sends it, or sends it by itself and returns nothing;
the identifier of the answer goes by way of a static variable.  Whatever the functions
of the channels are, a request for a register that can be read is answered once, and
no other request is.

## Main definitions

* `readableFields`, `Readable` — the registers that can be read.
* `Answered` — the identifiers a node answers a request for.
* `answer` — what the node answers.

## Main results

* `dispatch_eq_function_iff` — which frames come to the module of a channel.
* `sent_request` — a request puts the answer on the bus, if there is one.
* `answer_isSome_iff`, `length_answer_le` — when there is one, and its length.
* `request_answered_once` — one request, one answer.

## References

`stm8/can_node/can.c`, `module.c`, `sysinfo.c`, `mod_proto.c`.
-/

namespace HomeAutomation
namespace Node

/-! ### Registers -/

/-- The number that selects the registers of a channel. -/
def channelSpace (c : Channel) : UInt8 := 0x80 + UInt8.ofNat c

/-- The fields of a function that can be read. -/
def readableFields : FunctionModule → List UInt8
  | .switch => [SwitchField.config.toByte, SwitchField.value.toByte, SwitchField.offDelay.toByte]
  | .button => [ButtonField.config.toByte, ButtonField.value.toByte]
  | .analog => [AnalogField.config.toByte, AnalogField.range.toByte, AnalogField.value.toByte]
  | .ds18b20 => [ds18b20Temperature]

/-- The registers that can be read with the functions the channels have: the five
that every device has, the number of channels and their functions, and the fields of
the function that runs on a channel. -/
def Readable (n : Node) (address : UInt16) : Prop :=
  (moduleIndex address = 0x00 ∧ addressLo address ≤ 0x04) ∨
  (moduleIndex address = 0x01 ∧ (addressLo address = channelCountRegister ∨
    ∃ c : Channel, addressLo address = channelFunction0 + UInt8.ofNat c)) ∨
  ∃ c m, moduleIndex address = channelSpace c ∧ n.channelModules c = some m ∧
    addressLo address ∈ readableFields m

/-- The identifiers for which a node answers a request: the one for device ids, and
those of the device's own registers. -/
def Answered (n : Node) (id : UInt32) : Prop :=
  id = specialIdUpdate ∨ n.Addressed id ∧ n.Readable (numberToPacketId id).address

/-! ### Where a frame is dispatched -/

theorem toNat_channelSpace (c : Channel) : (channelSpace c).toNat = 128 + c := by
  revert c
  decide

/-- The number of a channel's space passes the checks of the dispatcher. -/
theorem channelSpace_spec (c : Channel) :
    (channelSpace c ≠ 0 ∧ channelSpace c ≠ 1) ∧
      (channelSpace c ≥ 0x80 ∧ channelSpace c &&& 0x7f < 4) ∧
      Fin.ofNat 4 (channelSpace c &&& 0x7f).toNat = c := by
  revert c
  decide

/-- **The frames of a channel**: those with its number in the high byte of the
address, when a module runs there. -/
theorem dispatch_eq_function_iff {n : Node} {index : UInt8} {c : Channel} {m : FunctionModule} :
    n.dispatch index = some (.function c m) ↔
      index = channelSpace c ∧ n.channelModules c = some m := by
  have hmask : (index &&& 0x7f).toNat = index.toNat % 128 :=
    (UInt8.toNat_and _ _).trans (Nat.and_two_pow_sub_one_eq_mod index.toNat 7)
  constructor
  · intro h
    obtain ⟨⟨hfrom, hbelow, rfl⟩, hm⟩ := of_dispatch_function h
    refine ⟨?_, hm⟩
    have hhigh : (128 : ℕ) ≤ index.toNat := UInt8.le_iff_toNat_le.mp hfrom
    have hlow : (index &&& 0x7f).toNat < 4 := UInt8.lt_iff_toNat_lt.mp hbelow
    have hlt := index.toNat_lt
    -- the two checks leave the four numbers from 0x80 on
    apply UInt8.toNat_inj.mp
    rw [toNat_channelSpace, Fin.val_ofNat, hmask]
    omega
  · rintro ⟨rfl, hm⟩
    obtain ⟨⟨hzero, hone⟩, hindex, hc⟩ := channelSpace_spec c
    rw [dispatch, if_neg hzero, if_neg hone, if_pos hindex]
    dsimp only
    rw [hc, hm]
    rfl

theorem dispatch_eq_sysinfo_iff {n : Node} {index : UInt8} :
    n.dispatch index = some .sysinfo ↔ index = 0 := by
  unfold dispatch
  split
  · next h => simp [h]
  · next h =>
    refine iff_of_false ?_ h
    split
    · nofun
    split
    · dsimp only
      cases n.channelModules _ <;> nofun
    · nofun

theorem dispatch_eq_proto_iff {n : Node} {index : UInt8} :
    n.dispatch index = some .proto ↔ index = 1 := by
  unfold dispatch
  split
  · next h => exact iff_of_false nofun (by rw [h]; decide)
  split
  · next h => simp [h]
  · next h =>
    refine iff_of_false ?_ h
    split
    · dsimp only
      cases n.channelModules _ <;> nofun
    · nofun

/-- **The function registers**: one for each channel, behind the first. -/
theorem functionRegister_eq_some_iff {address : UInt8} {c : Channel} :
    functionRegister address = some c ↔ address = channelFunction0 + UInt8.ofNat c := by
  constructor
  · intro h
    unfold functionRegister at h
    split at h
    · next hbounds =>
      cases h
      have hlo : (128 : ℕ) ≤ address.toNat := UInt8.le_iff_toNat_le.mp hbounds.1
      have hhi : address.toNat < 132 := UInt8.lt_iff_toNat_lt.mp hbounds.2
      have hsub : (address - channelFunction0).toNat = address.toNat - 128 :=
        UInt8.toNat_sub_of_le _ _ hbounds.1
      apply UInt8.toNat_inj.mp
      rw [Fin.val_ofNat, hsub, UInt8.toNat_add, UInt8.toNat_ofNat']
      show address.toNat = (128 + (address.toNat - 128) % 4 % 2 ^ 8) % 2 ^ 8
      omega
    · cases h
  · rintro rfl
    revert c
    decide

/-! ### What is answered -/

/-- The label as it is sent: up to the first zero. -/
def labelText (n : Node) : List UInt8 := (List.ofFn n.label).take n.labelLength

/-- What the system module answers, whichever way it goes. -/
def sysinfoAnswer (inputs : Inputs) (address : UInt8) (n : Node) : Option (List UInt8) :=
  if CommonRegister.ofByte address = some .deviceLabel then some n.labelText
  else (n.sysinfoRequest inputs address).2

/-- What the node answers when it is asked for a register. -/
def answer (inputs : Inputs) (address : UInt16) (n : Node) : Option (List UInt8) :=
  match n.dispatch (moduleIndex address) with
  | none => none
  | some .sysinfo => n.sysinfoAnswer inputs (addressLo address)
  | some .proto => n.protoRequest (addressLo address)
  | some (.function c m) => n.onRequest inputs c (addressLo address) m

theorem isSome_commonRegister (b : UInt8) :
    (CommonRegister.ofByte b).isSome = true ↔ b ≤ 0x04 := by
  unfold CommonRegister.ofByte
  constructor
  · intro h
    split_ifs at h with h0 h1 h2 h3 h4
    all_goals simp_all
  · intro h
    have hlt : b.toNat ≤ 4 := UInt8.le_iff_toNat_le.mp h
    have hb : b = UInt8.ofNat b.toNat := UInt8.ofNat_toNat.symm
    interval_cases b.toNat <;> simp [hb]

/-- The system module answers for its five registers. -/
theorem sysinfoAnswer_spec (inputs : Inputs) (address : UInt8) (n : Node) :
    ((n.sysinfoAnswer inputs address).isSome = true ↔ address ≤ 0x04) ∧
      ∀ r, n.sysinfoAnswer inputs address = some r → r.length ≤ 8 := by
  have hlabel : n.labelText.length ≤ 8 := by simp [labelText]
  rw [← isSome_commonRegister]
  unfold sysinfoAnswer sysinfoRequest
  cases CommonRegister.ofByte address with
  | none => simp
  | some register => cases register <;> simp [hlabel]

/-- The module of the board answers for the number of channels and their functions. -/
theorem protoRequest_spec (address : UInt8) (n : Node) :
    ((n.protoRequest address).isSome = true ↔ address = channelCountRegister ∨
      ∃ c : Channel, address = channelFunction0 + UInt8.ofNat c) ∧
      ∀ r, n.protoRequest address = some r → r.length ≤ 8 := by
  simp only [← functionRegister_eq_some_iff]
  unfold protoRequest
  split
  · next h => simp [h]
  · next h => cases functionRegister address <;> simp [h]

/-- The module of a channel answers for the fields of its function. -/
theorem onRequest_spec (inputs : Inputs) (c : Channel) (address : UInt8) (n : Node)
    (m : FunctionModule) :
    ((n.onRequest inputs c address m).isSome = true ↔ address ∈ readableFields m) ∧
      ∀ r, n.onRequest inputs c address m = some r → r.length ≤ 8 := by
  cases m with
  | switch =>
    unfold onRequest switchRequest SwitchField.ofByte
    split_ifs with h0 h1 h2 <;> simp [*, readableFields, SwitchField.toByte, bytesOf]
  | button =>
    unfold onRequest buttonRequest ButtonField.ofByte
    split_ifs with h0 h1 <;> simp [*, readableFields, ButtonField.toByte]
  | analog =>
    unfold onRequest analogRequest AnalogField.ofByte
    split_ifs with h0 h1 h2 <;> simp [*, readableFields, AnalogField.toByte, bytesOf]
  | ds18b20 =>
    unfold onRequest ds18b20Request
    split_ifs with h
    · simp [*, readableFields]
    · cases readTemp inputs.oneWire <;> simp_all [readableFields]

/-- The registers that can be read, by the module that a request comes to. -/
theorem readable_iff_dispatch {n : Node} {address : UInt16} :
    n.Readable address ↔
      (n.dispatch (moduleIndex address) = some .sysinfo ∧ addressLo address ≤ 0x04) ∨
      (n.dispatch (moduleIndex address) = some .proto ∧
        (addressLo address = channelCountRegister ∨
          ∃ c : Channel, addressLo address = channelFunction0 + UInt8.ofNat c)) ∨
      ∃ c m, n.dispatch (moduleIndex address) = some (.function c m) ∧
        addressLo address ∈ readableFields m := by
  simp only [dispatch_eq_sysinfo_iff, dispatch_eq_proto_iff, dispatch_eq_function_iff, and_assoc]
  rfl

/-- **When a register is answered for**: when it can be read. -/
theorem answer_isSome_iff (inputs : Inputs) (address : UInt16) (n : Node) :
    (n.answer inputs address).isSome = true ↔ n.Readable address := by
  rw [readable_iff_dispatch]
  unfold answer
  cases n.dispatch (moduleIndex address) with
  | none => simp
  | some target =>
    cases target with
    | sysinfo => simpa using (sysinfoAnswer_spec inputs (addressLo address) n).1
    | proto => simpa using (protoRequest_spec (addressLo address) n).1
    | function c m => simpa using (onRequest_spec inputs c (addressLo address) n m).1

/-- **An answer fits into a frame.** -/
theorem length_answer_le {inputs : Inputs} {address : UInt16} {n : Node} {r : List UInt8}
    (h : n.answer inputs address = some r) : r.length ≤ 8 := by
  unfold answer at h
  split at h
  · cases h
  · exact (sysinfoAnswer_spec inputs _ n).2 r h
  · exact (protoRequest_spec _ n).2 r h
  · exact (onRequest_spec inputs _ _ n _).2 r h

/-- The address of a field is that of the channel's space and the field. -/
theorem fieldAddress_eq (c : Channel) (field : UInt8) :
    fieldAddress (UInt8.ofNat c) field = Word16.join (channelSpace c) field := by
  have hspace : (UInt8.ofNat c).toUInt16 + 0x80 = (channelSpace c).toUInt16 := by
    revert c
    decide
  unfold fieldAddress Word16.join
  rw [hspace]

/-- **What is answered for a field** of the function of a channel. -/
theorem answer_field {n : Node} {c : Channel} {m : FunctionModule}
    (hm : n.channelModules c = some m) (inputs : Inputs) (field : UInt8) :
    n.answer inputs (fieldAddress (UInt8.ofNat c) field) = n.onRequest inputs c field m := by
  unfold answer
  rw [fieldAddress_eq, moduleIndex, addressLo, Word16.high_join, Word16.low_join,
    dispatch_eq_function_iff.mpr ⟨rfl, hm⟩]

/-! ### Requests -/

/-- The dispatcher sends what it is handed. -/
theorem sent_reply {n : Node} {response : Option (List UInt8)}
    (hlength : ∀ r, response = some r → r.length ≤ 8) :
    (reply (n, response)).sent = n.sent ++ response.toList.map fun r => ⟨n.receivedId, r⟩ := by
  cases response with
  | none => exact (List.append_nil _).symm
  | some r =>
    unfold reply
    dsimp only
    rw [if_pos (hlength r rfl)]
    rfl

/-- The system module sends its label by itself, and returns the rest. -/
theorem sent_sysinfoRequest (inputs : Inputs) (address : UInt8) (n : Node) :
    (reply (n.sysinfoRequest inputs address)).sent
      = n.sent ++ (n.sysinfoAnswer inputs address).toList.map fun r => ⟨n.receivedId, r⟩ := by
  unfold sysinfoAnswer sysinfoRequest
  cases CommonRegister.ofByte address with
  | none => exact sent_reply nofun
  | some register => cases register <;> rfl

/-- **A request puts the answer on the bus**, if there is one, and nothing else. -/
theorem sent_request (inputs : Inputs) (address : UInt16) (length : UInt8) (data : Fin 8 → UInt8)
    (n : Node) :
    ∃ n', n.handlePacket inputs true address length data = .ok n' ∧
      n'.sent = n.sent ++ (n.answer inputs address).toList.map fun r => ⟨n.receivedId, r⟩ := by
  unfold handlePacket answer
  cases n.dispatch (moduleIndex address) with
  | none => exact ⟨n, rfl, (List.append_nil _).symm⟩
  | some target =>
    refine ⟨_, rfl, ?_⟩
    cases target with
    -- the label is the one answer that does not come back to the dispatcher
    | sysinfo => exact sent_sysinfoRequest inputs (addressLo address) n
    | proto => exact sent_reply (protoRequest_spec (addressLo address) n).2
    | function c m => exact sent_reply (onRequest_spec inputs c (addressLo address) n m).2

/-- The answer does not depend on the identifier it will have. -/
theorem answer_receiving (inputs : Inputs) (address : UInt16) (n : Node) (frame : CanFrame) :
    (n.receiving frame).answer inputs address = n.answer inputs address := by
  unfold answer
  change (match n.dispatch (moduleIndex address) with
    | none => none
    | some .sysinfo => _
    | some .proto => _
    | some (.function c m) => _) = _
  cases n.dispatch (moduleIndex address) with
  | none => rfl
  | some target =>
    cases target with
    | sysinfo =>
      dsimp only
      unfold sysinfoAnswer sysinfoRequest
      cases CommonRegister.ofByte (addressLo address) with
      | none => rfl
      | some register => cases register <;> rfl
    | proto => rfl
    | function c m => cases m <;> rfl

/-- **A request for a register of the device.** -/
theorem sent_handleReceivedData (inputs : Inputs) {frame : CanFrame} {n : Node}
    (hextended : frame.extended = true) (hrtr : frame.rtr = true)
    (hid : frame.receivedId ≠ specialIdUpdate) (haddressed : n.Addressed frame.receivedId) :
    ∃ n', n.handleReceivedData inputs frame = .ok n' ∧
      n'.sent = n.sent ++ (n.answer inputs frame.address).toList.map
        fun r => ⟨frame.receivedId, r⟩ := by
  cases handleReceivedData_reception inputs frame n with
  | standard hstandard hr => exact absurd (hextended.symm.trans hstandard) Bool.noConfusion
  | dropped _ hcheck hr =>
    obtain ⟨hdata, -⟩ | ⟨hdata, -⟩ | ⟨-, hforeign⟩ := hcheck
    · exact absurd (hrtr.symm.trans hdata) Bool.noConfusion
    · exact absurd (hrtr.symm.trans hdata) Bool.noConfusion
    · exact absurd haddressed hforeign
  | idRequest _ _ hupdate hr => exact absurd hupdate hid
  | idChange _ _ hupdate _ _ hr => exact absurd hupdate hid
  | own _ _ _ _ hr =>
    obtain ⟨n', hn', hsent⟩ :=
      sent_request inputs frame.address frame.length frame.payload (n.receiving frame)
    rw [answer_receiving] at hsent
    rw [hr, hrtr]
    exact ⟨n', hn', hsent⟩

/-- A remote frame with an extended identifier: its length may be any, and there is
something in the data registers of the mailbox. -/
def requestFrame (id : UInt32) (dlc : UInt8) (data : Fin 8 → UInt8) : CanFrame :=
  ⟨true, id, true, dlc, data⟩

/-- **One request, one answer.**  In any state, and for any identifier, a node answers
a request at most once; it does so exactly for the identifiers in `Answered`, with a
data frame of the same identifier and of at most eight bytes. -/
theorem request_answered_once (inputs : Inputs) (id : UInt32) (dlc : UInt8) (data : Fin 8 → UInt8)
    (n : Node) :
    ∃ n', n.handleReceivedData inputs (requestFrame id dlc data) = .ok n' ∧
      ((n.Answered (id &&& 0x1fffffff) ∧
          ∃ r, r.length ≤ 8 ∧ n'.sent = n.sent ++ [⟨id &&& 0x1fffffff, r⟩]) ∨
        (¬ n.Answered (id &&& 0x1fffffff) ∧ n'.sent = n.sent)) := by
  cases handleReceivedData_reception inputs (requestFrame id dlc data) n with
  | standard hstandard hr => cases hstandard
  | dropped _ hcheck hr =>
    obtain ⟨hdata, -⟩ | ⟨hdata, -⟩ | ⟨hid, hforeign⟩ := hcheck
    · cases hdata
    · cases hdata
    refine ⟨_, hr, Or.inr ⟨?_, rfl⟩⟩
    rintro (h | ⟨h, -⟩)
    · exact hid h
    · exact hforeign h
  | idRequest _ _ hid hr =>
    exact ⟨_, hr, Or.inl ⟨Or.inl hid, [n.deviceId], by simp, rfl⟩⟩
  | idChange _ hdata _ _ _ hr => cases hdata
  | own _ _ hid haddressed hr =>
    obtain ⟨n', hn', hsent⟩ := sent_handleReceivedData (n := n) inputs rfl rfl hid haddressed
    have hreadable := answer_isSome_iff inputs (requestFrame id dlc data).address n
    refine ⟨n', hn', ?_⟩
    cases hanswer : n.answer inputs (requestFrame id dlc data).address with
    | none =>
      rw [hanswer] at hsent hreadable
      refine Or.inr ⟨?_, hsent.trans (List.append_nil _)⟩
      rintro (h | ⟨-, h⟩)
      · exact hid h
      · exact absurd (hreadable.mpr h) Bool.false_ne_true
    | some r =>
      rw [hanswer] at hsent hreadable
      exact Or.inl ⟨Or.inr ⟨haddressed, hreadable.mp rfl⟩, r, length_answer_le hanswer, hsent⟩

end Node
end HomeAutomation
