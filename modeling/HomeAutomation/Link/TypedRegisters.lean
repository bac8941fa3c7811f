import HomeAutomation.Client.Serializer
import HomeAutomation.Lib.Refinement
import HomeAutomation.Link.AddressMap
import HomeAutomation.Node.RegisterFile

/-!
# Typed registers

The client of a node has a method to set each register of a function and one to ask for it,
with a type of its own for the value; the firmware has bytes, a length rule and a mask.  The
two were written apart, in two languages, over one header.

What a method sets is what the other one gets, with the bits that the firmware keeps, as long
as nobody else writes to the register.  Whatever others write to it, the reply has the size
that the client's type asks for.

## Main definitions

* `TypedRegister` — a register with the methods of the client for it, and what the two sides
  agree on; `switchConfig` and its siblings are the registers.
* `DeviceOperation` — the methods that every device has.

## Main results

* `TypedRegister.query_read` — every reply is read.
* `TypedRegister.assign_query` — what is set is what is got.
* `device_queries` — the methods that every device has.

## References

`common/include/client/Serializer.h`, `common/source/client/CanNode.cpp`,
`common/source/client/Device.cpp`, `stm8/can_node/mod_switch.c`, `mod_button.c`,
`mod_analog.c`, `sysinfo.c`.
-/

namespace HomeAutomation

open Node

/-- A register of a function, as the client sees it: the methods that set it and ask for it,
the codec of their value, and what the firmware keeps of a value. -/
structure TypedRegister (V : Type) (r : Register) where
  codec : Codec V r.size.toNat
  assign : Channel → V → NodeOperation
  query : Channel → NodeOperation
  keep : V → V
  access_assign : ∀ c value,
    (assign c value).access = .send (fieldAddress (channelId c) r.field) (codec.encode value)
  access_query : ∀ c, (query c).access = .query (fieldAddress (channelId c) r.field)
  map_mask : ∀ value, (codec.encode value).map r.mask = codec.encode (keep value)

namespace TypedRegister

/-- `SwitchChannel::assign_config` and `query_config`. -/
def switchConfig : TypedRegister UInt8 .switchConfig where
  codec := uint8Codec
  assign c value := .switch c (.assignConfig value)
  query c := .switch c .queryConfig
  keep value := value &&& switchConfigMask
  access_assign _ _ := rfl
  access_query _ := rfl
  map_mask _ := rfl

/-- `SwitchChannel::assign_off_delay` and `query_off_delay`. -/
def switchOffDelay : TypedRegister UInt16 .switchOffDelay where
  codec := uint16Codec
  assign c value := .switch c (.assignOffDelay value)
  query c := .switch c .queryOffDelay
  keep value := value
  access_assign _ _ := rfl
  access_query _ := rfl
  map_mask _ := rfl

/-- `ButtonChannel::assign_config` and `query_config`. -/
def buttonConfig : TypedRegister UInt8 .buttonConfig where
  codec := uint8Codec
  assign c value := .button c (.assignConfig value)
  query c := .button c .queryConfig
  keep value := value &&& buttonConfigMask
  access_assign _ _ := rfl
  access_query _ := rfl
  map_mask _ := rfl

/-- `AnalogChannel::assign_config` and `query_config`. -/
def analogConfig : TypedRegister UInt8 .analogConfig where
  codec := uint8Codec
  assign c value := .analog c (.assignConfig value)
  query c := .analog c .queryConfig
  keep value := value &&& analogConfigMask
  access_assign _ _ := rfl
  access_query _ := rfl
  map_mask _ := rfl

/-- `AnalogChannel::assign_range` and `query_range`. -/
def analogRange : TypedRegister AnalogRange .analogRange where
  codec := rangeCodec
  assign c value := .analog c (.assignRange value.rangeMin value.rangeMax)
  query c := .analog c .queryRange
  keep value := value
  access_assign _ _ := rfl
  access_query _ := rfl
  map_mask _ := rfl

variable {V : Type} {r : Register} (t : TypedRegister V r) {c : Channel}

/-! ### Replies -/

/-- A register is as long as its value. -/
theorem length_read (s : Settings) (r : Register) : (r.read s).length = r.size.toNat := by
  cases r <;> rfl

/-- The query is answered with the content of the register. -/
theorem deliver_query {n : Node} (hmodule : n.channelModules c = some r.module)
    (inputs : Inputs) :
    ∃ n', AddressLink.deliver inputs n (t.query c).access = .ok n' ∧
      n'.sent = n.sent ++ [⟨n.receivedId, r.read (n.settings c)⟩] := by
  have hanswer : n.answer inputs (fieldAddress (channelId c) r.field)
      = some (r.read (n.settings c)) := by
    have hfield : n.answer inputs (fieldAddress (channelId c) r.field)
        = n.onRequest inputs c r.field r.module := answer_field hmodule inputs r.field
    rw [hfield]
    apply onRequest_field
  rcases sent_request inputs (fieldAddress (channelId c) r.field) 0 (fun _ => 0) n with
    ⟨n', hn', hsent⟩
  rw [hanswer] at hsent
  rw [t.access_query]
  exact ⟨n', hn', hsent⟩

/-- **Every reply is read**: whatever was written to the register, the client gets a value. -/
theorem query_read {n : Node} (hmodule : n.channelModules c = some r.module) (inputs : Inputs) :
    ∃ n' bytes value, AddressLink.deliver inputs n (t.query c).access = .ok n' ∧
      n'.sent = n.sent ++ [⟨n.receivedId, bytes⟩] ∧ t.codec.decode bytes = some value := by
  rcases t.deliver_query hmodule inputs with ⟨n', hn', hsent⟩
  have hread : (t.codec.decode (r.read (n.settings c))).isSome = true :=
    t.codec.isSome_decode_iff.mpr (length_read _ r)
  rcases Option.isSome_iff_exists.mp hread with ⟨value, hvalue⟩
  exact ⟨n', _, value, hn', hsent, hvalue⟩

/-! ### Values -/

/-- The bytes of a value, as the firmware has them behind a frame. -/
theorem take_body {bs : List UInt8} (h : bs.length ≤ 8) :
    (List.ofFn fun i : Fin 8 => bs.getD i 0).take bs.length = bs := by
  refine List.ext_getElem ?_ fun i hi hi' => ?_
  · simp [h]
  · rw [List.getElem_take, List.getElem_ofFn, List.getD_eq_getElem _ _ hi']

/-- A method that sets the register leaves the bytes of its value there, masked. -/
theorem deliver_assign {n : Node} (hmodule : n.channelModules c = some r.module)
    (inputs : Inputs) (value : V) :
    ∃ n', AddressLink.deliver inputs n (t.assign c value).access = .ok n' ∧
      r.read (n'.settings c) = t.codec.encode (t.keep value) := by
  -- the channel's module is the one the register belongs to, so the frame reaches it
  have hdispatch : n.dispatch (moduleIndex (fieldAddress (channelId c) r.field))
      = some (.function c r.module) := by
    rw [AddressLink.dispatch_fieldAddress, hmodule]
    rfl
  have hsize : r.size.toNat ≤ 8 := by
    cases r <;> decide
  have hlength : UInt8.ofNat (t.codec.encode value).length = r.size := by
    rw [t.codec.length_encode]
    simp
  have hdeliver : AddressLink.deliver inputs n (t.assign c value).access
      = n.write inputs r.field r.size (fun i => (t.codec.encode value).getD i 0)
        (.function c r.module) := by
    rw [t.access_assign, AddressLink.deliver, hlength, handlePacket, hdispatch]
    dsimp only
    rw [if_neg Bool.false_ne_true, AddressLink.addressLo_fieldAddress]
  refine ⟨_, hdeliver, ?_⟩
  have hwrite : n.write inputs r.field r.size (fun i => (t.codec.encode value).getD i 0)
      (.function c r.module) = .ok _ := rfl
  rw [(read_write hwrite).1 c r, if_pos ⟨rfl, rfl, rfl⟩]
  have hshort : (t.codec.encode value).length ≤ 8 := by simpa using hsize
  -- the bytes of the frame beyond its length are not looked at
  have htake := take_body hshort
  rw [t.codec.length_encode] at htake
  rw [htake, t.map_mask]

/-- **What is set is what is got**, with the bits that the firmware keeps: behind any run in
which the device is not reset and nobody else writes to the register, while the channel has
its function. -/
theorem assign_query {n : Node} (hmodule : n.channelModules c = some r.module)
    (inputs : Inputs) (value : V) :
    ∃ n₁, AddressLink.deliver inputs n (t.assign c value).access = .ok n₁ ∧
      ∀ (es : List (Event × Inputs)) (n₂ : Node) (inputs' : Inputs),
        Run.Along step (fun n e => ¬ n.Resets e) n₁ es →
        (∀ x ∈ Run.trace step n₁ es, writtenTo c r x.1 x.2.1 = none) →
        Run.exec step n₁ es = some n₂ → n₂.channelModules c = some r.module →
        ∃ n₃ bytes, AddressLink.deliver inputs' n₂ (t.query c).access = .ok n₃ ∧
          n₃.sent = n₂.sent ++ [⟨n₂.receivedId, bytes⟩] ∧
          t.codec.decode bytes = some (t.keep value) := by
  rcases t.deliver_assign hmodule inputs value with ⟨n₁, hassign, hread⟩
  refine ⟨n₁, hassign, fun es n₂ inputs' hreset hquiet hrun hmodule' => ?_⟩
  -- nothing on the way wrote the register, so it reads what the assignment left
  have hkept : r.read (n₂.settings c) = r.read (n₁.settings c) := by
    have hlast := Run.read_last (fun n : Node => r.read (n.settings c))
      (fun _ _ _ hstay h => (keeps_step hstay h).1 c r) es n₁ hreset
    have hnone : Run.lastWrite (writtenTo c r) (Run.trace step n₁ es) = none := by
      rw [Run.lastWrite, List.findSome?_eq_none_iff]
      intro x hx
      exact hquiet x (List.mem_reverse.mp hx)
    rw [Run.last_of_exec hrun, hnone] at hlast
    exact hlast
  rcases t.deliver_query hmodule' inputs' with ⟨n₃, hquery, hsent⟩
  refine ⟨n₃, _, hquery, hsent, ?_⟩
  rw [hkept, hread, t.codec.decode_encode]

/-- The switch of the sample is given an off delay, ticks, and is asked for it. -/
theorem assign_query_offDelay :
    ∃ n n₁ n₂ n₃ bytes, (blank switchEeprom).boot .idle = .ok n ∧
      AddressLink.deliver .idle n (switchOffDelay.assign 0 0x0102).access = .ok n₁ ∧
      Run.exec step n₁ [(.tick, .idle)] = some n₂ ∧
      AddressLink.deliver .idle n₂ (switchOffDelay.query 0).access = .ok n₃ ∧
      n₃.sent = n₂.sent ++ [⟨n₂.receivedId, bytes⟩] ∧
      deserializeUInt16 bytes = some 0x0102 := by
  obtain ⟨n, hboot, hmodule⟩ : ∃ n, (blank switchEeprom).boot .idle = .ok n ∧
      n.channelModules 0 = some Register.switchOffDelay.module := ⟨_, rfl, rfl⟩
  rcases switchOffDelay.assign_query hmodule .idle 0x0102 with ⟨n₁, hassign, hrun⟩
  obtain ⟨n₂, hn₂, hmodule₂⟩ : ∃ n₂, Run.exec step n₁ [(.tick, .idle)] = some n₂ ∧
      n₂.channelModules 0 = some Register.switchOffDelay.module := by
    cases hboot
    cases hassign
    exact ⟨_, rfl, rfl⟩
  have hreset : Run.Along step (fun n e => ¬ n.Resets e) n₁ [(.tick, .idle)] :=
    ⟨id, fun _ _ => trivial⟩
  have hquiet : ∀ x ∈ Run.trace step n₁ [(.tick, .idle)],
      writtenTo 0 .switchOffDelay x.1 x.2.1 = none := by
    intro x hx
    have hevent := Run.mem_of_mem_trace hx
    rw [List.mem_singleton] at hevent
    unfold writtenTo
    rw [hevent]
  rcases hrun _ n₂ .idle hreset hquiet hn₂ hmodule₂ with ⟨n₃, bytes, hn₃, hsent, hvalue⟩
  refine ⟨n, n₁, n₂, n₃, bytes, hboot, hassign, hn₂, hn₃, hsent, ?_⟩
  rw [deserializeUInt16_eq]
  exact hvalue

end TypedRegister

/-! ### Every device -/

/-- The methods of `Device`, but for the serial number. -/
inductive DeviceOperation
  | queryType
  | queryFirmwareVersion
  | queryLabel
  | assignLabel (label : List UInt8)
  deriving DecidableEq

/-- The bodies of these methods. -/
def DeviceOperation.access : DeviceOperation → Except Fault Access
  | queryType => .ok (.query 0x00)
  | queryFirmwareVersion => .ok (.query 0x01)
  | queryLabel => .ok (.query 0x04)
  | assignLabel label => do
    let body ← serializeString label
    return .send 0x04 body

/-- A method of a device, as its frame comes to the node. -/
def DeviceOperation.deliver (inputs : Inputs) (n : Node) (operation : DeviceOperation) :
    Except Fault Node := do
  let access ← operation.access
  AddressLink.deliver inputs n access

/-- A register that every device has is answered for. -/
theorem deliver_sysinfo (n : Node) (inputs : Inputs) {address : UInt16} {bytes : List UInt8}
    (hindex : moduleIndex address = 0)
    (hanswer : n.sysinfoAnswer inputs (addressLo address) = some bytes) :
    ∃ n', AddressLink.deliver inputs n (.query address) = .ok n' ∧
      n'.sent = n.sent ++ [⟨n.receivedId, bytes⟩] := by
  rcases sent_request inputs address 0 (fun _ => 0) n with ⟨n', hn', hsent⟩
  have hanswer' : n.answer inputs address = some bytes := by
    unfold answer
    rw [dispatch_eq_sysinfo_iff.mpr hindex]
    exact hanswer
  rw [hanswer'] at hsent
  exact ⟨n', hn', hsent⟩

/-- A label that is assigned is the text up to its first zero. -/
theorem deliver_assignLabel (inputs : Inputs) (n : Node) {label : List UInt8}
    (hlabel : label.length ≤ 8) :
    ∃ n', DeviceOperation.deliver inputs n (.assignLabel label) = .ok n' ∧
      n'.labelText = label.takeWhile (· ≠ 0) := by
  -- the frame that carries the label
  let frame : CanFrame := ⟨true, 0, false, UInt8.ofNat label.length, fun i => label.getD i 0⟩
  have hsize : (UInt8.ofNat label.length).toNat = label.length := by
    rw [UInt8.toNat_ofNat']
    omega
  have hlength : frame.length.toNat = label.length := by
    have hmask : (UInt8.ofNat label.length &&& 0x0f).toNat
        = (UInt8.ofNat label.length).toNat % 2 ^ 4 := by
      rw [UInt8.toNat_and]
      exact Nat.and_two_pow_sub_one_eq_mod _ 4
    show (UInt8.ofNat label.length &&& 0x0f).toNat = label.length
    rw [hmask, hsize]
    omega
  have hbytes : frame.bytes = label := by
    unfold CanFrame.bytes
    rw [hlength]
    apply TypedRegister.take_body hlabel
  have hserialize : serializeString label = .ok label :=
    serializeString_eq_ok_iff.mpr ⟨rfl, hlabel⟩
  have hdeliver : DeviceOperation.deliver inputs n (.assignLabel label)
      = .ok (n.sysinfoWrite inputs 0x04 (UInt8.ofNat label.length) fun i => label.getD i 0) := by
    unfold DeviceOperation.deliver DeviceOperation.access
    dsimp only
    rw [hserialize]
    rfl
  have hregister : CommonRegister.ofByte 0x04 = some .deviceLabel := rfl
  have htext := takeWhile_payload (show frame.rtr = false from rfl)
  rw [hbytes] at htext
  refine ⟨_, hdeliver, ?_⟩
  rw [labelText_eq, (settings_sysinfoWrite inputs 0x04 _ _ n).2, if_pos hregister, ← htext, hlength,
    hsize]
  congr 2
  funext i
  by_cases hi : i.val < label.length
  · have hpayload : frame.payload i = label.getD i 0 := if_pos ⟨rfl, hlength.symm ▸ hi⟩
    rw [if_pos hi, if_pos hi, hpayload]
  · rw [if_neg hi, if_neg hi]

/-- **The methods that every device has**: type and version are numbers that the client reads,
and a label that is assigned is what the client gets, up to its first zero, behind any run in
which the device is not reset and nobody else writes a label. -/
theorem device_queries (n : Node) (inputs : Inputs) :
    (∃ n' bytes, DeviceOperation.deliver inputs n .queryType = .ok n' ∧
      n'.sent = n.sent ++ [⟨n.receivedId, bytes⟩] ∧
      deserializeUInt32 bytes = some 0x00010001) ∧
    (∃ n' bytes, DeviceOperation.deliver inputs n .queryFirmwareVersion = .ok n' ∧
      n'.sent = n.sent ++ [⟨n.receivedId, bytes⟩] ∧ deserializeUInt16 bytes = some 1) ∧
    ∀ label : List UInt8, label.length ≤ 8 →
      ∃ n₁, DeviceOperation.deliver inputs n (.assignLabel label) = .ok n₁ ∧
        ∀ (es : List (Event × Inputs)) (n₂ : Node) (inputs' : Inputs),
          Run.Along step (fun n e => ¬ n.Resets e) n₁ es →
          (∀ x ∈ Run.trace step n₁ es, labelWritten x.1 x.2.1 = none) →
          Run.exec step n₁ es = some n₂ →
          ∃ n₃ bytes, DeviceOperation.deliver inputs' n₂ .queryLabel = .ok n₃ ∧
            n₃.sent = n₂.sent ++ [⟨n₂.receivedId, bytes⟩] ∧
            deserializeString bytes = .ok (label.takeWhile (· ≠ 0)) := by
  refine ⟨?_, ?_, fun label hlabel => ?_⟩
  · have hindex : moduleIndex 0x00 = 0 := rfl
    rcases deliver_sysinfo n inputs hindex rfl with ⟨n', hn', hsent⟩
    exact ⟨n', _, hn', hsent, by decide⟩
  · have hindex : moduleIndex 0x01 = 0 := rfl
    rcases deliver_sysinfo n inputs hindex rfl with ⟨n', hn', hsent⟩
    exact ⟨n', _, hn', hsent, by decide⟩
  · rcases deliver_assignLabel inputs n hlabel with ⟨n₁, hassign, htext⟩
    refine ⟨n₁, hassign, fun es n₂ inputs' hreset hquiet hrun => ?_⟩
    have hkept : n₂.labelText = n₁.labelText := by
      have hlast := Run.read_last labelText (fun _ _ _ hstay h => (keeps_step hstay h).2) es n₁
        hreset
      have hnone : Run.lastWrite labelWritten (Run.trace step n₁ es) = none := by
        rw [Run.lastWrite, List.findSome?_eq_none_iff]
        intro x hx
        exact hquiet x (List.mem_reverse.mp hx)
      rw [Run.last_of_exec hrun, hnone] at hlast
      exact hlast
    have hindex : moduleIndex 0x04 = 0 := rfl
    rcases deliver_sysinfo n₂ inputs' hindex rfl with ⟨n₃, hn₃, hsent⟩
    refine ⟨n₃, _, hn₃, hsent, ?_⟩
    have hshort : n₂.labelText.length ≤ 8 := by simp [labelText]
    rw [hkept, htext] at hshort ⊢
    exact serializeString_eq_ok_iff.mpr ⟨rfl, hshort⟩

/-- A label of three letters, on a node without anything else. -/
theorem device_queries_label :
    ∃ n₁ n₃ bytes, DeviceOperation.deliver .idle AddressLink.freshNode (.assignLabel [97, 98, 99])
        = .ok n₁ ∧
      DeviceOperation.deliver .idle n₁ .queryLabel = .ok n₃ ∧
      n₃.sent = n₁.sent ++ [⟨n₁.receivedId, bytes⟩] ∧ deserializeString bytes = .ok [97, 98, 99] := by
  rcases (device_queries AddressLink.freshNode .idle).2.2 [97, 98, 99] (by decide) with
    ⟨n₁, hassign, hrun⟩
  rcases hrun [] n₁ .idle trivial (by simp [Run.trace]) rfl with ⟨n₃, bytes, hn₃, hsent, htext⟩
  exact ⟨n₁, n₃, bytes, hassign, hn₃, hsent, htext⟩

end HomeAutomation
