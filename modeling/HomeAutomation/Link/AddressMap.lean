import HomeAutomation.Client.CanNode
import HomeAutomation.Node.Firmware
import HomeAutomation.Node.Requests

/-!
# The address map on both sides of the bus

The shared header numbers the registers of the board within the space `0x01`, and
composes the addresses of a channel's fields with their space.  The firmware splits
an address at its high byte.  The client takes the numbers of the board's registers
for whole addresses, so its frames for them go to space `0x00`: to the registers
every device has.  The fields of the channels are reached.

## Main definitions

* `NodeOperation.target`, `NodeOperation.register` — the register an operation is
  meant for.
* `NodeOperation.classOf` — the channel and the function of the class of a method.
* `Agrees` — the firmware dispatches the operation's address to that register.
* `deliver` — an access, handled by the node.
* `TypeComesBack` — a function assigned to a channel is read back.

## Main results

* `dispatch_fieldAddress` — the address of a field reaches the module of its channel.
* `dispatch_functionAddress` — the address of a function register reaches space
  `0x00`.
* `address_map` — the operations on channels are the ones that agree.

## References

`shared/include/ha/can_node.h`, `common/source/client/CanNode.cpp`,
`stm8/can_node/module.c`, `stm8/can_node/mod_proto.c`, `stm8/can_node/sysinfo.c`.
-/

namespace HomeAutomation

open Node

/-! ### What an operation is meant for -/

/-- The field a method of `SwitchChannel` is about. -/
def SwitchOperation.field : SwitchOperation → SwitchField
  | queryConfig | assignConfig _ => .config
  | queryValue | assignValue _ => .value
  | queryOffDelay | assignOffDelay _ => .offDelay

/-- The field a method of `ButtonChannel` is about. -/
def ButtonOperation.field : ButtonOperation → ButtonField
  | queryConfig | assignConfig _ => .config
  | queryValue | assignValue _ | subscribe _ => .value

/-- The field a method of `AnalogChannel` is about. -/
def AnalogOperation.field : AnalogOperation → AnalogField
  | queryConfig | assignConfig _ => .config
  | queryRange | assignRange _ _ => .range
  | queryValue | subscribe _ => .value

namespace NodeOperation

/-- The module an operation is meant for: the one of the board, or the one that
runs on the channel. -/
def target (n : Node) : NodeOperation → Option Target
  | save | queryChannelCount | queryChannelType _ | assignChannelType _ _ => some .proto
  | switch c _ | button c _ | analog c _ | ds18b20 c _ =>
    (n.channelModules c).map (Target.function c)

/-- The register of that module. -/
def register : NodeOperation → UInt8
  | save => channelSaveConfig
  | queryChannelCount => channelCountRegister
  | queryChannelType c | assignChannelType c _ => channelFunction0 + channelId c
  | switch _ operation => operation.field.toByte
  | button _ operation => operation.field.toByte
  | analog _ operation => operation.field.toByte
  | ds18b20 _ _ => ds18b20Temperature

/-- The class of a method: the channel it is made for, and the function that the class is
written for. -/
def classOf : NodeOperation → Option (Channel × FunctionModule)
  | save | queryChannelCount | queryChannelType _ | assignChannelType _ _ => none
  | switch c _ => some (c, .switch)
  | button c _ => some (c, .button)
  | analog c _ => some (c, .analog)
  | ds18b20 c _ => some (c, .ds18b20)

/-- The operation is a method of a channel, and not of the node itself. -/
def onChannel : NodeOperation → Bool
  | save | queryChannelCount | queryChannelType _ | assignChannelType _ _ => false
  | switch _ _ | button _ _ | analog _ _ | ds18b20 _ _ => true

end NodeOperation

namespace AddressLink

/-- **Client and node agree on an operation**: its address is dispatched to the
module it is meant for, at the register it is meant for. -/
def Agrees (n : Node) (operation : NodeOperation) : Prop :=
  n.dispatch (moduleIndex operation.access.address) = operation.target n ∧
    addressLo operation.access.address = operation.register

/-- An access that has come to the node as a frame.  A subscription stays with the
router. -/
def deliver (inputs : Inputs) (n : Node) : Access → Except Fault Node
  | .query address => n.handlePacket inputs true address 0 (fun _ => 0)
  | .send address body =>
    n.handlePacket inputs false address (UInt8.ofNat body.length) (fun i => body.getD i 0)
  | .subscribe _ _ => .ok n

/-- After the function of a channel was assigned, the query for it is answered with
the one byte of that function. -/
def TypeComesBack (inputs inputs' : Inputs) (n : Node) (c : Channel) (type : NodeFunction) : Prop :=
  ∃ n₁ n₂, deliver inputs n (NodeOperation.assignChannelType c type).access = .ok n₁ ∧
    deliver inputs' n₁ (NodeOperation.queryChannelType c).access = .ok n₂ ∧
    n₂.sent = n₁.sent ++ [⟨n₁.receivedId, [type.toByte]⟩]

/-! ### The fields of the channels -/

/-- The address of a field has the channel in its high byte and the field in its low
byte. -/
theorem fieldAddress_eq_join (c : Channel) (field : UInt8) :
    fieldAddress (channelId c) field = Word16.join (0x80 + channelId c) field := by
  have hhigh : (channelId c).toUInt16 + 0x80 = (0x80 + channelId c).toUInt16 := by
    revert c
    decide
  rw [fieldAddress, Word16.join, hhigh]

/-- **The address of a field reaches the module of its channel.** -/
theorem dispatch_fieldAddress (n : Node) (c : Channel) (field : UInt8) :
    n.dispatch (moduleIndex (fieldAddress (channelId c) field))
      = (n.channelModules c).map (Target.function c) := by
  have hindex : (0x80 + channelId c ≠ 0 ∧ 0x80 + channelId c ≠ 1) ∧
      (0x80 + channelId c ≥ 0x80 ∧ (0x80 + channelId c) &&& 0x7f < 4) ∧
      Fin.ofNat 4 ((0x80 + channelId c) &&& 0x7f).toNat = c := by
    revert c
    decide
  obtain ⟨⟨hzero, hone⟩, hspace, hchannel⟩ := hindex
  rw [moduleIndex, fieldAddress_eq_join, Word16.high_join, dispatch, if_neg hzero, if_neg hone,
    if_pos hspace]
  dsimp only
  rw [hchannel]

/-- **At that field.** -/
theorem addressLo_fieldAddress (c : Channel) (field : UInt8) :
    addressLo (fieldAddress (channelId c) field) = field := by
  rw [addressLo, fieldAddress_eq_join, Word16.low_join]

theorem agrees_of_fieldAddress {n : Node} {operation : NodeOperation} {c : Channel}
    (htarget : operation.target n = (n.channelModules c).map (Target.function c))
    (haddress : operation.access.address = fieldAddress (channelId c) operation.register) :
    Agrees n operation := by
  refine ⟨?_, ?_⟩
  · rw [haddress, htarget]
    exact dispatch_fieldAddress n c operation.register
  · rw [haddress]
    exact addressLo_fieldAddress c operation.register

/-- The field of a method is one of the function that its class is written for. -/
theorem register_mem_readableFields {operation : NodeOperation} {c : Channel}
    {m : FunctionModule} (h : operation.classOf = some (c, m)) :
    operation.register ∈ readableFields m := by
  cases operation with
  -- these belong to no class of a module
  | save | queryChannelCount | queryChannelType | assignChannelType => cases h
  | switch c operation =>
    cases h
    have hall : ∀ field : SwitchField, field.toByte ∈ readableFields .switch := by
      rintro ⟨⟩ <;> decide
    exact hall operation.field
  | button c operation =>
    cases h
    have hall : ∀ field : ButtonField, field.toByte ∈ readableFields .button := by
      rintro ⟨⟩ <;> decide
    exact hall operation.field
  | analog c operation =>
    cases h
    have hall : ∀ field : AnalogField, field.toByte ∈ readableFields .analog := by
      rintro ⟨⟩ <;> decide
    exact hall operation.field
  | ds18b20 c operation =>
    cases h
    exact List.mem_singleton_self _

theorem target_of_classOf {n : Node} {operation : NodeOperation} {c : Channel}
    {m : FunctionModule} (h : operation.classOf = some (c, m)) :
    operation.onChannel = true ∧ operation.target n = (n.channelModules c).map (Target.function c) := by
  cases operation with
  | save | queryChannelCount | queryChannelType | assignChannelType => cases h
  | switch | button | analog | ds18b20 =>
    cases h
    exact ⟨rfl, rfl⟩

/-! ### The registers of the board -/

/-- **The address of a function register reaches space `0x00`.** -/
theorem dispatch_functionAddress (n : Node) (c : Channel) :
    n.dispatch (moduleIndex (functionAddress (channelId c))) = some .sysinfo := by
  have hindex : moduleIndex (functionAddress (channelId c)) = 0 := by
    revert c
    decide
  rw [hindex]
  rfl

/-- There is no register of that number. -/
theorem ofByte_functionAddress (c : Channel) :
    CommonRegister.ofByte (addressLo (functionAddress (channelId c))) = none := by
  revert c
  decide

/-- A function that a client assigns is not even looked at. -/
theorem deliver_assignChannelType (inputs : Inputs) (n : Node) (c : Channel) (type : NodeFunction) :
    deliver inputs n (NodeOperation.assignChannelType c type).access = .ok n := by
  show n.handlePacket inputs false (functionAddress (channelId c)) _ _ = .ok n
  rw [handlePacket, dispatch_functionAddress]
  show Except.ok (n.sysinfoWrite inputs (addressLo (functionAddress (channelId c))) _ _) = _
  rw [sysinfoWrite, ofByte_functionAddress]

/-- A query for the function of a channel gets no answer. -/
theorem deliver_queryChannelType (inputs : Inputs) (n : Node) (c : Channel) :
    deliver inputs n (NodeOperation.queryChannelType c).access = .ok n := by
  show n.handlePacket inputs true (functionAddress (channelId c)) _ _ = .ok n
  rw [handlePacket, dispatch_functionAddress]
  show Except.ok
    (reply (n.sysinfoRequest inputs (addressLo (functionAddress (channelId c))))) = _
  rw [sysinfoRequest, ofByte_functionAddress]
  rfl

theorem not_typeComesBack (inputs inputs' : Inputs) (n : Node) (c : Channel)
    (type : NodeFunction) : ¬ TypeComesBack inputs inputs' n c type := by
  rintro ⟨n₁, n₂, hassign, hquery, hsent⟩
  rw [deliver_assignChannelType] at hassign
  cases hassign
  rw [deliver_queryChannelType] at hquery
  cases hquery
  simp at hsent

theorem not_agrees_of_sysinfo {n : Node} {operation : NodeOperation}
    (htarget : operation.target n = some .proto)
    (hdispatch : n.dispatch (moduleIndex operation.access.address) = some .sysinfo) :
    ¬ Agrees n operation := by
  rintro ⟨h, -⟩
  rw [hdispatch, htarget] at h
  cases h

/-! ### The map -/

theorem agrees_iff (n : Node) (operation : NodeOperation) :
    Agrees n operation ↔ operation.onChannel = true := by
  cases operation with
  -- commands of the node itself: the address used is one of the system's registers
  | save => exact iff_of_false (not_agrees_of_sysinfo rfl rfl) Bool.false_ne_true
  | queryChannelCount => exact iff_of_false (not_agrees_of_sysinfo rfl rfl) Bool.false_ne_true
  | queryChannelType c =>
    exact iff_of_false (not_agrees_of_sysinfo rfl (dispatch_functionAddress n c))
      Bool.false_ne_true
  | assignChannelType c type =>
    exact iff_of_false (not_agrees_of_sysinfo rfl (dispatch_functionAddress n c))
      Bool.false_ne_true
  -- the operations on a channel use the address of their field there
  | switch c operation =>
    refine iff_of_true (agrees_of_fieldAddress (c := c) rfl ?_) rfl
    cases operation <;> rfl
  | button c operation =>
    refine iff_of_true (agrees_of_fieldAddress (c := c) rfl ?_) rfl
    cases operation <;> rfl
  | analog c operation =>
    refine iff_of_true (agrees_of_fieldAddress (c := c) rfl ?_) rfl
    cases operation <;> rfl
  | ds18b20 c operation =>
    refine iff_of_true (agrees_of_fieldAddress (c := c) rfl ?_) rfl
    cases operation
    rfl

/-- **Client and node agree exactly on the operations of the channels.**  A method of a
channel's class comes to the function that the class is written for, at one of its fields,
when the channel runs that function.  On the operations of the node itself they never
agree, and the function of a channel that a client assigns never comes back. -/
theorem address_map (n : Node) :
    (∀ operation, Agrees n operation ↔ operation.onChannel = true) ∧
      (∀ (operation : NodeOperation) c m, operation.classOf = some (c, m) →
        n.channelModules c = some m →
        n.dispatch (moduleIndex operation.access.address) = some (.function c m) ∧
          addressLo operation.access.address ∈ readableFields m) ∧
      ∀ inputs inputs' c type, ¬ TypeComesBack inputs inputs' n c type := by
  refine ⟨agrees_iff n, fun operation c m hclass hm => ?_,
    fun inputs inputs' => not_typeComesBack inputs inputs' n⟩
  obtain ⟨honChannel, htarget⟩ := target_of_classOf (n := n) hclass
  obtain ⟨hdispatch, hregister⟩ := (agrees_iff n operation).mpr honChannel
  rw [hdispatch, hregister, htarget, hm]
  exact ⟨rfl, register_mem_readableFields hclass⟩

/-- The value of a switch is asked for at the switch. -/
theorem address_map_switch :
    let n := { blank (fun _ => 0xff) with channelModules := fun _ => some .switch }
    n.dispatch (moduleIndex (NodeOperation.switch 3 .queryValue).access.address)
        = some (.function 3 .switch) ∧
      addressLo (NodeOperation.switch 3 .queryValue).access.address ∈ readableFields .switch :=
  (address_map _).2.1 (.switch 3 .queryValue) 3 .switch rfl rfl

/-- A node that was given a device id and nothing else. -/
def freshNode : Node := { blank (fun _ => 0xff) with deviceId := 7 }

/-- On such a node, the query for the number of channels is answered with the firmware
version, and a switch assigned to channel 0 does not come back. -/
theorem queryChannelCount_misdirected :
    ¬ Agrees freshNode .queryChannelCount ∧
      (∃ n, deliver .idle freshNode NodeOperation.queryChannelCount.access = .ok n ∧
        n.sent = [⟨0, [0, 1]⟩]) ∧
      ¬ TypeComesBack .idle .idle freshNode 0 .switch :=
  ⟨not_agrees_of_sysinfo rfl rfl, ⟨_, rfl, rfl⟩, not_typeComesBack _ _ _ _ _⟩

end AddressLink
end HomeAutomation
