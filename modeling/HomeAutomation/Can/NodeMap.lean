import Mathlib.Tactic.IntervalCases
import HomeAutomation.Util.Outcome

/-!
# The address map of the CAN node

The header shared by the client and the firmware of the four-channel board: the
functions a channel can run, the registers of each function, and the two helpers
that compose addresses.  The high byte of a 16-bit address selects an address
space: `0x00` the registers every device has, `0x01` the board itself, and `0x80`
plus the channel number the function that runs on that channel.

## Main definitions

* `NodeFunction` — the functions of a channel.
* `CommonRegister`, `SwitchField`, `ButtonField`, `AnalogField`, `Ds18b20Field` —
  the registers.
* `functionAddress`, `fieldAddress` — the helpers.

## References

`shared/include/ha/can_node.h`, `shared/include/ha/can_proto.h`.
-/

namespace HomeAutomation

/-- `HA_CAN_Node_Function`. -/
inductive NodeFunction
  | none | switch | button | analog | pwm | ds18b20
  deriving DecidableEq, Repr

/-- `HA_CAN_Node_FunctionCount`. -/
def functionCount : UInt8 := 6

namespace NodeFunction

/-- The number of a function. -/
def toByte : NodeFunction → UInt8
  | none => 0
  | switch => 1
  | button => 2
  | analog => 3
  | pwm => 4
  | ds18b20 => 5

/-- The function of a number. -/
def ofByte (b : UInt8) : Option NodeFunction :=
  if b = 0 then some none
  else if b = 1 then some switch
  else if b = 2 then some button
  else if b = 3 then some analog
  else if b = 4 then some pwm
  else if b = 5 then some ds18b20
  else Option.none

@[simp] theorem ofByte_toByte (f : NodeFunction) : ofByte f.toByte = some f := by
  cases f <;> rfl

theorem eq_toByte_of_ofByte {b : UInt8} {f : NodeFunction} (h : ofByte b = some f) :
    b = f.toByte := by
  unfold ofByte at h
  split_ifs at h <;> cases h <;> assumption

/-- **Every number below the count names a function.** -/
theorem exists_ofByte_of_lt {b : UInt8} (h : b < functionCount) : ∃ f, b = toByte f := by
  have hlt : b.toNat < 6 := h
  have hb : b = UInt8.ofNat b.toNat := UInt8.ofNat_toNat.symm
  interval_cases b.toNat
  · exact ⟨none, hb⟩
  · exact ⟨switch, hb⟩
  · exact ⟨button, hb⟩
  · exact ⟨analog, hb⟩
  · exact ⟨pwm, hb⟩
  · exact ⟨ds18b20, hb⟩

theorem toByte_lt (f : NodeFunction) : f.toByte < functionCount := by
  cases f <;> decide

end NodeFunction

/-! ### Registers -/

/-- `HA_CAN_CommonMap`: the registers of the space `0x00`. -/
inductive CommonRegister
  | deviceType | firmwareVersion | serialHi | serialLo | deviceLabel
  deriving DecidableEq, Repr

/-- The register a `switch` over `HA_CAN_CommonMap` selects. -/
def CommonRegister.ofByte (b : UInt8) : Option CommonRegister :=
  if b = 0 then some deviceType
  else if b = 1 then some firmwareVersion
  else if b = 2 then some serialHi
  else if b = 3 then some serialLo
  else if b = 4 then some deviceLabel
  else none

/-- `HA_CAN_Node_ChannelSaveConfig`, in the space `0x01`. -/
def channelSaveConfig : UInt8 := 0x00

/-- `HA_CAN_Node_ChannelCount`, in the space `0x01`. -/
def channelCountRegister : UInt8 := 0x01

/-- `HA_CAN_Node_ChannelFunction0`, in the space `0x01`. -/
def channelFunction0 : UInt8 := 0x80

/-- `HA_CAN_Node_SwitchFields`. -/
inductive SwitchField
  | config | value | offDelay
  deriving DecidableEq, Repr

namespace SwitchField

/-- The number of a field. -/
def toByte : SwitchField → UInt8
  | config => 0
  | value => 1
  | offDelay => 2

/-- The field a `switch` over the numbers selects. -/
def ofByte (b : UInt8) : Option SwitchField :=
  if b = 0 then some config
  else if b = 1 then some value
  else if b = 2 then some offDelay
  else none

/-- A number selects a field when it is the field's. -/
theorem ofByte_eq_some_iff {b : UInt8} {f : SwitchField} : ofByte b = some f ↔ b = f.toByte := by
  constructor
  · intro h
    unfold ofByte at h
    split_ifs at h <;> cases h <;> assumption
  · rintro rfl
    cases f <;> rfl

end SwitchField

/-- `HA_CAN_Node_ButtonFields`. -/
inductive ButtonField
  | config | value
  deriving DecidableEq, Repr

namespace ButtonField

/-- The number of a field. -/
def toByte : ButtonField → UInt8
  | config => 0
  | value => 1

/-- The field a `switch` over the numbers selects. -/
def ofByte (b : UInt8) : Option ButtonField :=
  if b = 0 then some config
  else if b = 1 then some value
  else none

/-- A number selects a field when it is the field's. -/
theorem ofByte_eq_some_iff {b : UInt8} {f : ButtonField} : ofByte b = some f ↔ b = f.toByte := by
  constructor
  · intro h
    unfold ofByte at h
    split_ifs at h <;> cases h <;> assumption
  · rintro rfl
    cases f <;> rfl

end ButtonField

/-- `HA_CAN_Node_AnalogFields`. -/
inductive AnalogField
  | config | range | value
  deriving DecidableEq, Repr

namespace AnalogField

/-- The number of a field. -/
def toByte : AnalogField → UInt8
  | config => 0
  | range => 1
  | value => 2

/-- The field a `switch` over the numbers selects. -/
def ofByte (b : UInt8) : Option AnalogField :=
  if b = 0 then some config
  else if b = 1 then some range
  else if b = 2 then some value
  else none

/-- A number selects a field when it is the field's. -/
theorem ofByte_eq_some_iff {b : UInt8} {f : AnalogField} : ofByte b = some f ↔ b = f.toByte := by
  constructor
  · intro h
    unfold ofByte at h
    split_ifs at h <;> cases h <;> assumption
  · rintro rfl
    cases f <;> rfl

end AnalogField

/-- `HA_CAN_Node_DS18B20_Temperature`. -/
def ds18b20Temperature : UInt8 := 0

/-! ### Configuration bits -/

/-- `HA_CAN_Node_SwitchConfig_Polarity`. -/
def switchConfigPolarity : UInt8 := 0x01

/-- `HA_CAN_Node_SwitchConfig_DefaultOn`. -/
def switchConfigDefaultOn : UInt8 := 0x02

/-- `HA_CAN_Node_SwitchConfig_OffDelay`. -/
def switchConfigOffDelay : UInt8 := 0x04

/-- `HA_CAN_Node_SwitchConfigMask`. -/
def switchConfigMask : UInt8 := 0x07

/-- `HA_CAN_Node_ButtonConfig_Polarity`. -/
def buttonConfigPolarity : UInt8 := 0x01

/-- `HA_CAN_Node_ButtonConfig_PullUp`. -/
def buttonConfigPullUp : UInt8 := 0x02

/-- `HA_CAN_Node_ButtonConfig_Lock`. -/
def buttonConfigLock : UInt8 := 0x04

/-- `HA_CAN_Node_ButtonConfig_Active`. -/
def buttonConfigActive : UInt8 := 0x08

/-- `HA_CAN_Node_ButtonConfigMask`. -/
def buttonConfigMask : UInt8 := 0x0f

/-- `HA_CAN_Node_AnalogConfig_RangeCheck`. -/
def analogConfigRangeCheck : UInt8 := 0x01

/-- `HA_CAN_Node_AnalogConfig_ReverseRange`. -/
def analogConfigReverseRange : UInt8 := 0x02

/-- `HA_CAN_Node_AnalogConfigMask`. -/
def analogConfigMask : UInt8 := 0x03

/-- The test `config & bit`. -/
def hasBit (config bit : UInt8) : Bool := config &&& bit != 0

/-! ### Addresses -/

/-- `HA_CAN_Node_function_address`. -/
def functionAddress (channelId : UInt8) : UInt16 :=
  channelFunction0.toUInt16 + channelId.toUInt16

/-- `HA_CAN_Node_field_address`. -/
def fieldAddress (channelId field : UInt8) : UInt16 :=
  ((channelId.toUInt16 + 0x80) <<< 8) ||| field.toUInt16

end HomeAutomation
