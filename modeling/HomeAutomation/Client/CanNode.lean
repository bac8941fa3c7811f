import HomeAutomation.Client.Command
import HomeAutomation.Lib.Word16
import HomeAutomation.Node.State

/-!
# The client's view of the CAN node

A client works on a node through the class `CanNode` and on a channel of it through
one class for each function.  Every method makes one access: a query of an address,
a value sent to an address, or a subscription to the values of an address.

## Main definitions

* `Access` — the three kinds of access.
* `NodeOperation` — the methods of `CanNode` and of the channel classes, with
  `NodeOperation.access` as their bodies.

## References

`common/source/client/CanNode.cpp`, `common/include/client/CanNode.h`,
`common/include/client/Device.h`, `common/include/client/Serializer.h`.
-/

namespace HomeAutomation

/-- What a method asks of the device: `Device::query`, `Device::send` with the
serialized value, and `Device::subscribe`. -/
inductive Access
  | query (address : UInt16)
  | send (address : UInt16) (body : List UInt8)
  | subscribe (address : UInt16) (options : UInt32)
  deriving DecidableEq

/-- The address of an access. -/
def Access.address : Access → UInt16
  | query address => address
  | send address _ => address
  | subscribe address _ => address

/-- The methods of `SwitchChannel`. -/
inductive SwitchOperation
  | queryConfig
  | assignConfig (config : UInt8)
  | queryValue
  | assignValue (value : UInt8)
  | queryOffDelay
  | assignOffDelay (value : UInt16)
  deriving DecidableEq

/-- The methods of `ButtonChannel`. -/
inductive ButtonOperation
  | queryConfig
  | assignConfig (config : UInt8)
  | queryValue
  | assignValue (value : UInt8)
  | subscribe (options : UInt32)
  deriving DecidableEq

/-- The methods of `AnalogChannel`. -/
inductive AnalogOperation
  | queryConfig
  | assignConfig (config : UInt8)
  | queryRange
  | assignRange (rangeMin rangeMax : UInt16)
  | queryValue
  | subscribe (options : UInt32)
  deriving DecidableEq

/-- The methods of `Ds18b20Channel`. -/
inductive Ds18b20Operation
  | queryValue
  deriving DecidableEq

/-- The methods of `CanNode`, and those of its channels. -/
inductive NodeOperation
  | save
  | queryChannelCount
  | queryChannelType (c : Channel)
  | assignChannelType (c : Channel) (type : NodeFunction)
  | switch (c : Channel) (operation : SwitchOperation)
  | button (c : Channel) (operation : ButtonOperation)
  | analog (c : Channel) (operation : AnalogOperation)
  | ds18b20 (c : Channel) (operation : Ds18b20Operation)
  deriving DecidableEq

/-- The number of a channel, as the client passes it. -/
def channelId (c : Channel) : UInt8 := UInt8.ofNat c

/-- `Serializer<uint16_t>::serialize`. -/
def serializeUInt16 (value : UInt16) : List UInt8 := [Word16.high value, Word16.low value]

/-- The methods of `SwitchChannel`, with the address of a field as parameter. -/
def SwitchOperation.access (field : UInt8 → UInt16) : SwitchOperation → Access
  | queryConfig => .query (field SwitchField.config.toByte)
  | assignConfig config => .send (field SwitchField.config.toByte) [config]
  | queryValue => .query (field SwitchField.value.toByte)
  | assignValue value => .send (field SwitchField.value.toByte) [value]
  | queryOffDelay => .query (field SwitchField.offDelay.toByte)
  | assignOffDelay value => .send (field SwitchField.offDelay.toByte) (serializeUInt16 value)

/-- The methods of `ButtonChannel`.  `subscribe` names the value field of a switch,
which has the same number. -/
def ButtonOperation.access (field : UInt8 → UInt16) : ButtonOperation → Access
  | queryConfig => .query (field ButtonField.config.toByte)
  | assignConfig config => .send (field ButtonField.config.toByte) [config]
  | queryValue => .query (field ButtonField.value.toByte)
  | assignValue value => .send (field ButtonField.value.toByte) [value]
  | subscribe options => .subscribe (field SwitchField.value.toByte) options

/-- The methods of `AnalogChannel`. -/
def AnalogOperation.access (field : UInt8 → UInt16) : AnalogOperation → Access
  | queryConfig => .query (field AnalogField.config.toByte)
  | assignConfig config => .send (field AnalogField.config.toByte) [config]
  | queryRange => .query (field AnalogField.range.toByte)
  | assignRange rangeMin rangeMax =>
    .send (field AnalogField.range.toByte) (serializeUInt16 rangeMin ++ serializeUInt16 rangeMax)
  | queryValue => .query (field AnalogField.value.toByte)
  | subscribe options => .subscribe (field AnalogField.value.toByte) options

/-- The methods of `Ds18b20Channel`. -/
def Ds18b20Operation.access (field : UInt8 → UInt16) : Ds18b20Operation → Access
  | queryValue => .query (field ds18b20Temperature)

/-- The bodies of the methods.  `CanNode` takes the numbers of its registers, and
`HA_CAN_Node_function_address`, as whole addresses. -/
def NodeOperation.access : NodeOperation → Access
  | save => .send channelSaveConfig.toUInt16 []
  | queryChannelCount => .query channelCountRegister.toUInt16
  | queryChannelType c => .query (functionAddress (channelId c))
  | assignChannelType c type => .send (functionAddress (channelId c)) [type.toByte]
  | switch c operation => operation.access (fieldAddress (channelId c))
  | button c operation => operation.access (fieldAddress (channelId c))
  | analog c operation => operation.access (fieldAddress (channelId c))
  | ds18b20 c operation => operation.access (fieldAddress (channelId c))

end HomeAutomation
