import Mathlib.Data.Fintype.Basic
import HomeAutomation.Can.CanProto
import HomeAutomation.Can.NodeMap
import HomeAutomation.Lib.ByteStream

/-!
# The state of the CAN node

The firmware keeps its state in static variables, spread over one file for each
function a channel can run.  `Node` collects them, together with the registers of
the peripherals, the EEPROM, and what the node has put on the bus.

## Main definitions

* `Channel`, `FunctionModule` — the four channels and the modules behind their
  functions.
* `Node` — the whole state; `Node.reset` is what a reset makes of it.
* `Inputs` — what the hardware answers while one event is handled.

## References

`stm8/can_node/module.c`, `sysinfo.c`, `mod_switch.c`, `mod_button.c`,
`mod_analog.c`, `can.c`, `libstm8s/src/stm8s_gpio.c`, `stm8s_adc2.c`.
-/

namespace HomeAutomation

-- one instance for each size, so that numerals mean the same term in every module
instance neZero_channelCount : NeZero 4 := ⟨by decide⟩
instance neZero_dataLength : NeZero 8 := ⟨by decide⟩
instance neZero_serialLength : NeZero 12 := ⟨by decide⟩
instance neZero_stackLength : NeZero 3 := ⟨by decide⟩

/-- A channel of the board, below `CAN_Node_ChannelCount`.  Channel `c` uses pin
`c` of port B and channel `c` of the converter, whatever it runs. -/
abbrev Channel := Fin 4

/-- The channels in the order the loops of the firmware take them. -/
def channels : List Channel := [0, 1, 2, 3]

theorem mem_channels (c : Channel) : c ∈ channels := by
  revert c
  decide

/-- The `CAN_Node_Module` records of the channel functions. -/
inductive FunctionModule
  | switch | button | analog | ds18b20
  deriving DecidableEq, Repr

/-- The entries of a `CAN_Node_Module`. -/
inductive Callback
  | init | deinit | request | write | timer | save | load
  deriving DecidableEq, Repr

/-- A call of an entry of a channel's module. -/
structure ModuleCall where
  channel : Channel
  module : FunctionModule
  callback : Callback
  deriving DecidableEq, Repr

/-! ### The static variables -/

/-- `SwitchMode`. -/
inductive SwitchMode
  | off | on
  deriving DecidableEq, Repr

/-- The byte that reports a mode. -/
def SwitchMode.toByte : SwitchMode → UInt8
  | off => 0
  | on => 1

/-- `Switch`. -/
structure Switch where
  config : UInt8 := 0
  mode : SwitchMode := .off
  offDelay : UInt16 := 0
  offTimer : UInt16 := 0
  deriving DecidableEq

/-- `ButtonState`. -/
inductive ButtonState
  | released | pressed
  deriving DecidableEq, Repr

/-- The byte that reports a state. -/
def ButtonState.toByte : ButtonState → UInt8
  | released => 0
  | pressed => 1

/-- `Button`. -/
structure Button where
  config : UInt8 := 0
  state : ButtonState := .released
  deriving DecidableEq

/-- `AnalogState`. -/
inductive AnalogState
  | disabled | inactive | active
  deriving DecidableEq, Repr

/-- `AnalogSensor`.  The flag `in_range` of the source belongs to a range check that
nothing calls; it is an argument of that check. -/
structure AnalogSensor where
  config : UInt8 := 0
  state : AnalogState := .disabled
  rangeMin : UInt16 := 0
  rangeMax : UInt16 := 0
  value : UInt16 := 0
  deriving DecidableEq

/-! ### The peripherals -/

/-- The modes of a pin that the firmware uses: `GPIO_MODE_IN_FL_NO_IT`,
`GPIO_MODE_IN_PU_NO_IT` and `GPIO_MODE_OUT_PP_LOW_FAST`. -/
inductive PinMode
  | inputFloating | inputPullUp | output
  deriving DecidableEq, Repr

/-- A pin: its mode and its bit of the output data register. -/
structure Pin where
  mode : PinMode := .inputFloating
  high : Bool := false
  deriving DecidableEq

/-- The converter: whether it is enabled, the channel it is configured for, and
the channel of the conversion it was last told to start. -/
structure Adc where
  enabled : Bool := false
  channel : Channel := 0
  started : Option Channel := none
  deriving DecidableEq

/-- A data frame with an extended identifier, as `CAN_Transmit` is asked to send it. -/
structure SentFrame where
  id : UInt32
  data : List UInt8
  deriving DecidableEq

/-- A received frame, as the registers of the receive mailbox hold it. -/
structure CanFrame where
  extended : Bool
  id : UInt32
  rtr : Bool
  dlc : UInt8
  data : Fin 8 → UInt8

/-- The data of a frame, with zeros behind its length; a remote frame has none. -/
def CanFrame.payload (frame : CanFrame) : Fin 8 → UInt8 := fun i =>
  if !frame.rtr ∧ i.val < (frame.dlc &&& 0x0f).toNat then frame.data i else 0

/-! ### The node -/

/-- The state of a node. -/
structure Node where
  /-- `module_ids`. -/
  moduleIds : Channel → UInt8 := fun _ => 0
  /-- `channel_modules`. -/
  channelModules : Channel → Option FunctionModule := fun _ => none
  deviceId : UInt8 := 0xff
  label : Fin 8 → UInt8 := fun _ => 0
  switches : Channel → Switch := fun _ => {}
  buttons : Channel → Button := fun _ => {}
  analogSensors : Channel → AnalogSensor := fun _ => {}
  sensorCount : UInt8 := 0
  selectedSensor : Channel := 0
  /-- `received_id`, the identifier that replies repeat. -/
  receivedId : UInt32 := 0
  /-- Pins 0 to 3 of port B. -/
  pins : Channel → Pin := fun _ => {}
  adc : Adc := {}
  /-- Whether the 1-wire port was last initialised rather than shut down. -/
  oneWire : Bool := false
  /-- The data memory, from its first address on. -/
  eeprom : ℕ → UInt8
  /-- The frames the node has tried to transmit, the oldest first. -/
  sent : List SentFrame := []
  /-- The calls of channel modules since the last reset, the oldest first. -/
  calls : List ModuleCall := []

namespace Node

/-- A reset puts every static variable and every register back; the EEPROM stays,
and so does what is on the bus. -/
def reset (n : Node) : Node := { eeprom := n.eeprom, sent := n.sent }

/-- A node that has never been switched on, with some content of the EEPROM. -/
def blank (eeprom : ℕ → UInt8) : Node := { eeprom := eeprom }

/-- The trace of a call of a channel module. -/
def called (n : Node) (m : FunctionModule) (callback : Callback) (c : Channel) : Node :=
  { n with calls := n.calls ++ [⟨c, m, callback⟩] }

/-- `GPIO_Init` on the pin of a channel: the output mode drives the pin low, an
input mode leaves the output bit as it is. -/
def gpioInit (n : Node) (c : Channel) (mode : PinMode) : Node :=
  { n with
    pins := Function.update n.pins c ⟨mode, if mode = .output then false else (n.pins c).high⟩ }

/-- `GPIO_WriteHigh` and `GPIO_WriteLow`. -/
def gpioWrite (n : Node) (c : Channel) (high : Bool) : Node :=
  { n with pins := Function.update n.pins c { n.pins c with high := high } }

end Node

/-! ### What the hardware answers -/

/-- The 1-wire bus while a temperature is read: whether a device answers each of
the two resets, the bytes read while the conversion runs, and the first two bytes
of the scratchpad. -/
structure OneWireBus where
  firstReset : Bool
  polls : ℕ → UInt8
  secondReset : Bool
  scratchpad : UInt8 × UInt8

/-- What the hardware answers while one event is handled.  A loop over the
channels comes past each channel once, so one answer for each channel is enough. -/
structure Inputs where
  /-- The input register of port B. -/
  idr : Channel → Bool
  /-- `ADC2_GetConversionValue`, as the module on a channel reads it. -/
  conversion : Channel → UInt16
  oneWire : OneWireBus
  /-- The twelve bytes of the serial number. -/
  serial : Fin 12 → UInt8
  /-- What the stack holds where `analog_save` keeps bytes it never writes. -/
  stack : Channel → Fin 3 → UInt8

/-- Hardware at rest: the pins are low and no thermometer answers. -/
def Inputs.idle : Inputs where
  idr _ := false
  conversion _ := 0
  oneWire := ⟨false, fun _ => 0, false, (0, 0)⟩
  serial _ := 0
  stack _ _ := 0

end HomeAutomation
