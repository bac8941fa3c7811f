import HomeAutomation.Lib.Run
import HomeAutomation.Node.Functions

/-!
# The firmware of the CAN node

The registry of modules dispatches a received frame on the high byte of its
address: to the registers every device has, to the registers of the board, or to
the module that runs on a channel.  The configuration is stored in the EEPROM as
one image without tags: a header byte, the device id and the label, the function
numbers, and then what the module of each channel stores.

The system modules are registered before the first event, so the checks for
missing ones are not modelled; the LEDs and the clock are left out.

## Main definitions

* `dispatch`, `handlePacket` — `CAN_Node_handle_packet`.
* `saveModules`, `loadModules` — the image in the EEPROM.
* `handleReceivedData` — a frame from the bus.
* `Event`, `step`, `Reachable` — the node as a system of events.

## References

`stm8/can_node/module.c`, `sysinfo.c`, `mod_proto.c`, `can.c`, `main.c`.
-/

namespace HomeAutomation
namespace Node

/-! ### Functions of channels -/

/-- `function_modules`, as `register_modules` fills it.  There is no module behind
`None` and `PWM`. -/
def functionModule : NodeFunction → Option FunctionModule
  | .none => none
  | .switch => some .switch
  | .button => some .button
  | .analog => some .analog
  | .pwm => none
  | .ds18b20 => some .ds18b20

/-- The entry of `function_modules` at an index. -/
def functionModules (functionId : UInt8) : Except Fault (Option FunctionModule) :=
  match NodeFunction.ofByte functionId with
  | some f => .ok (functionModule f)
  | none => .error .outOfBounds

/-- An index into `function_modules` is the number of a function. -/
theorem exists_of_functionModules {functionId : UInt8} {m : Option FunctionModule}
    (h : functionModules functionId = .ok m) :
    ∃ f : NodeFunction, functionId = f.toByte ∧ m = functionModule f := by
  unfold functionModules at h
  split at h
  · next f hf =>
    cases h
    exact ⟨f, NodeFunction.eq_toByte_of_ofByte hf, rfl⟩
  · cases h

/-- The first part of `CAN_Node_set_channel`: the module that ran on the channel
is shut down. -/
def releaseChannel (c : Channel) (n : Node) : Except Fault Node :=
  match n.channelModules c with
  | none => .ok n
  | some m => do
    let n ← (n.called m .deinit c).onDeinit c m
    return { n with channelModules := Function.update n.channelModules c none }

/-- The rest of `CAN_Node_set_channel`. -/
def occupyChannel (c : Channel) (functionId : UInt8) (module : Option FunctionModule) (n : Node) :
    Node :=
  let n := { n with
    channelModules := Function.update n.channelModules c module
    moduleIds := Function.update n.moduleIds c functionId }
  match module with
  | none => n
  | some m => (n.called m .init c).onInit c m

/-- `CAN_Node_set_channel`.  Its checks of the arguments are compiled to nothing. -/
def setChannel (c : Channel) (functionId : UInt8) (n : Node) : Except Fault Node := do
  let n ← n.releaseChannel c
  let module ← functionModules functionId
  return n.occupyChannel c functionId module

/-! ### The image in the EEPROM -/

/-- `Header`. -/
def header : UInt8 := 0x53

/-- `sysinfo_save`. -/
def sysinfoSave (n : Node) (stream : ByteStream) : ByteStream :=
  (List.finRange 8).foldl (fun stream i => stream.writeByte (n.label i))
    (stream.writeByte n.deviceId)

/-- `sysinfo_load`. -/
def sysinfoLoad (n : Node) (stream : ByteStream) : Node × ByteStream :=
  let (deviceId, stream) := stream.readByte
  let (label, stream) := stream.readInto (List.finRange 8) n.label
  ({ n with deviceId := deviceId, label := label }, stream)

/-- A turn of the loop of `CAN_Node_save_modules` over the modules of the channels. -/
def saveChannel (inputs : Inputs) (c : Channel) (n : Node) (stream : ByteStream) :
    Node × ByteStream :=
  match n.channelModules c with
  | none => (n, stream)
  | some m =>
    match n.onSave inputs c stream m with
    | none => (n, stream)
    | some stream => (n.called m .save c, stream)

/-- That loop. -/
def saveChannels (inputs : Inputs) : List Channel → Node → ByteStream → Node × ByteStream
  | [], n, stream => (n, stream)
  | c :: cs, n, stream =>
    let (n, stream) := n.saveChannel inputs c stream
    saveChannels inputs cs n stream

/-- `CAN_Node_save_modules`.  `proto_save` stores nothing. -/
def saveModules (inputs : Inputs) (n : Node) : Node :=
  let stream := n.sysinfoSave ((ByteStream.mk n.eeprom 0).writeByte header)
  let stream := channels.foldl (fun stream c => stream.writeByte (n.moduleIds c)) stream
  let (n, stream) := saveChannels inputs channels n stream
  { n with eeprom := stream.memory }

/-- The loop of `CAN_Node_load_modules` over the function numbers. -/
def loadFunctions : List Channel → Node → ByteStream → Except Fault (Node × ByteStream)
  | [], n, stream => .ok (n, stream)
  | c :: cs, n, stream => do
    let functionId := stream.readByte.1
    let n ← n.setChannel c
      (if functionId < functionCount then functionId else NodeFunction.none.toByte)
    loadFunctions cs n stream.readByte.2

/-- A turn of the loop of `CAN_Node_load_modules` over the modules of the channels. -/
def loadChannel (inputs : Inputs) (c : Channel) (n : Node) (stream : ByteStream) :
    Node × ByteStream :=
  match n.channelModules c with
  | none => (n, stream)
  | some m =>
    match (n.called m .load c).onLoad inputs c stream m with
    | none => (n, stream)
    | some result => result

/-- That loop. -/
def loadChannels (inputs : Inputs) : List Channel → Node → ByteStream → Node × ByteStream
  | [], n, stream => (n, stream)
  | c :: cs, n, stream =>
    let (n, stream) := n.loadChannel inputs c stream
    loadChannels inputs cs n stream

/-- `CAN_Node_load_modules`.  `proto_load` reads nothing. -/
def loadModules (inputs : Inputs) (n : Node) : Except Fault Node :=
  let stream := ByteStream.mk n.eeprom 0
  -- an EEPROM that was never written leaves the node as it is
  if stream.readByte.1 ≠ header then .ok n
  else do
    let (n, stream) := n.sysinfoLoad stream.readByte.2
    let (n, stream) ← loadFunctions channels n stream
    return (loadChannels inputs channels n stream).1

/-- A start of the node: everything but the EEPROM is reset, and the
configuration loaded. -/
def boot (inputs : Inputs) (n : Node) : Except Fault Node := n.reset.loadModules inputs

/-! ### The system modules -/

/-- `label_length`. -/
def labelLength (n : Node) : ℕ := (List.ofFn n.label).findIdx (· = 0)

/-- `sysinfo_request`.  The label is sent by the function itself. -/
def sysinfoRequest (inputs : Inputs) (address : UInt8) (n : Node) : Node × Option (List UInt8) :=
  match CommonRegister.ofByte address with
  | some .deviceType => (n, some [0, 1, 0, 1])
  | some .firmwareVersion => (n, some [0, 1])
  | some .serialHi =>
    (n, some ([0, 0, 0, 0] ++ [11, 10, 9, 8].map inputs.serial))
  | some .serialLo => (n, some ([7, 6, 5, 4, 3, 2, 1, 0].map inputs.serial))
  | some .deviceLabel => (n.sendReply ((List.ofFn n.label).take n.labelLength), none)
  | none => (n, none)

/-- `sysinfo_write`. -/
def sysinfoWrite (inputs : Inputs) (address length : UInt8) (value : Fin 8 → UInt8) (n : Node) :
    Node :=
  match CommonRegister.ofByte address with
  | some .deviceLabel =>
    { n with label := fun i => if i.val < length.toNat then value i else 0 }.saveModules inputs
  | _ => n

/-- The channel of a function register of the board. -/
def functionRegister (address : UInt8) : Option Channel :=
  if channelFunction0 ≤ address ∧ address < channelFunction0 + 4 then
    some (Fin.ofNat 4 (address - channelFunction0).toNat)
  else none

/-- `proto_request`. -/
def protoRequest (address : UInt8) (n : Node) : Option (List UInt8) :=
  if address = channelCountRegister then some [4]
  else
    match functionRegister address with
    | some c => some [n.moduleIds c]
    | none => none

/-- `proto_write`. -/
def protoWrite (inputs : Inputs) (address length : UInt8) (value : Fin 8 → UInt8) (n : Node) :
    Except Fault Node :=
  if address = channelSaveConfig then .ok (n.saveModules inputs)
  else
    match functionRegister address with
    | none => .ok n
    | some c =>
      if length ≠ 1 ∨ value 0 ≥ functionCount then .ok n else n.setChannel c (value 0)

/-! ### Frames -/

/-- Where a frame is dispatched. -/
inductive Target
  | sysinfo
  | proto
  | function (c : Channel) (m : FunctionModule)
  deriving DecidableEq, Repr

/-- The module that the `switch` of `CAN_Node_handle_packet` selects, by the high
byte of the address. -/
def dispatch (n : Node) (moduleIndex : UInt8) : Option Target :=
  if moduleIndex = 0 then some .sysinfo
  else if moduleIndex = 1 then some .proto
  else if moduleIndex ≥ 0x80 ∧ moduleIndex &&& 0x7f < 4 then
    let c : Channel := Fin.ofNat 4 (moduleIndex &&& 0x7f).toNat
    (n.channelModules c).map (Target.function c)
  else none

/-- The high byte of an address. -/
def moduleIndex (address : UInt16) : UInt8 := Word16.high address

/-- The low byte of an address. -/
def addressLo (address : UInt16) : UInt8 := Word16.low address

/-- A write to the register a frame is dispatched to. -/
def write (inputs : Inputs) (address length : UInt8) (data : Fin 8 → UInt8) (n : Node) :
    Target → Except Fault Node
  | .sysinfo => .ok (n.sysinfoWrite inputs address length data)
  | .proto => n.protoWrite inputs address length data
  | .function c m => .ok ((n.called m .write c).onWrite inputs c address length data m)

/-- A request of the register a frame is dispatched to. -/
def request (inputs : Inputs) (address : UInt8) (n : Node) : Target → Node × Option (List UInt8)
  | .sysinfo => n.sysinfoRequest inputs address
  | .proto => (n, n.protoRequest address)
  | .function c m => (n.called m .request c, n.onRequest inputs c address m)

/-- The reply to a request: a response that fits a frame. -/
def reply : Node × Option (List UInt8) → Node
  | (n, none) => n
  | (n, some response) => if response.length ≤ 8 then n.sendReply response else n

/-- `CAN_Node_handle_packet`. -/
def handlePacket (inputs : Inputs) (rtr : Bool) (address : UInt16) (length : UInt8)
    (data : Fin 8 → UInt8) (n : Node) : Except Fault Node :=
  match n.dispatch (moduleIndex address) with
  | none => .ok n
  | some target =>
    if rtr then .ok (reply (n.request inputs (addressLo address) target))
    else n.write inputs (addressLo address) length data target

/-- `CAN_Node_Sysinfo_set_device_id`, up to the end of the start that its reset
leads to. -/
def setDeviceId (inputs : Inputs) (value : UInt8) (n : Node) : Except Fault Node :=
  ({ n with deviceId := value }.saveModules inputs).boot inputs

/-- `handle_received_data`, with the identifier as `CAN_Receive` reads it. -/
def handleReceivedData (inputs : Inputs) (frame : CanFrame) (n : Node) : Except Fault Node :=
  if !frame.extended then .ok n
  else
    let deviceId := n.deviceId
    let n := { n with receivedId := frame.id &&& 0x1fffffff }
    let packetId := numberToPacketId n.receivedId
    let len := frame.dlc &&& 0x0f
    let data := frame.payload
    -- a remote frame may carry any length
    if !frame.rtr && len > 8 then .ok n
    else if n.receivedId = specialIdUpdate then
      if frame.rtr then .ok (n.sendReply [deviceId])
      else if len = 2 ∧ data 0 = deviceId then n.setDeviceId inputs (data 1)
      else .ok n
    -- an id above 0x7f never compares equal to the field of seven bits
    else if deviceId.toNat ≠ packetId.deviceId.toNat then .ok n
    else n.handlePacket inputs frame.rtr packetId.address len data

/-! ### Events -/

/-- A turn of the loop of `CAN_Node_handle_timer`. -/
def timerChannel (inputs : Inputs) (c : Channel) (n : Node) : Except Fault Node :=
  match n.channelModules c with
  | none => .ok n
  | some m =>
    match (n.called m .timer c).onTimer inputs c m with
    | none => .ok n
    | some result => result

/-- That loop. -/
def timerChannels (inputs : Inputs) : List Channel → Node → Except Fault Node
  | [], n => .ok n
  | c :: cs, n => do
    let n ← n.timerChannel inputs c
    timerChannels inputs cs n

/-- `CAN_Node_handle_timer`. -/
def handleTimer (inputs : Inputs) (n : Node) : Except Fault Node := timerChannels inputs channels n

/-- What can happen to a node. -/
inductive Event
  /-- A frame is taken from the receive mailbox. -/
  | frame (frame : CanFrame)
  /-- The clock ticks. -/
  | tick
  /-- The power goes off and on again. -/
  | powerCycle

/-- The handling of an event. -/
def handle (inputs : Inputs) (n : Node) : Event → Except Fault Node
  | .frame frame => n.handleReceivedData inputs frame
  | .tick => n.handleTimer inputs
  | .powerCycle => n.boot inputs

/-- A step: an event, with what the hardware answers meanwhile. -/
def step (n : Node) (e : Event × Inputs) : Option Node := (n.handle e.2 e.1).toOption

theorem handle_eq_ok_of_step {n n' : Node} {e : Event × Inputs} (h : n.step e = some n') :
    n.handle e.2 e.1 = .ok n' := by
  unfold step at h
  cases hresult : n.handle e.2 e.1 with
  | error fault =>
    rw [hresult] at h
    cases h
  | ok result =>
    rw [hresult] at h
    cases h
    rfl

/-- The nodes that were just switched on, whatever their EEPROM holds. -/
def Started (n : Node) : Prop := ∃ eeprom inputs, (blank eeprom).boot inputs = .ok n

/-- The states a node can be in. -/
def Reachable : Node → Prop := Run.Reachable step Started

end Node
end HomeAutomation
