import HomeAutomation.Lib.Word16
import HomeAutomation.Node.State

/-!
# The functions of a channel

The four modules a channel can run: a digital output with an optional off delay,
a digital input that can latch and notify, an analog input that shares one
converter with the other channels, and a 1-wire thermometer.

## Main definitions

* `sendReply`, `sendData` — the two ways a frame leaves the node.
* `switch…`, `button…`, `analog…`, `ds18b20…` — the entries of the modules.
* `onInit`, `onDeinit`, `onRequest`, `onWrite`, `onTimer`, `onSave`, `onLoad` —
  the entries of a module by its record; a record without the last three has no
  call of them.

## Main results

* `switchTimer_eq`, `buttonSetState_eq`, `analogTimer_eq` and their siblings — what an
  entry changes, and that it changes nothing else.
* `selectNextSensorLoop_eq` — the loop that looks for the next sensor ends at the
  next channel or not at all.

## References

`stm8/can_node/mod_switch.c`, `mod_button.c`, `mod_analog.c`, `mod_ds18b20.c`,
`can.c`.
-/

namespace HomeAutomation
namespace Node

/-! ### Frames -/

/-- `CAN_Node_CAN_send_reply`: a reply repeats the identifier of the request. -/
def sendReply (n : Node) (data : List UInt8) : Node :=
  { n with sent := n.sent ++ [⟨n.receivedId, data⟩] }

/-- `CAN_Node_CAN_send_data`.  The device id is cut to the width of its field. -/
def sendData (n : Node) (c : Channel) (index : UInt8) (data : List UInt8) : Node :=
  let address := ((UInt16.ofNat c ||| 0x80) <<< 8) ||| index.toUInt16
  { n with
    sent := n.sent ++ [⟨packetIdToNumber ⟨0, BitVec.ofNat 7 n.deviceId.toNat, address⟩, data⟩] }

/-- The bytes of a number, the high byte first. -/
def bytesOf (value : UInt16) : List UInt8 := [Word16.high value, Word16.low value]

/-! ### Switch -/

/-- `switch_init`. -/
def switchInit (c : Channel) (n : Node) : Node := n.gpioInit c .output

/-- `switch_deinit`. -/
def switchDeinit (c : Channel) (n : Node) : Node := n.gpioInit c .inputFloating

/-- `switch_update`. -/
def switchUpdate (c : Channel) (n : Node) : Node :=
  n.gpioWrite c
    (xor (decide ((n.switches c).mode = .on)) (hasBit (n.switches c).config switchConfigPolarity))

/-- `switch_request`. -/
def switchRequest (c : Channel) (address : UInt8) (n : Node) : Option (List UInt8) :=
  match SwitchField.ofByte address with
  | some .config => some [(n.switches c).config]
  | some .value => some [(n.switches c).mode.toByte]
  | some .offDelay => some (bytesOf (n.switches c).offDelay)
  | none => none

/-- Replaces the record of a switch. -/
def setSwitch (n : Node) (c : Channel) (switch : Switch) : Node :=
  { n with switches := Function.update n.switches c switch }

theorem setSwitch_self (n : Node) (c : Channel) : n.setSwitch c (n.switches c) = n := by
  unfold setSwitch
  rw [Function.update_eq_self]

/-- The assignments of `switch_write`. -/
def switchAssign (switch : Switch) (address length : UInt8) (value : Fin 8 → UInt8) : Switch :=
  match SwitchField.ofByte address with
  | some .config =>
    if length = 1 then { switch with config := value 0 &&& switchConfigMask } else switch
  | some .value =>
    if length = 1 then
      { switch with mode := if value 0 ≠ 0 then .on else .off, offTimer := 0 }
    else switch
  | some .offDelay =>
    if length = 2 then { switch with offDelay := Word16.join (value 0) (value 1) } else switch
  | none => switch

/-- `switch_write`. -/
def switchWrite (c : Channel) (address length : UInt8) (value : Fin 8 → UInt8) (n : Node) : Node :=
  (n.setSwitch c (switchAssign (n.switches c) address length value)).switchUpdate c

/-- `switch_timer`. -/
def switchTimer (c : Channel) (n : Node) : Node :=
  let switch := n.switches c
  if switch.mode = .off ∨ hasBit switch.config switchConfigOffDelay = false then n
  -- the counter is stepped before it is compared
  else if switch.offTimer + 1 ≥ switch.offDelay then
    (n.setSwitch c { switch with mode := .off, offTimer := 0 }).switchUpdate c
  else n.setSwitch c { switch with offTimer := switch.offTimer + 1 }

/-- **A tick of a switch** changes its mode, its counter and its pin. -/
theorem switchTimer_eq (c : Channel) (n : Node) :
    ∃ mode offTimer pins, n.switchTimer c
      = { n.setSwitch c { n.switches c with mode := mode, offTimer := offTimer } with
          pins := pins } := by
  unfold switchTimer
  dsimp only
  split
  · refine ⟨(n.switches c).mode, (n.switches c).offTimer, n.pins, ?_⟩
    exact (setSwitch_self n c).symm
  split
  · exact ⟨_, _, _, rfl⟩
  · exact ⟨_, _, _, rfl⟩

/-- `switch_save`. -/
def switchSave (c : Channel) (n : Node) (stream : ByteStream) : ByteStream :=
  ((stream.writeByte (n.switches c).config).writeByte
    (Word16.high (n.switches c).offDelay)).writeByte (Word16.low (n.switches c).offDelay)

/-- `switch_load`. -/
def switchLoad (c : Channel) (n : Node) (stream : ByteStream) : Node × ByteStream :=
  let (config, stream) := stream.readByte
  let (delayHi, stream) := stream.readByte
  let (delayLo, stream) := stream.readByte
  let switch : Switch :=
    { config := config
      mode := if hasBit config switchConfigDefaultOn then .on else .off
      offDelay := Word16.join delayHi delayLo
      offTimer := 0 }
  ((n.setSwitch c switch).switchUpdate c, stream)

/-! ### Button -/

/-- `button_gpio_mode`. -/
def buttonGpioMode (button : Button) : PinMode :=
  if hasBit button.config buttonConfigPullUp then .inputPullUp else .inputFloating

/-- `button_reinit`, and `button_init`. -/
def buttonReinit (c : Channel) (n : Node) : Node := n.gpioInit c (buttonGpioMode (n.buttons c))

/-- `button_deinit`. -/
def buttonDeinit (c : Channel) (n : Node) : Node := n.gpioInit c .inputFloating

/-- `button_request`. -/
def buttonRequest (c : Channel) (address : UInt8) (n : Node) : Option (List UInt8) :=
  match ButtonField.ofByte address with
  | some .config => some [(n.buttons c).config]
  | some .value => some [(n.buttons c).state.toByte]
  | none => none

/-- Replaces the record of a button. -/
def setButton (n : Node) (c : Channel) (button : Button) : Node :=
  { n with buttons := Function.update n.buttons c button }

theorem setButton_self (n : Node) (c : Channel) : n.setButton c (n.buttons c) = n := by
  unfold setButton
  rw [Function.update_eq_self]

/-- The state a pin shows. -/
def sampledState (button : Button) (pin : Bool) : ButtonState :=
  if xor pin (hasBit button.config buttonConfigPolarity) then .pressed else .released

/-- `button_set_state`. -/
def buttonSetState (inputs : Inputs) (c : Channel) (n : Node) : Node :=
  let button := n.buttons c
  let current := sampledState button (inputs.idr c)
  if button.state = current then n
  -- a locked button stays pressed until it is reset
  else if hasBit button.config buttonConfigLock ∧ button.state = .pressed then n
  else
    let n := n.setButton c { button with state := current }
    if hasBit button.config buttonConfigActive then
      n.sendData c ButtonField.value.toByte [current.toByte]
    else n

/-- **A look at the pin of a button** changes its state, and may notify of it. -/
theorem buttonSetState_eq (inputs : Inputs) (c : Channel) (n : Node) :
    ∃ state, n.buttonSetState inputs c = n.setButton c { n.buttons c with state := state } ∨
      ∃ data, n.buttonSetState inputs c
        = (n.setButton c { n.buttons c with state := state }).sendData c
          ButtonField.value.toByte data := by
  have hsame : n = n.setButton c { n.buttons c with state := (n.buttons c).state } :=
    (setButton_self n c).symm
  unfold buttonSetState
  dsimp only
  split
  · exact ⟨_, Or.inl hsame⟩
  split
  · exact ⟨_, Or.inl hsame⟩
  split
  · exact ⟨_, Or.inr ⟨_, rfl⟩⟩
  · exact ⟨_, Or.inl rfl⟩

/-- `button_write`. -/
def buttonWrite (inputs : Inputs) (c : Channel) (address length : UInt8) (value : Fin 8 → UInt8)
    (n : Node) : Node :=
  let button := n.buttons c
  match ButtonField.ofByte address with
  | some .config =>
    let newConfig := value 0 &&& buttonConfigMask
    if length = 1 ∧ button.config ≠ newConfig then
      ((n.setButton c { button with config := newConfig }).buttonReinit c).buttonSetState inputs c
    else n
  | some .value =>
    if length = 1 ∧ value 0 = 0 then
      (n.setButton c { button with state := .released }).buttonSetState inputs c
    else n
  | none => n

/-- **A write to a button** changes nothing, or its record and its pin, and then looks
at the pin. -/
theorem buttonWrite_eq (inputs : Inputs) (c : Channel) (address length : UInt8)
    (value : Fin 8 → UInt8) (n : Node) :
    n.buttonWrite inputs c address length value = n ∨
      ∃ button pins, n.buttonWrite inputs c address length value
        = { n.setButton c button with pins := pins }.buttonSetState inputs c := by
  unfold buttonWrite
  dsimp only
  split
  · split
    · exact Or.inr ⟨_, _, rfl⟩
    · exact Or.inl rfl
  · split
    · exact Or.inr ⟨_, n.pins, rfl⟩
    · exact Or.inl rfl
  · exact Or.inl rfl

/-- `button_save`. -/
def buttonSave (c : Channel) (n : Node) (stream : ByteStream) : ByteStream :=
  stream.writeByte (n.buttons c).config

/-- `button_load`. -/
def buttonLoad (inputs : Inputs) (c : Channel) (n : Node) (stream : ByteStream) :
    Node × ByteStream :=
  let (config, stream) := stream.readByte
  (((n.setButton c ⟨config, .released⟩).buttonReinit c).buttonSetState inputs c, stream)

/-! ### Analog -/

/-- Replaces the record of a sensor. -/
def setSensor (n : Node) (c : Channel) (sensor : AnalogSensor) : Node :=
  { n with analogSensors := Function.update n.analogSensors c sensor }

theorem setSensor_self (n : Node) (c : Channel) : n.setSensor c (n.analogSensors c) = n := by
  unfold setSensor
  rw [Function.update_eq_self]

/-- `analog_activate`. -/
def analogActivate (c : Channel) (n : Node) : Node :=
  { n with adc := { n.adc with channel := c, started := some c } }.setSensor c
    { n.analogSensors c with state := .active }

/-- `analog_deactivate`. -/
def analogDeactivate (inputs : Inputs) (c : Channel) (n : Node) : Node :=
  n.setSensor c { n.analogSensors c with value := inputs.conversion c, state := .inactive }

/-- The loop of `select_next_sensor`.  It moves on only past the last channel. -/
def selectNextSensorLoop (n : Node) (prevSelected : Channel) : ℕ → ℕ → Except Fault Channel
  | 0, _ => .error .divergence
  | fuel + 1, selected =>
    if selected = prevSelected then .ok prevSelected
    else
      let selected := if selected ≥ 4 then 0 else selected
      if (n.analogSensors (Fin.ofNat 4 selected)).state ≠ .disabled then
        .ok (Fin.ofNat 4 selected)
      else selectNextSensorLoop n prevSelected fuel selected

/-- A turn that finds a disabled sensor is followed by the same turn. -/
theorem selectNextSensorLoop_stuck {n : Node} {prevSelected : Channel} {selected : ℕ}
    (hlt : selected < 4) (hne : selected ≠ prevSelected)
    (hdisabled : (n.analogSensors (Fin.ofNat 4 selected)).state = .disabled) (fuel : ℕ) :
    selectNextSensorLoop n prevSelected fuel selected = .error .divergence := by
  induction fuel with
  | zero => rfl
  | succ fuel ih =>
    rw [selectNextSensorLoop, if_neg hne]
    simp only [if_neg (Nat.not_le.mpr hlt), hdisabled, ne_eq, not_true_eq_false, if_false]
    exact ih

/-- Where the first turn puts the selection: at the next channel, in cyclic order. -/
theorem firstTurn_next (c : Channel) :
    let selected := if (c : ℕ) + 1 ≥ 4 then 0 else (c : ℕ) + 1
    selected < 4 ∧ selected ≠ c ∧ Fin.ofNat 4 selected = c + 1 := by
  revert c
  decide

/-- **The search for the next sensor ends at the next channel or not at all**,
however many turns it is given. -/
theorem selectNextSensorLoop_eq (n : Node) (prevSelected : Channel) (fuel : ℕ) :
    selectNextSensorLoop n prevSelected (fuel + 1) (prevSelected + 1)
      = if (n.analogSensors (prevSelected + 1)).state ≠ .disabled then .ok (prevSelected + 1)
        else .error .divergence := by
  obtain ⟨hlt, hne, hnext⟩ := firstTurn_next prevSelected
  rw [selectNextSensorLoop, if_neg (Nat.succ_ne_self _)]
  simp only [hnext]
  split
  · rfl
  · rename_i hdisabled
    refine selectNextSensorLoop_stuck hlt hne ?_ fuel
    rw [hnext]
    exact not_not.mp hdisabled

/-- `select_next_sensor`. -/
def selectNextSensor (n : Node) : Except Fault Node := do
  let selected ← n.selectNextSensorLoop n.selectedSensor 1 (n.selectedSensor + 1)
  return { n with selectedSensor := selected }

theorem selectNextSensor_eq {n n' : Node} (h : n.selectNextSensor = .ok n') :
    ∃ selected, n' = { n with selectedSensor := selected } := by
  obtain ⟨selected, -, h⟩ := bind_eq_ok_iff.mp h
  cases h
  exact ⟨selected, rfl⟩

/-- `analog_init`. -/
def analogInit (c : Channel) (n : Node) : Node :=
  let n := n.gpioInit c .inputFloating
  let n :=
    if n.sensorCount = 0 then
      { n with adc := { n.adc with enabled := true, channel := c }, selectedSensor := c }
    else n
  { n with sensorCount := n.sensorCount + 1 }.setSensor c
    { n.analogSensors c with state := .inactive }

/-- **A new sensor** is inactive, and its settings are those it had. -/
theorem analogInit_eq (c : Channel) (n : Node) :
    ∃ pins adc selected count, n.analogInit c
      = { n.setSensor c { n.analogSensors c with state := .inactive } with
          pins := pins, adc := adc, selectedSensor := selected, sensorCount := count } := by
  unfold analogInit
  dsimp only
  split
  · exact ⟨_, _, _, _, rfl⟩
  · exact ⟨_, n.adc, n.selectedSensor, _, rfl⟩

/-- The end of `analog_deinit`: the last sensor shuts the converter down. -/
def analogRelease (n : Node) : Node :=
  let sensorCount := n.sensorCount - 1
  { n with sensorCount := sensorCount, adc := if sensorCount = 0 then {} else n.adc }

/-- `analog_deinit`. -/
def analogDeinit (c : Channel) (n : Node) : Except Fault Node :=
  let n := n.setSensor c { n.analogSensors c with state := .disabled }
  -- the count still includes this sensor
  if c = n.selectedSensor ∧ n.sensorCount > 1 then do
    let n ← n.selectNextSensor
    return n.analogRelease
  else .ok n.analogRelease

/-- **A sensor that goes** is disabled, and its settings stay. -/
theorem analogDeinit_eq {c : Channel} {n n' : Node} (h : n.analogDeinit c = .ok n') :
    ∃ adc selected count, n' = { n.setSensor c { n.analogSensors c with state := .disabled } with
      adc := adc, selectedSensor := selected, sensorCount := count } := by
  unfold analogDeinit at h
  dsimp only at h
  split at h
  · obtain ⟨n₁, hselect, h⟩ := bind_eq_ok_iff.mp h
    obtain ⟨selected, rfl⟩ := selectNextSensor_eq hselect
    cases h
    exact ⟨_, selected, _, rfl⟩
  · cases h
    exact ⟨_, n.selectedSensor, _, rfl⟩

/-- `analog_request`. -/
def analogRequest (c : Channel) (address : UInt8) (n : Node) : Option (List UInt8) :=
  let sensor := n.analogSensors c
  match AnalogField.ofByte address with
  | some .config => some [sensor.config]
  | some .range => some (bytesOf sensor.rangeMin ++ bytesOf sensor.rangeMax)
  | some .value => some (bytesOf sensor.value)
  | none => none

/-- `analog_write`. -/
def analogWrite (c : Channel) (address length : UInt8) (value : Fin 8 → UInt8) (n : Node) : Node :=
  let sensor := n.analogSensors c
  match AnalogField.ofByte address with
  | some .config =>
    if length = 1 then n.setSensor c { sensor with config := value 0 &&& analogConfigMask } else n
  | some .range =>
    if length = 4 then
      n.setSensor c { sensor with
        rangeMin := Word16.join (value 0) (value 1)
        rangeMax := Word16.join (value 2) (value 3) }
    else n
  | some .value => n
  | none => n

/-- **A write to a sensor** changes its settings. -/
theorem analogWrite_eq (c : Channel) (address length : UInt8) (value : Fin 8 → UInt8) (n : Node) :
    ∃ sensor, n.analogWrite c address length value = n.setSensor c sensor := by
  have hsame : n = n.setSensor c (n.analogSensors c) := (setSensor_self n c).symm
  unfold analogWrite
  dsimp only
  split
  · split
    · exact ⟨_, rfl⟩
    · exact ⟨_, hsame⟩
  · split
    · exact ⟨_, rfl⟩
    · exact ⟨_, hsame⟩
  · exact ⟨_, hsame⟩
  · exact ⟨_, hsame⟩

/-- `analog_range_check`, which nothing calls, with the flag `in_range` of the sensor. -/
def analogRangeCheck (c : Channel) (n : Node) (flag : Bool) : Node × Bool :=
  let sensor := n.analogSensors c
  if hasBit sensor.config analogConfigRangeCheck = false then (n, flag)
  else
    let inRange :=
      decide (sensor.rangeMin ≤ sensor.value) && decide (sensor.value ≤ sensor.rangeMax)
    let inRange := if hasBit sensor.config analogConfigReverseRange then !inRange else inRange
    if inRange && !flag then
      (n.sendData c AnalogField.value.toByte (bytesOf sensor.value), inRange)
    else (n, inRange)

/-- `analog_timer`. -/
def analogTimer (inputs : Inputs) (c : Channel) (n : Node) : Except Fault Node :=
  if c ≠ n.selectedSensor then .ok n
  -- a lone sensor is started again on every tick, and its value never fetched
  else if n.sensorCount = 1 ∧ (n.analogSensors c).state ≠ .disabled then .ok (n.analogActivate c)
  else
    match (n.analogSensors c).state with
    | .disabled => .ok n
    | .inactive => .ok (n.analogActivate c)
    | .active => (n.analogDeactivate inputs c).selectNextSensor

/-- **A tick of a sensor** changes its state and its value, the converter, and whose turn
it is. -/
theorem analogTimer_eq {inputs : Inputs} {c : Channel} {n n' : Node}
    (h : n.analogTimer inputs c = .ok n') :
    ∃ state value adc selected,
      n' = { n.setSensor c { n.analogSensors c with state := state, value := value } with
        adc := adc, selectedSensor := selected } := by
  have hsame : n = n.setSensor c { n.analogSensors c with
      state := (n.analogSensors c).state, value := (n.analogSensors c).value } :=
    (setSensor_self n c).symm
  unfold analogTimer at h
  split at h
  · cases h
    exact ⟨_, _, n.adc, n.selectedSensor, hsame⟩
  split at h
  · cases h
    exact ⟨_, _, _, n.selectedSensor, rfl⟩
  split at h
  · cases h
    exact ⟨_, _, n.adc, n.selectedSensor, hsame⟩
  · cases h
    exact ⟨_, _, _, n.selectedSensor, rfl⟩
  · obtain ⟨selected, rfl⟩ := selectNextSensor_eq h
    exact ⟨_, _, n.adc, selected, rfl⟩

/-- `analog_save`.  Both bounds are stored over the first two bytes of the buffer,
and the other three bytes are never set. -/
def analogSave (inputs : Inputs) (c : Channel) (n : Node) (stream : ByteStream) : ByteStream :=
  stream.writeBytes
    (bytesOf (n.analogSensors c).rangeMax ++ [inputs.stack c 0, inputs.stack c 1, inputs.stack c 2])

/-- `analog_load`. -/
def analogLoad (c : Channel) (n : Node) (stream : ByteStream) : Node × ByteStream :=
  let (config, stream) := stream.readByte
  let (minHi, stream) := stream.readByte
  let (minLo, stream) := stream.readByte
  let (maxHi, stream) := stream.readByte
  let (maxLo, stream) := stream.readByte
  (n.setSensor c { n.analogSensors c with
    config := config
    rangeMin := Word16.join minHi minLo
    rangeMax := Word16.join maxHi maxLo }, stream)

/-! ### Thermometer -/

/-- The loop of `read_temp` that waits for the conversion: whether one of the
bytes read is not zero. -/
def conversionDone (polls : ℕ → UInt8) : ℕ → Bool
  | 0 => false
  | waitCount + 1 => polls waitCount != 0 || conversionDone polls waitCount

/-- `read_temp`. -/
def readTemp (bus : OneWireBus) : Option (UInt8 × UInt8) :=
  if bus.firstReset && conversionDone bus.polls 1565 && bus.secondReset then some bus.scratchpad
  else none

/-- `ds18b20_request`. -/
def ds18b20Request (inputs : Inputs) (address : UInt8) : Option (List UInt8) :=
  if address ≠ ds18b20Temperature then none
  else
    match readTemp inputs.oneWire with
    | some (lo, hi) => some [lo, hi]
    | none => some [0xff, 0xff]

/-! ### The records -/

/-- `on_init`. -/
def onInit (c : Channel) (n : Node) : FunctionModule → Node
  | .switch => n.switchInit c
  | .button => n.buttonReinit c
  | .analog => n.analogInit c
  | .ds18b20 => { n with oneWire := true }

/-- `on_deinit`. -/
def onDeinit (c : Channel) (n : Node) : FunctionModule → Except Fault Node
  | .switch => .ok (n.switchDeinit c)
  | .button => .ok (n.buttonDeinit c)
  | .analog => n.analogDeinit c
  | .ds18b20 => .ok { n with oneWire := false }

/-- `on_request`. -/
def onRequest (inputs : Inputs) (c : Channel) (address : UInt8) (n : Node) :
    FunctionModule → Option (List UInt8)
  | .switch => n.switchRequest c address
  | .button => n.buttonRequest c address
  | .analog => n.analogRequest c address
  | .ds18b20 => ds18b20Request inputs address

/-- `on_write`. -/
def onWrite (inputs : Inputs) (c : Channel) (address length : UInt8) (value : Fin 8 → UInt8)
    (n : Node) : FunctionModule → Node
  | .switch => n.switchWrite c address length value
  | .button => n.buttonWrite inputs c address length value
  | .analog => n.analogWrite c address length value
  | .ds18b20 => n

/-- `on_timer`. -/
def onTimer (inputs : Inputs) (c : Channel) (n : Node) :
    FunctionModule → Option (Except Fault Node)
  | .switch => some (.ok (n.switchTimer c))
  | .button => some (.ok (n.buttonSetState inputs c))
  | .analog => some (n.analogTimer inputs c)
  | .ds18b20 => none

/-- `on_save`. -/
def onSave (inputs : Inputs) (c : Channel) (n : Node) (stream : ByteStream) :
    FunctionModule → Option ByteStream
  | .switch => some (n.switchSave c stream)
  | .button => some (n.buttonSave c stream)
  | .analog => some (n.analogSave inputs c stream)
  | .ds18b20 => none

/-- `on_load`. -/
def onLoad (inputs : Inputs) (c : Channel) (n : Node) (stream : ByteStream) :
    FunctionModule → Option (Node × ByteStream)
  | .switch => some (n.switchLoad c stream)
  | .button => some (n.buttonLoad inputs c stream)
  | .analog => some (n.analogLoad c stream)
  | .ds18b20 => none

end Node
end HomeAutomation
