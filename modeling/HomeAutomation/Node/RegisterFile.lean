import HomeAutomation.Node.ModuleCalls

/-!
# The node as a register file

The settings of a function are a few static variables for each channel.  Frames write
them with a length rule and a mask of their own, ticks and new functions go through
the same records, and nothing but a write of the right length to the right register
changes them: a request returns what was written last.

## Main definitions

* `Register` — the registers that keep what is written to them.
* `Settings` — what the functions of a channel keep for them.
* `writtenTo`, `labelWritten` — what an event writes to a register, and to the label.
* `Resets` — the events that end with a reset.

## Main results

* `settings_onWrite`, `settings_onTimer`, `settings_setChannel` — what becomes of the
  settings.
* `read_step`, `label_step` — a register after one event.
* `registerFile` — a register after a run without a reset.

## References

`stm8/can_node/module.c`, `mod_switch.c`, `mod_button.c`, `mod_analog.c`, `sysinfo.c`.
-/

namespace HomeAutomation

/-- The data bytes that a frame carries. -/
def CanFrame.bytes (frame : CanFrame) : List UInt8 :=
  (List.ofFn frame.data).take frame.length.toNat

/-- **The firmware keeps the bytes of a data frame in a buffer of zeros.** -/
theorem CanFrame.ofFn_payload {frame : CanFrame} (hrtr : frame.rtr = false) :
    List.ofFn frame.payload = frame.bytes ++ List.replicate (8 - frame.length.toNat) 0 := by
  refine List.ext_getElem ?_ fun i hi hi' => ?_
  · simp [CanFrame.bytes]
    omega
  · have hi8 : i < 8 := by simpa using hi
    rw [List.getElem_ofFn, CanFrame.payload, List.getElem_append]
    simp only [CanFrame.bytes, List.length_take, List.length_ofFn, List.getElem_take,
      List.getElem_ofFn, List.getElem_replicate]
    by_cases hlt : i < frame.length.toNat
    · rw [if_pos ⟨by simpa using hrtr, hlt⟩, dif_pos (by omega)]
    · rw [if_neg fun h => hlt h.2, dif_neg (by omega)]

namespace Node

/-! ### Registers -/

/-- The registers of the functions that keep what is written to them. -/
inductive Register
  | switchConfig | switchOffDelay | buttonConfig | analogConfig | analogRange
  deriving DecidableEq, Repr

/-- What the functions keep for the registers of a channel, whichever of them runs. -/
structure Settings where
  switchConfig : UInt8
  offDelay : UInt16
  buttonConfig : UInt8
  analogConfig : UInt8
  rangeMin : UInt16
  rangeMax : UInt16

/-- The settings of a channel. -/
def settings (n : Node) (c : Channel) : Settings where
  switchConfig := (n.switches c).config
  offDelay := (n.switches c).offDelay
  buttonConfig := (n.buttons c).config
  analogConfig := (n.analogSensors c).config
  rangeMin := (n.analogSensors c).rangeMin
  rangeMax := (n.analogSensors c).rangeMax

namespace Register

/-- The function that a register belongs to. -/
def module : Register → FunctionModule
  | switchConfig | switchOffDelay => .switch
  | buttonConfig => .button
  | analogConfig | analogRange => .analog

/-- The number of a register. -/
def field : Register → UInt8
  | switchConfig => SwitchField.config.toByte
  | switchOffDelay => SwitchField.offDelay.toByte
  | buttonConfig => ButtonField.config.toByte
  | analogConfig => AnalogField.config.toByte
  | analogRange => AnalogField.range.toByte

/-- The number of bytes in a register. -/
def size : Register → UInt8
  | switchConfig | buttonConfig | analogConfig => 1
  | switchOffDelay => 2
  | analogRange => 4

/-- What is kept of a byte: the bits of the mask of a configuration, and all of the
other bytes. -/
def mask : Register → UInt8 → UInt8
  | switchConfig, b => b &&& switchConfigMask
  | buttonConfig, b => b &&& buttonConfigMask
  | analogConfig, b => b &&& analogConfigMask
  | switchOffDelay, b | analogRange, b => b

/-- The content of a register. -/
def read (s : Settings) : Register → List UInt8
  | switchConfig => [s.switchConfig]
  | switchOffDelay => bytesOf s.offDelay
  | buttonConfig => [s.buttonConfig]
  | analogConfig => [s.analogConfig]
  | analogRange => bytesOf s.rangeMin ++ bytesOf s.rangeMax

end Register

/-- The module of a register returns its content. -/
theorem onRequest_field (inputs : Inputs) (c : Channel) (n : Node) (r : Register) :
    n.onRequest inputs c r.field r.module = some (r.read (n.settings c)) := by
  cases r <;> rfl

/-! ### What becomes of the settings -/

theorem settings_setSwitch (n : Node) (c : Channel) (switch : Switch) :
    (n.setSwitch c switch).settings = Function.update n.settings c
      { n.settings c with switchConfig := switch.config, offDelay := switch.offDelay } := by
  funext d
  by_cases hd : d = c
  · subst hd
    simp [settings, setSwitch]
  · simp [settings, setSwitch, hd]

theorem settings_setButton (n : Node) (c : Channel) (button : Button) :
    (n.setButton c button).settings = Function.update n.settings c
      { n.settings c with buttonConfig := button.config } := by
  funext d
  by_cases hd : d = c
  · subst hd
    simp [settings, setButton]
  · simp [settings, setButton, hd]

theorem settings_setSensor (n : Node) (c : Channel) (sensor : AnalogSensor) :
    (n.setSensor c sensor).settings = Function.update n.settings c
      { n.settings c with
        analogConfig := sensor.config
        rangeMin := sensor.rangeMin
        rangeMax := sensor.rangeMax } := by
  funext d
  by_cases hd : d = c
  · subst hd
    simp [settings, setSensor]
  · simp [settings, setSensor, hd]

/-- A record that only changes in what is no setting. -/
theorem settings_setSwitch_mode (n : Node) (c : Channel) (mode : SwitchMode) (offTimer : UInt16) :
    (n.setSwitch c { n.switches c with mode := mode, offTimer := offTimer }).settings
      = n.settings := by
  rw [settings_setSwitch]
  exact Function.update_eq_self c n.settings

theorem settings_setButton_state (n : Node) (c : Channel) (state : ButtonState) :
    (n.setButton c { n.buttons c with state := state }).settings = n.settings := by
  rw [settings_setButton]
  exact Function.update_eq_self c n.settings

theorem settings_setSensor_state (n : Node) (c : Channel) (state : AnalogState) (value : UInt16) :
    (n.setSensor c { n.analogSensors c with state := state, value := value }).settings
      = n.settings := by
  rw [settings_setSensor]
  exact Function.update_eq_self c n.settings

theorem settings_buttonSetState (inputs : Inputs) (c : Channel) (n : Node) :
    (n.buttonSetState inputs c).settings = n.settings := by
  obtain ⟨state, h | ⟨data, h⟩⟩ := buttonSetState_eq inputs c n
  · rw [h]
    exact settings_setButton_state n c state
  · rw [h]
    exact settings_setButton_state n c state

/-- **A tick changes no setting.** -/
theorem settings_onTimer {inputs : Inputs} {c : Channel} {n n' : Node} {m : FunctionModule}
    (h : n.onTimer inputs c m = some (.ok n')) : n'.settings = n.settings := by
  cases m with
  | switch =>
    cases h
    obtain ⟨mode, offTimer, pins, h⟩ := switchTimer_eq c n
    rw [h]
    exact settings_setSwitch_mode n c mode offTimer
  | button =>
    cases h
    exact settings_buttonSetState inputs c n
  | analog =>
    obtain ⟨state, value, adc, selected, rfl⟩ := analogTimer_eq (Option.some.inj h)
    exact settings_setSensor_state n c state value
  | ds18b20 => cases h

theorem settings_onInit (c : Channel) (n : Node) (m : FunctionModule) :
    (n.onInit c m).settings = n.settings := by
  cases m with
  | switch => rfl
  | button => rfl
  | analog =>
    obtain ⟨pins, adc, selected, count, h⟩ := analogInit_eq c n
    rw [onInit, h]
    exact settings_setSensor_state n c .inactive (n.analogSensors c).value
  | ds18b20 => rfl

theorem settings_onDeinit {c : Channel} {n n' : Node} {m : FunctionModule}
    (h : n.onDeinit c m = .ok n') : n'.settings = n.settings := by
  cases m with
  | switch => cases h; rfl
  | button => cases h; rfl
  | analog =>
    obtain ⟨adc, selected, count, rfl⟩ := analogDeinit_eq h
    exact settings_setSensor_state n c .disabled (n.analogSensors c).value
  | ds18b20 => cases h; rfl

/-- **A new function changes no setting.** -/
theorem settings_setChannel {c : Channel} {functionId : UInt8} {n n' : Node}
    (h : n.setChannel c functionId = .ok n') : n'.settings = n.settings := by
  obtain ⟨n₁, m, hrelease, -, rfl⟩ := exists_of_setChannel h
  have hreleased : n₁.settings = n.settings := by
    obtain ⟨-, rfl⟩ | ⟨m, n₂, -, hdeinit, rfl⟩ := releaseChannel_cases hrelease
    · rfl
    · exact (settings_onDeinit hdeinit).trans rfl
  rw [← hreleased]
  unfold occupyChannel
  cases m with
  | none => rfl
  | some m => exact (settings_onInit c _ m).trans rfl

theorem settings_saveModules (inputs : Inputs) (n : Node) :
    (n.saveModules inputs).settings = n.settings := by
  obtain ⟨calls, h⟩ := saveModules_eq inputs n
  rw [h]
  rfl

/-! ### Writes -/

/-- What a write to a field of a function makes of the settings of its channel. -/
def assigned (address length : UInt8) (value : Fin 8 → UInt8) (s : Settings)
    (m : FunctionModule) : Settings where
  switchConfig :=
    if m = .switch ∧ address = SwitchField.config.toByte ∧ length = 1 then
      value 0 &&& switchConfigMask
    else s.switchConfig
  offDelay :=
    if m = .switch ∧ address = SwitchField.offDelay.toByte ∧ length = 2 then
      Word16.join (value 0) (value 1)
    else s.offDelay
  buttonConfig :=
    if m = .button ∧ address = ButtonField.config.toByte ∧ length = 1 then
      value 0 &&& buttonConfigMask
    else s.buttonConfig
  analogConfig :=
    if m = .analog ∧ address = AnalogField.config.toByte ∧ length = 1 then
      value 0 &&& analogConfigMask
    else s.analogConfig
  rangeMin :=
    if m = .analog ∧ address = AnalogField.range.toByte ∧ length = 4 then
      Word16.join (value 0) (value 1)
    else s.rangeMin
  rangeMax :=
    if m = .analog ∧ address = AnalogField.range.toByte ∧ length = 4 then
      Word16.join (value 2) (value 3)
    else s.rangeMax

theorem settings_switchWrite (c : Channel) (address length : UInt8) (value : Fin 8 → UInt8)
    (n : Node) :
    (n.switchWrite c address length value).settings
      = Function.update n.settings c (assigned address length value (n.settings c) .switch) := by
  have hassign : (n.switchWrite c address length value).settings
      = (n.setSwitch c (switchAssign (n.switches c) address length value)).settings := rfl
  rw [hassign, settings_setSwitch]
  congr 1
  unfold switchAssign assigned
  simp only [← SwitchField.ofByte_eq_some_iff]
  cases SwitchField.ofByte address with
  | none => rfl
  | some field => cases field <;> simp <;> split <;> simp_all [settings]

theorem settings_buttonWrite (inputs : Inputs) (c : Channel) (address length : UInt8)
    (value : Fin 8 → UInt8) (n : Node) :
    (n.buttonWrite inputs c address length value).settings
      = Function.update n.settings c (assigned address length value (n.settings c) .button) := by
  -- the configuration that is there already is not written again
  have hconfig : (n.buttonWrite inputs c address length value).settings
      = Function.update n.settings c { n.settings c with
          buttonConfig :=
            if ButtonField.ofByte address = some .config ∧ length = 1 then
              value 0 &&& buttonConfigMask
            else (n.settings c).buttonConfig } := by
    have hself := (Function.update_eq_self c n.settings).symm
    unfold buttonWrite
    dsimp only
    -- an address without a field is not a write
    cases ButtonField.ofByte address with
    | none => exact hself
    | some field =>
      cases field with
      | config =>
        by_cases hlength : length = 1
        · by_cases hsame : (n.buttons c).config = value 0 &&& buttonConfigMask
          · simp only [hlength, hsame, ne_eq, not_true_eq_false, and_false, if_false, and_self,
              if_true]
            rw [← hsame]
            exact hself
          · simp only [hlength, hsame, ne_eq, not_false_eq_true, and_self, if_true]
            rw [settings_buttonSetState]
            exact settings_setButton n c _
        · simp only [hlength, false_and, and_false, if_false]
          exact hself
      | value =>
        dsimp only
        split
        · rw [settings_buttonSetState]
          exact (settings_setButton_state n c .released).trans hself
        · exact hself
  rw [hconfig]
  simp only [ButtonField.ofByte_eq_some_iff]
  simp [assigned]

theorem settings_analogWrite (c : Channel) (address length : UInt8) (value : Fin 8 → UInt8)
    (n : Node) :
    (n.analogWrite c address length value).settings
      = Function.update n.settings c (assigned address length value (n.settings c) .analog) := by
  have hself := (Function.update_eq_self c n.settings).symm
  unfold analogWrite assigned
  simp only [← AnalogField.ofByte_eq_some_iff]
  cases AnalogField.ofByte address with
  | none => exact hself
  | some field =>
    cases field with
    | config =>
      by_cases hlength : length = 1
      · simp [hlength, settings_setSensor, settings]
      · simp [hlength]
    | range =>
      by_cases hlength : length = 4
      · simp [hlength, settings_setSensor, settings]
      · simp [hlength]
    | value => simp

/-- **A write changes the settings of its channel**, by the function that runs there. -/
theorem settings_onWrite (inputs : Inputs) (c : Channel) (address length : UInt8)
    (value : Fin 8 → UInt8) (n : Node) (m : FunctionModule) :
    (n.onWrite inputs c address length value m).settings
      = Function.update n.settings c (assigned address length value (n.settings c) m) := by
  cases m with
  | switch => exact settings_switchWrite c address length value n
  | button => exact settings_buttonWrite inputs c address length value n
  | analog => exact settings_analogWrite c address length value n
  | ds18b20 => exact (Function.update_eq_self c n.settings).symm

/-- The bytes that a register takes of a frame. -/
theorem take_ofFn (value : Fin 8 → UInt8) :
    (List.ofFn value).take 1 = [value 0] ∧ (List.ofFn value).take 2 = [value 0, value 1] ∧
      (List.ofFn value).take 4 = [value 0, value 1, value 2, value 3] := by
  simp [List.ofFn_succ]

/-- **A write changes the register it names**, when its length is that of the register
and the function is the register's; it changes no other register. -/
theorem read_assigned (address length : UInt8) (value : Fin 8 → UInt8) (s : Settings)
    (m : FunctionModule) (r : Register) :
    r.read (assigned address length value s m) =
      if m = r.module ∧ address = r.field ∧ length = r.size then
        ((List.ofFn value).take r.size.toNat).map r.mask
      else r.read s := by
  by_cases h : m = r.module ∧ address = r.field ∧ length = r.size
  · rw [if_pos h]
    obtain ⟨htake1, htake2, htake4⟩ := take_ofFn value
    cases r with
    | switchConfig =>
      -- the write took the branch of this register, and no other
      refine Eq.trans ?_ (congrArg (List.map _) htake1).symm
      exact congrArg (fun b => [b]) (if_pos h)
    | switchOffDelay =>
      refine Eq.trans (congrArg bytesOf (if_pos h)) ?_
      exact Eq.trans (by simp [bytesOf, Register.mask]) (congrArg (List.map _) htake2).symm
    | buttonConfig =>
      refine Eq.trans ?_ (congrArg (List.map _) htake1).symm
      exact congrArg (fun b => [b]) (if_pos h)
    | analogConfig =>
      refine Eq.trans ?_ (congrArg (List.map _) htake1).symm
      exact congrArg (fun b => [b]) (if_pos h)
    | analogRange =>
      refine Eq.trans (congrArg₂ (fun x y => bytesOf x ++ bytesOf y) (if_pos h) (if_pos h)) ?_
      exact Eq.trans (by simp [bytesOf, Register.mask]) (congrArg (List.map _) htake4).symm
  · rw [if_neg h]
    -- none of the registers was meant, so all keep their bytes
    cases r with
    | switchConfig => exact congrArg (fun b => [b]) (if_neg h)
    | switchOffDelay => exact congrArg bytesOf (if_neg h)
    | buttonConfig => exact congrArg (fun b => [b]) (if_neg h)
    | analogConfig => exact congrArg (fun b => [b]) (if_neg h)
    | analogRange =>
      exact congrArg₂ (fun x y => bytesOf x ++ bytesOf y) (if_neg h) (if_neg h)

/-! ### The label -/

/-- The label is sent up to its first zero. -/
theorem labelText_eq (n : Node) : n.labelText = (List.ofFn n.label).takeWhile (· ≠ 0) := by
  have hindex : ∀ l : List UInt8, l.take (l.findIdx (· = 0)) = l.takeWhile (· ≠ 0) := by
    intro l
    induction l with
    | nil => rfl
    | cons b l ih =>
      by_cases hb : b = 0
      · simp [hb, List.findIdx_cons]
      · simpa [hb, List.findIdx_cons] using ih
  exact hindex _

/-! ### Events -/

instance (n : Node) (id : UInt32) : Decidable (n.Addressed id) :=
  inferInstanceAs (Decidable (_ = _))

/-- The data frames for the registers of a device. -/
def Writes (n : Node) (frame : CanFrame) : Prop :=
  (frame.extended = true ∧ frame.rtr = false ∧ frame.length ≤ 8) ∧
    frame.receivedId ≠ specialIdUpdate ∧ n.Addressed frame.receivedId

instance (n : Node) (frame : CanFrame) : Decidable (n.Writes frame) :=
  inferInstanceAs (Decidable (_ ∧ _))

/-- **What an event writes to a register of a channel**: the bytes of a data frame that
names the register and has its length, while the channel runs its function. -/
def writtenTo (c : Channel) (r : Register) (n : Node) (e : Event × Inputs) : Option (List UInt8) :=
  match e.1 with
  | .frame frame =>
    if n.Writes frame ∧
        (moduleIndex frame.address = channelSpace c ∧ n.channelModules c = some r.module) ∧
        addressLo frame.address = r.field ∧ frame.length = r.size then
      some (frame.bytes.map r.mask)
    else none
  | _ => none

/-- What an event writes to the label: the bytes of a data frame that names it. -/
def labelWritten (n : Node) (e : Event × Inputs) : Option (List UInt8) :=
  match e.1 with
  | .frame frame =>
    if n.Writes frame ∧ moduleIndex frame.address = 0 ∧
        CommonRegister.ofByte (addressLo frame.address) = some .deviceLabel then
      some (frame.bytes.takeWhile (· ≠ 0))
    else none
  | _ => none

/-- The events that end with a reset: the power goes off, or the device gets another
id. -/
def Resets (n : Node) (e : Event × Inputs) : Prop :=
  match e.1 with
  | .frame frame =>
    frame.extended = true ∧ frame.rtr = false ∧ frame.receivedId = specialIdUpdate ∧
      frame.length = 2 ∧ frame.payload 0 = n.deviceId
  | .tick => False
  | .powerCycle => True

theorem settings_timerChannels {inputs : Inputs} {cs : List Channel} {n n' : Node}
    (h : timerChannels inputs cs n = .ok n') :
    n'.settings = n.settings ∧ n'.label = n.label := by
  refine timerChannels_rule (I := fun n' => n'.settings = n.settings ∧ n'.label = n.label)
    ?_ h ⟨rfl, rfl⟩
  intro c m n₁ n₂ hn hm htimer
  exact ⟨(settings_onTimer htimer).trans hn.1,
    (congrArg Control.label (untouched_onTimer htimer).control).trans hn.2⟩

/-- A request changes neither. -/
theorem settings_handlePacket_request {inputs : Inputs} {address : UInt16} {length : UInt8}
    {data : Fin 8 → UInt8} {n n' : Node}
    (h : n.handlePacket inputs true address length data = .ok n') :
    n'.settings = n.settings ∧ n'.label = n.label := by
  unfold handlePacket at h
  split at h
  · cases h
    exact ⟨rfl, rfl⟩
  · cases h
    obtain ⟨sent, calls, h⟩ := request_eq inputs (addressLo address) n _
    rw [h]
    exact ⟨rfl, rfl⟩

theorem label_saveModules (inputs : Inputs) (n : Node) :
    (n.saveModules inputs).label = n.label := by
  obtain ⟨calls, h⟩ := saveModules_eq inputs n
  rw [h]

theorem settings_protoWrite {inputs : Inputs} {address length : UInt8} {value : Fin 8 → UInt8}
    {n n' : Node} (h : n.protoWrite inputs address length value = .ok n') :
    n'.settings = n.settings ∧ n'.label = n.label := by
  unfold protoWrite at h
  split at h
  · cases h
    exact ⟨settings_saveModules inputs n, label_saveModules inputs n⟩
  split at h
  · cases h
    exact ⟨rfl, rfl⟩
  split at h
  · cases h
    exact ⟨rfl, rfl⟩
  · obtain ⟨m, -, hcontrol⟩ := setChannel_control h
    exact ⟨settings_setChannel h, congrArg Control.label hcontrol⟩

theorem settings_sysinfoWrite (inputs : Inputs) (address length : UInt8) (value : Fin 8 → UInt8)
    (n : Node) :
    (n.sysinfoWrite inputs address length value).settings = n.settings ∧
      (n.sysinfoWrite inputs address length value).label =
        if CommonRegister.ofByte address = some .deviceLabel then
          fun i => if i.val < length.toNat then value i else 0
        else n.label := by
  unfold sysinfoWrite
  split
  · next h =>
    rw [if_pos h, settings_saveModules, label_saveModules]
    exact ⟨rfl, rfl⟩
  · next h => exact ⟨rfl, (if_neg h).symm⟩

/-- **A write changes the register it is dispatched to**, and the label when it is
dispatched there. -/
theorem read_write {inputs : Inputs} {address length : UInt8} {value : Fin 8 → UInt8}
    {n n' : Node} {target : Target} (h : n.write inputs address length value target = .ok n') :
    (∀ c (r : Register), r.read (n'.settings c) =
      if target = .function c r.module ∧ address = r.field ∧ length = r.size then
        ((List.ofFn value).take r.size.toNat).map r.mask
      else r.read (n.settings c)) ∧
    n'.label =
      if target = .sysinfo ∧ CommonRegister.ofByte address = some .deviceLabel then
        fun i => if i.val < length.toNat then value i else 0
      else n.label := by
  cases target with
  -- the system's registers hold the label and no setting of a channel
  | sysinfo =>
    cases h
    obtain ⟨hsettings, hlabel⟩ := settings_sysinfoWrite inputs address length value n
    rw [hsettings, hlabel]
    exact ⟨fun c r => (if_neg fun h => nomatch h.1).symm, by simp⟩
  | proto =>
    obtain ⟨hsettings, hlabel⟩ := settings_protoWrite h
    rw [hsettings, hlabel]
    exact ⟨fun c r => (if_neg fun h => nomatch h.1).symm, (if_neg fun h => nomatch h.1).symm⟩
  | function d m =>
    cases h
    refine ⟨fun c r => ?_, ?_⟩
    · -- another channel of the same function is left alone
      rw [settings_onWrite]
      by_cases hc : c = d
      · subst hc
        rw [Function.update_self, read_assigned]
        simp only [Target.function.injEq, true_and]
        rfl
      · rw [Function.update_of_ne hc, if_neg fun h => hc (Target.function.inj h.1).1.symm]
        rfl
    -- no function writes the label
    · rw [if_neg fun h => nomatch h.1]
      exact congrArg Control.label (untouched_onWrite inputs d address length value _ m).control

/-- What an event writes, by the module that it is dispatched to. -/
theorem writtenTo_frame (c : Channel) (r : Register) (n : Node) (frame : CanFrame)
    (inputs : Inputs) :
    writtenTo c r n (.frame frame, inputs) =
      if n.Writes frame ∧ n.dispatch (moduleIndex frame.address) = some (.function c r.module) ∧
          addressLo frame.address = r.field ∧ frame.length = r.size then
        some (frame.bytes.map r.mask)
      else none := by
  simp only [dispatch_eq_function_iff]
  rfl

theorem labelWritten_frame (n : Node) (frame : CanFrame) (inputs : Inputs) :
    labelWritten n (.frame frame, inputs) =
      if n.Writes frame ∧ n.dispatch (moduleIndex frame.address) = some .sysinfo ∧
          CommonRegister.ofByte (addressLo frame.address) = some .deviceLabel then
        some (frame.bytes.takeWhile (· ≠ 0))
      else none := by
  simp only [dispatch_eq_sysinfo_iff]
  rfl

/-- The registers and the label after an event are what it writes, or else what was
there. -/
def Keeps (n : Node) (e : Event × Inputs) (n' : Node) : Prop :=
  (∀ c (r : Register), r.read (n'.settings c) = (writtenTo c r n e).getD (r.read (n.settings c))) ∧
    n'.labelText = (labelWritten n e).getD n.labelText

/-- An event that writes nothing and changes nothing. -/
theorem keeps_of_eq {n n' : Node} {frame : CanFrame} {inputs : Inputs} (hnone : ¬ n.Writes frame)
    (hsettings : n'.settings = n.settings) (hlabel : n'.label = n.label) :
    Keeps n (.frame frame, inputs) n' := by
  have htext : n'.labelText = n.labelText := by rw [labelText_eq, labelText_eq, hlabel]
  refine ⟨fun c r => ?_, ?_⟩
  · rw [writtenTo_frame, if_neg fun h => hnone h.1, hsettings]
    rfl
  · rw [labelWritten_frame, if_neg fun h => hnone h.1, htext]
    rfl

/-- The bytes that reach a register of the frame's length. -/
theorem take_payload {frame : CanFrame} (hrtr : frame.rtr = false) (hlength : frame.length ≤ 8) :
    (List.ofFn frame.payload).take frame.length.toNat = frame.bytes := by
  have hle : frame.length.toNat ≤ 8 := UInt8.le_iff_toNat_le.mp hlength
  rw [CanFrame.ofFn_payload hrtr, List.take_left']
  simp [CanFrame.bytes, hle]

/-- The text of a label that was written. -/
theorem takeWhile_payload {frame : CanFrame} (hrtr : frame.rtr = false) :
    (List.ofFn fun i : Fin 8 => if i.val < frame.length.toNat then frame.payload i else 0).takeWhile
      (· ≠ 0) = frame.bytes.takeWhile (· ≠ 0) := by
  have hpayload : (fun i : Fin 8 => if i.val < frame.length.toNat then frame.payload i else 0)
      = frame.payload := by
    funext i
    by_cases hi : i.val < frame.length.toNat
    · rw [if_pos hi]
    · rw [if_neg hi]
      exact (if_neg fun h => hi h.2).symm
  rw [hpayload, CanFrame.ofFn_payload hrtr, List.takeWhile_append]
  split
  · next hall =>
    have hzeros : ∀ k, (List.replicate k (0 : UInt8)).takeWhile (· ≠ 0) = [] := by
      intro k
      cases k <;> simp
    rw [hzeros, List.append_nil]
    exact ((List.takeWhile_prefix _).eq_of_length hall).symm
  · rfl

/-- A frame that is dropped writes nothing. -/
theorem not_writes_of_dropped {n : Node} {frame : CanFrame}
    (hcheck : frame.rtr = false ∧ frame.length > 8 ∨
      frame.rtr = false ∧ frame.receivedId = specialIdUpdate ∧
        ¬ (frame.length = 2 ∧ frame.payload 0 = n.deviceId) ∨
      frame.receivedId ≠ specialIdUpdate ∧ ¬ n.Addressed frame.receivedId) :
    ¬ n.Writes frame := by
  intro hwrites
  obtain ⟨-, hlong⟩ | ⟨-, hid, -⟩ | ⟨-, hforeign⟩ := hcheck
  · exact absurd hwrites.1.2.2 (UInt8.not_le.mpr hlong)
  · exact hwrites.2.1 hid
  · exact hforeign hwrites.2.2

/-- A data frame that is dispatched writes. -/
theorem writes_of_own {n : Node} {frame : CanFrame} (hextended : frame.extended = true)
    (hrtr : frame.rtr = false) (hlength : frame.rtr = true ∨ frame.length ≤ 8)
    (hid : frame.receivedId ≠ specialIdUpdate) (haddressed : n.Addressed frame.receivedId) :
    n.Writes frame := by
  have hshort : frame.length ≤ 8 := by
    refine hlength.resolve_left fun hremote => ?_
    rw [hrtr] at hremote
    cases hremote
  exact ⟨⟨hextended, hrtr, hshort⟩, hid, haddressed⟩

/-- **A data frame for the device**, as it is dispatched. -/
theorem keeps_write {inputs : Inputs} {n n' : Node} {frame : CanFrame} (hwrites : n.Writes frame)
    (h : (n.receiving frame).handlePacket inputs false frame.address frame.length frame.payload
      = .ok n') : Keeps n (.frame frame, inputs) n' := by
  have hrtr := hwrites.1.2.1
  have hlength := hwrites.1.2.2
  have hdispatch : (n.receiving frame).dispatch (moduleIndex frame.address)
      = n.dispatch (moduleIndex frame.address) := rfl
  rw [handlePacket, hdispatch] at h
  cases htarget : n.dispatch (moduleIndex frame.address) with
  -- nobody is behind the address, and nothing is written
  | none =>
    rw [htarget] at h
    cases h
    have hnone : ∀ target, n.dispatch (moduleIndex frame.address) ≠ some target := by
      rw [htarget]
      nofun
    refine ⟨fun c r => ?_, ?_⟩
    · rw [writtenTo_frame, if_neg fun h => hnone _ h.2.1]
      rfl
    · rw [labelWritten_frame, if_neg fun h => hnone _ h.2.1]
      rfl
  | some target =>
    rw [htarget] at h
    obtain ⟨hread, hlabel⟩ := read_write h
    refine ⟨fun c r => ?_, ?_⟩
    · rw [hread, writtenTo_frame, htarget]
      simp only [hwrites, Option.some.injEq, true_and]
      -- the frame is a write of this register or of another place
      by_cases hmatch : target = .function c r.module ∧ addressLo frame.address = r.field ∧
          frame.length = r.size
      · rw [if_pos hmatch, if_pos hmatch, Option.getD_some, ← hmatch.2.2,
          take_payload hrtr hlength]
      · rw [if_neg hmatch, if_neg hmatch]
        rfl
    · rw [labelText_eq, hlabel, labelWritten_frame, htarget]
      simp only [hwrites, Option.some.injEq, true_and]
      by_cases hmatch : target = .sysinfo ∧
          CommonRegister.ofByte (addressLo frame.address) = some .deviceLabel
      · rw [if_pos hmatch, if_pos hmatch, Option.getD_some]
        exact takeWhile_payload hrtr
      · rw [if_neg hmatch, if_neg hmatch, Option.getD_none, labelText_eq]
        rfl

/-- **A register after one event without a reset.** -/
theorem keeps_step {n n' : Node} {e : Event × Inputs} (hreset : ¬ n.Resets e)
    (h : n.step e = some n') : Keeps n e n' := by
  obtain ⟨event, inputs⟩ := e
  replace h := handle_eq_ok_of_step h
  cases event with
  -- a tick changes no setting
  | tick =>
    obtain ⟨hsettings, hlabel⟩ := settings_timerChannels h
    refine ⟨fun c r => by rw [hsettings]; rfl, ?_⟩
    rw [labelText_eq, hlabel, ← labelText_eq]
    rfl
  | powerCycle => exact absurd trivial hreset
  -- of the frames only the one to the node itself may write
  | frame frame =>
    cases handleReceivedData_reception inputs frame n with
    | standard hstandard hr =>
      cases h.symm.trans hr
      exact keeps_of_eq (fun hw => nomatch hw.1.1.symm.trans hstandard) rfl rfl
    | dropped hextended hcheck hr =>
      cases h.symm.trans hr
      exact keeps_of_eq (not_writes_of_dropped hcheck) rfl rfl
    | idRequest hextended hrtr hid hr =>
      cases h.symm.trans hr
      exact keeps_of_eq (fun hw => hw.2.1 hid) rfl rfl
    -- the change of the id is a reset, which is excluded
    | idChange hextended hrtr hid hlength hold hr =>
      exact absurd ⟨hextended, hrtr, hid, hlength, hold⟩ hreset
    | own hextended hlength hid haddressed hr =>
      replace h := hr.symm.trans h
      cases hrtr : frame.rtr with
      | false =>
        rw [hrtr] at h
        exact keeps_write (writes_of_own hextended hrtr hlength hid haddressed) h
      | true =>
        rw [hrtr] at h
        obtain ⟨hsettings, hlabel⟩ := settings_handlePacket_request h
        exact keeps_of_eq (fun hw => nomatch hrtr.symm.trans hw.1.2.1) hsettings hlabel

/-! ### Runs -/

/-- A request for a register of a channel. -/
def Requests (n : Node) (frame : CanFrame) (index address : UInt8) : Prop :=
  (frame.extended = true ∧ frame.rtr = true) ∧
    (frame.receivedId ≠ specialIdUpdate ∧ n.Addressed frame.receivedId) ∧
    moduleIndex frame.address = index ∧ addressLo frame.address = address

/-- A register that is answered for with its content is answered for with what was written
to it last. -/
theorem sent_lastWrite {read : Node → List UInt8}
    {written : Node → Event × Inputs → Option (List UInt8)}
    (hkeeps : ∀ n e n', ¬ n.Resets e → n.step e = some n' →
      read n' = (written n e).getD (read n))
    {n₀ n : Node} {es : List (Event × Inputs)}
    (hreset : Run.Along step (fun n e => ¬ n.Resets e) n₀ es)
    (hrun : Run.exec step n₀ es = some n) {inputs : Inputs} {frame : CanFrame}
    {index address : UInt8} (hrequest : n.Requests frame index address)
    (hanswer : n.answer inputs frame.address = some (read n)) :
    ∃ n', n.handleReceivedData inputs frame = .ok n' ∧
      n'.sent = n.sent ++ [⟨frame.receivedId,
        (Run.lastWrite written (Run.trace step n₀ es)).getD (read n₀)⟩] := by
  obtain ⟨⟨hextended, hrtr⟩, ⟨hid, haddressed⟩, -⟩ := hrequest
  obtain ⟨n', hn', hsent⟩ := sent_handleReceivedData inputs hextended hrtr hid haddressed
  have hread := Run.read_last read hkeeps es n₀ hreset
  rw [Run.last_of_exec hrun] at hread
  rw [hanswer, hread] at hsent
  exact ⟨n', hn', hsent⟩

/-- **The node is a register file.**  After a run without a reset, from a start or from
any other state, a request for a register of the function that runs on a channel returns
what the run wrote to it last, or else what was there before; and a request for the
label returns the text that the run wrote last, or else the one that was there. -/
theorem registerFile {n₀ n : Node} {es : List (Event × Inputs)}
    (hreset : Run.Along step (fun n e => ¬ n.Resets e) n₀ es)
    (hrun : Run.exec step n₀ es = some n) (inputs : Inputs) (frame : CanFrame) :
    (∀ c (r : Register), n.channelModules c = some r.module →
      n.Requests frame (channelSpace c) r.field →
      ∃ n', n.handleReceivedData inputs frame = .ok n' ∧
        n'.sent = n.sent ++ [⟨frame.receivedId,
          (Run.lastWrite (writtenTo c r) (Run.trace step n₀ es)).getD (r.read (n₀.settings c))⟩]) ∧
    (n.Requests frame 0x00 0x04 →
      ∃ n', n.handleReceivedData inputs frame = .ok n' ∧
        n'.sent = n.sent ++ [⟨frame.receivedId,
          (Run.lastWrite labelWritten (Run.trace step n₀ es)).getD n₀.labelText⟩]) := by
  refine ⟨fun c r hmodule hrequest => ?_, fun hrequest => ?_⟩
  -- the step lemma gives the last write, the request answers what is read
  · refine sent_lastWrite (fun _ _ _ hstay h => (keeps_step hstay h).1 c r) hreset hrun hrequest ?_
    obtain ⟨-, -, hindex, hfield⟩ := hrequest
    unfold answer
    rw [dispatch_eq_function_iff.mpr ⟨hindex, hmodule⟩, hfield]
    exact onRequest_field inputs c n r
  · refine sent_lastWrite (fun _ _ _ hstay h => (keeps_step hstay h).2) hreset hrun hrequest ?_
    -- the label is answered by the system's own registers
    obtain ⟨-, -, hindex, hfield⟩ := hrequest
    unfold answer
    rw [dispatch_eq_sysinfo_iff.mpr hindex, hfield]
    rfl

/-- A frame that writes all ones to the configuration of the switch on channel 0 of
device 5. -/
def configFrame : CanFrame where
  extended := true
  id := packetIdToNumber ⟨0, 5, fieldAddress 0 SwitchField.config.toByte⟩
  rtr := false
  dlc := 1
  data _ := 0xff

/-- The configuration comes back with the bits of its mask, a tick later. -/
theorem registerFile_config :
    ∃ n₀ n n', (blank switchEeprom).boot .idle = .ok n₀ ∧
      Run.exec step n₀ [(.frame configFrame, .idle), (.tick, .idle)] = some n ∧
      n.handleReceivedData .idle { configFrame with rtr := true } = .ok n' ∧
      n'.sent = n.sent ++ [⟨configFrame.receivedId, [0x07]⟩] := by
  obtain ⟨n₀, hboot, n, hrun, hmodule, haddressed, hvalue⟩ :
      ∃ n₀, (blank switchEeprom).boot .idle = .ok n₀ ∧
        ∃ n, Run.exec step n₀ [(.frame configFrame, .idle), (.tick, .idle)] = some n ∧
          n.channelModules 0 = some .switch ∧ n.Addressed configFrame.receivedId ∧
          (Run.lastWrite (writtenTo 0 .switchConfig)
            (Run.trace step n₀ [(.frame configFrame, .idle), (.tick, .idle)])).getD
              (Register.switchConfig.read (n₀.settings 0)) = [0x07] :=
    ⟨_, rfl, _, rfl, rfl, by decide, by decide⟩
  have hreset : Run.Along step (fun n e => ¬ n.Resets e) n₀
      [(.frame configFrame, .idle), (.tick, .idle)] :=
    ⟨fun h => absurd h.2.2.1 (by decide), fun _ _ => ⟨id, fun _ _ => trivial⟩⟩
  have hrequest : n.Requests { configFrame with rtr := true } (channelSpace 0)
      Register.switchConfig.field :=
    ⟨⟨rfl, rfl⟩, ⟨by decide, haddressed⟩, by decide, by decide⟩
  obtain ⟨n', hn', hsent⟩ :=
    (registerFile hreset hrun .idle { configFrame with rtr := true }).1 0 .switchConfig hmodule
      hrequest
  rw [hvalue] at hsent
  exact ⟨n₀, n, n', hboot, hrun, hn', hsent⟩

end Node
end HomeAutomation
