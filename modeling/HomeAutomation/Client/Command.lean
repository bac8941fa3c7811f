import HomeAutomation.Proto.Message

/-!
# Client commands

The commands a client gives to the router, and how they become service commands.

## Main definitions

* `DeviceCommand` — a value for a device, a query, or a reply; `build` is the
  service command its `service_command` builds.
* `DeviceCommand.DependsOnlyOn` — a command that is set shows nothing of an earlier one.
* `Filter` — a subscription; `matchesDevice` and `matchesAddress` are the two
  conditions of the dispatcher's search for it.

## Main results

* `DeviceCommand.dependsOnlyOn_iff` — which service commands set the whole command.

## References

`common/source/client/Command.cpp`, `common/source/client/Dispatcher.cpp`.
-/

namespace HomeAutomation

/-! ### Device commands -/

/-- `DeviceCommand::Type`. -/
inductive DeviceCommandType
  | send
  | query
  | reply
  deriving DecidableEq, Repr

/-- A command to or from a device, named by its device's name. -/
structure DeviceCommand where
  device : Text
  type : DeviceCommandType
  address : UInt16
  body : List UInt8
  deriving DecidableEq

namespace DeviceCommand

/-- `DeviceCommand()`. -/
def default : DeviceCommand := ⟨[], .send, 0, []⟩

/-- The action of a command of each type. -/
def action : DeviceCommandType → Text
  | .send => "send".toList
  | .query => "query".toList
  | .reply => "reply".toList

/-- The service command that the body of `service_command` builds. -/
def build (c : DeviceCommand) : Except Fault ServiceCommand := do
  let result ← ServiceCommand.setAction ⟨[], .empty⟩ (action c.type)
  let result ← result.addArgument "device".toList c.device
  let result ← result.addArgumentUnsigned "address".toList c.address.toUInt32
  if c.type ≠ .query then result.addRawArgument "data".toList c.body
  else do
    verify c.body.isEmpty
    return result

/-- `DeviceCommand::service_command`.  The body ends without a `return`, so the
caller's pointer is never set. -/
def serviceCommand (c : DeviceCommand) : Except Fault ServiceCommand := do
  let _ ← c.build
  .error .missingReturn

/-- The type of a command with the given action. -/
def typeOfAction (action : Text) : Except Fault DeviceCommandType :=
  if action = "send".toList then .ok .send
  else if action = "query".toList then .ok .query
  else if action = "reply".toList then .ok .reply
  else .error .assertion

/-- `set_from_service_command`.  `get_raw_argument` leaves the body alone when it
returns false. -/
def setFromServiceCommand (c : DeviceCommand) (service : ServiceCommand) :
    Except Fault DeviceCommand := do
  let type ← typeOfAction service.action
  let device := service.getArgument "device".toList
  verify (!device.isEmpty)
  let rawAddress := service.getArgumentUnsigned "address".toList 0xffffffff
  verify (rawAddress ≠ 0xffffffff)
  verify (rawAddress ≤ 0xffff)
  let c := { c with type := type, device := device, address := rawAddress.toUInt16 }
  if type ≠ .query then do
    let c := { c with body := (service.getRawArgument "data".toList).getD c.body }
    verify (c.body.length ≤ 8)
    return c
  else return c

theorem typeOfAction_eq_ok {action : Text} {type : DeviceCommandType}
    (h : typeOfAction action = .ok type) : action = DeviceCommand.action type := by
  unfold typeOfAction at h
  split at h
  · next hsend =>
    cases h
    exact hsend
  · split at h
    · next hquery =>
      cases h
      exact hquery
    · split at h
      · next hreply =>
        cases h
        exact hreply
      · cases h

/-- The action of a command tells its type. -/
theorem action_of_setFromServiceCommand {c c' : DeviceCommand} {service : ServiceCommand}
    (h : c.setFromServiceCommand service = .ok c') : service.action = action c'.type := by
  obtain ⟨type, htype, h⟩ := bind_eq_ok_iff.mp h
  obtain ⟨-, -, h⟩ := bind_eq_ok_iff.mp h
  obtain ⟨-, -, h⟩ := bind_eq_ok_iff.mp h
  obtain ⟨-, -, h⟩ := bind_eq_ok_iff.mp h
  have htype' : c'.type = type := by
    split at h
    · obtain ⟨-, -, h⟩ := bind_eq_ok_iff.mp h
      cases h
      rfl
    · cases h
      rfl
  rw [htype']
  exact typeOfAction_eq_ok htype

/-! ### What a service command leaves of an earlier command -/

/-- The data argument is there and consists of whole bytes. -/
def HasData (service : ServiceCommand) : Prop :=
  service.getArgument "data".toList ≠ [] ∧ (service.getArgument "data".toList).length % 2 = 0 ∧
    ∀ c ∈ service.getArgument "data".toList, Hex.isHex c = true

/-- Some command passes the checks of `set_from_service_command`. -/
def Passes (service : ServiceCommand) : Prop := ∃ c r, setFromServiceCommand c service = .ok r

/-- **A command that is set depends on the service command alone**, and on no earlier
command. -/
def DependsOnlyOn (service : ServiceCommand) : Prop :=
  ∀ c₁ c₂ r₁ r₂, setFromServiceCommand c₁ service = .ok r₁ →
    setFromServiceCommand c₂ service = .ok r₂ → r₁ = r₂

/-- The body that is set: what the service command carries, or else what was there. -/
def bodyOf (service : ServiceCommand) (old : List UInt8) : List UInt8 :=
  if service.action = action .query then old
  else (service.getRawArgument "data".toList).getD old

/-- **What the checks let through**: all but the body comes from the service command. -/
theorem setFromServiceCommand_eq {service : ServiceCommand} (h : Passes service) :
    ∃ device type address, ∀ c : DeviceCommand, c.setFromServiceCommand service =
      if service.action = action .query ∨ (bodyOf service c.body).length ≤ 8 then
        .ok ⟨device, type, address, bodyOf service c.body⟩
      else .error .assertion := by
  obtain ⟨c₀, r, h⟩ := h
  obtain ⟨type, htype, h⟩ := bind_eq_ok_iff.mp h
  obtain ⟨⟨⟩, hdevice, h⟩ := bind_eq_ok_iff.mp h
  obtain ⟨⟨⟩, hthere, h⟩ := bind_eq_ok_iff.mp h
  obtain ⟨⟨⟩, hrange, -⟩ := bind_eq_ok_iff.mp h
  refine ⟨service.getArgument "device".toList, type,
    (service.getArgumentUnsigned "address".toList 0xffffffff).toUInt16, fun c => ?_⟩
  rw [setFromServiceCommand, htype, ok_bind]
  dsimp only
  -- the checks do not look at the object
  rw [hdevice, ok_bind, hthere, ok_bind, hrange, ok_bind]
  have haction := typeOfAction_eq_ok htype
  by_cases hquery : type = .query
  -- a query leaves the body of the object
  · have hask : service.action = action .query := by rw [haction, hquery]
    rw [if_neg (not_not_intro hquery), if_pos (Or.inl hask), bodyOf, if_pos hask]
    rfl
  -- the body is set, as far as the argument is there
  · have hask : service.action ≠ action .query := by
      rw [haction]
      intro heq
      cases type with
      | query => exact hquery rfl
      | send => exact absurd heq (by decide)
      | reply => exact absurd heq (by decide)
    rw [if_pos hquery]
    simp only [bodyOf, if_neg hask]
    by_cases hlength : ((service.getRawArgument "data".toList).getD c.body).length ≤ 8
    · rw [decide_eq_true hlength, if_pos (Or.inr hlength)]
      rfl
    · rw [decide_eq_false hlength, if_neg (not_or.mpr ⟨hask, hlength⟩)]
      rfl

/-- **When nothing of an earlier command is left**: the service command carries data, and is
no query. -/
theorem dependsOnlyOn_iff {service : ServiceCommand} (h : Passes service) :
    DependsOnlyOn service ↔ service.action ≠ "query".toList ∧ HasData service := by
  obtain ⟨device, type, address, hset⟩ := setFromServiceCommand_eq h
  have hquery : service.action = "query".toList ↔ service.action = action .query := Iff.rfl
  rw [HasData, ← ServiceCommand.isSome_getRawArgument_iff, Ne, hquery]
  constructor
  · intro hsame
    -- a command without a body, and one with a byte
    by_contra hnot
    -- otherwise the body is that of the object
    have hbody : ∀ old, bodyOf service old = old := by
      intro old
      rw [bodyOf]
      by_cases hask : service.action = action .query
      · rw [if_pos hask]
      · rw [if_neg hask]
        cases hraw : service.getRawArgument "data".toList with
        | none => rfl
        | some data => exact absurd ⟨hask, by rw [hraw]; rfl⟩ hnot
    have hrun : ∀ old : List UInt8, old.length ≤ 8 →
        setFromServiceCommand ⟨[], .send, 0, old⟩ service = .ok ⟨device, type, address, old⟩ := by
      intro old hold
      rw [hset, hbody, if_pos (Or.inr hold)]
    have := congrArg DeviceCommand.body
      (hsame _ _ _ _ (hrun [] (by decide)) (hrun [0] (by decide)))
    cases this
  · rintro ⟨hask, hsome⟩ c₁ c₂ r₁ r₂ h₁ h₂
    obtain ⟨data, hdata⟩ := Option.isSome_iff_exists.mp hsome
    -- the body is that of the line, whatever the object had
    have hbody : ∀ old, bodyOf service old = data := by
      intro old
      rw [bodyOf, if_neg hask, hdata]
      rfl
    rw [hset, hbody] at h₁ h₂
    exact Except.ok.inj (h₁.symm.trans h₂)

/-- A value for the lamp. -/
def sampleSend : ServiceCommand := ⟨"send".toList,
  ((OrderedMap.empty.insert "device".toList "lamp".toList).insert "address".toList
    "0102".toList).insert "data".toList "2a".toList⟩

/-- A query for the lamp. -/
def sampleLampQuery : ServiceCommand := ⟨"query".toList,
  (OrderedMap.empty.insert "device".toList "lamp".toList).insert "address".toList "0102".toList⟩

/-- The value leaves nothing of an earlier command. -/
theorem dependsOnlyOn_send : DependsOnlyOn sampleSend :=
  (dependsOnlyOn_iff ⟨default, ⟨"lamp".toList, .send, 0x0102, [0x2a]⟩, rfl⟩).mpr
    ⟨by decide, by decide, by decide, List.all_eq_true.mp (by decide)⟩

/-- The query keeps the body of an earlier command. -/
theorem query_keeps_body : Passes sampleLampQuery ∧
    setFromServiceCommand ⟨[], .send, 0, [7]⟩ sampleLampQuery
      = .ok ⟨"lamp".toList, .query, 0x0102, [7]⟩ ∧
    ¬ DependsOnlyOn sampleLampQuery := by
  have hfresh : setFromServiceCommand default sampleLampQuery
      = .ok ⟨"lamp".toList, .query, 0x0102, []⟩ := rfl
  have hused : setFromServiceCommand ⟨[], .send, 0, [7]⟩ sampleLampQuery
      = .ok ⟨"lamp".toList, .query, 0x0102, [7]⟩ := rfl
  refine ⟨⟨_, _, hfresh⟩, hused, fun h => ?_⟩
  have := congrArg DeviceCommand.body (h _ _ _ _ hfresh hused)
  cases this

end DeviceCommand

/-! ### Filters -/

/-- A subscription to the values of a device, or of all devices. -/
structure Filter where
  device : Text
  address : UInt16
  mask : UInt16
  options : UInt32
  deriving DecidableEq

namespace Filter

/-- `Option_OneTime`. -/
def optionOneTime : UInt32 := 0x01

/-- `options_ & Option_OneTime`. -/
def isOneTime (f : Filter) : Bool := f.options &&& optionOneTime ≠ 0

/-- The device argument of `service_command`, when there is a device. -/
def addDevice (f : Filter) (result : ServiceCommand) : Except Fault ServiceCommand :=
  if f.device ≠ [] then result.addArgument "device".toList f.device else .ok result

/-- `Filter::service_command`. -/
def serviceCommand (f : Filter) : Except Fault ServiceCommand := do
  let result ← ServiceCommand.create "filter".toList
  let result ← f.addDevice result
  let result ← result.addArgumentUnsigned "address".toList f.address.toUInt32
  let result ← result.addArgumentUnsigned "mask".toList f.mask.toUInt32
  if f.isOneTime then result.addArgument "options".toList "one-time".toList else .ok result

/-- The filter is for this device, or for any. -/
def matchesDevice (f : Filter) (device : Text) : Bool := f.device = [] || f.device = device

/-- The address agrees with the filter's on the bits of the mask. -/
def matchesAddress (f : Filter) (address : UInt16) : Bool :=
  f.address &&& f.mask = address &&& f.mask

/-- The search condition of `handle_device_command`. -/
def matchesCommand (f : Filter) (c : DeviceCommand) : Bool :=
  f.matchesDevice c.device && f.matchesAddress c.address

end Filter
end HomeAutomation
