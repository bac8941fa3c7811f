import HomeAutomation.Client.Command
import HomeAutomation.Proto.RoundTrip
import HomeAutomation.Router.State

/-!
# The way of a command from a client to the queue of the router

A client's command becomes a service command, a line, a service command again, and
at last a message in the router's queue.  Two places break the chain.  The client
function that builds the service command ends without returning it.  And the
router reads a `data` argument without digits as a missing one, so a value without
a body is refused.

## Main definitions

* `Queued` — a service command, sent and handled, puts one message of the given
  content into the queue.
* `Delivered` — the client's call does that.

## Main results

* `queued_iff` — the command that is built is queued unless it is a value without a
  body.
* `delivery` — the call itself delivers nothing.

## References

`common/source/client/Command.cpp`, `common/source/client/CanNode.cpp`,
`router/Router.cpp`.
-/

namespace HomeAutomation

open ServiceCommand

/-! ### The service command of a device command -/

namespace DeviceCommand

/-- The arguments of the command, the data's only for a command with data. -/
def arguments (c : DeviceCommand) : Arguments :=
  let address := (OrderedMap.empty.insert "device".toList c.device).insert "address".toList
    (unsignedText c.address.toUInt32)
  if c.type ≠ .query then address.insert "data".toList (Message.bodyText c.body) else address

theorem checkString_action (type : DeviceCommandType) :
    checkString (action type) = true ∧ action type ≠ [] := by
  cases type <;> decide

theorem build_eq {c : DeviceCommand} (hdevice : checkString c.device = true)
    (hbody : c.type = .query → c.body = []) :
    c.build = .ok ⟨action c.type, c.arguments⟩ := by
  have haction : ServiceCommand.setAction ⟨[], .empty⟩ (action c.type)
      = .ok ⟨action c.type, .empty⟩ := by
    rw [setAction, (checkString_action c.type).1]
    rfl
  rw [build, haction, ok_bind, addArgument_eq (by decide) (by decide) hdevice, ok_bind,
    addArgumentUnsigned, addArgument_eq (by decide) (by decide) (checkString_unsignedText _),
    ok_bind]
  unfold arguments
  by_cases hquery : c.type = .query
  · rw [if_neg (not_not.mpr hquery), hbody hquery]
    dsimp only
    rw [if_neg (not_not.mpr hquery)]
    rfl
  · rw [if_pos hquery, addRawArgument,
      addArgument_eq (by decide) (by decide) (checkString_bodyText _)]
    dsimp only
    rw [if_pos hquery]

theorem writable_build {c : DeviceCommand} (hdevice : checkString c.device = true) :
    Writable ⟨action c.type, c.arguments⟩ := by
  obtain ⟨haction, hne⟩ := checkString_action c.type
  have hbase := ((writable_create hne haction).insert "device".toList (by decide)
    (by decide) hdevice).insert "address".toList (by decide) (by decide)
    (checkString_unsignedText c.address.toUInt32)
  unfold arguments
  dsimp only
  split
  · exact hbase.insert _ (by decide) (by decide) (checkString_bodyText _)
  · exact hbase

theorem find_arguments (c : DeviceCommand) :
    c.arguments.find "device".toList = some c.device ∧
      c.arguments.find "address".toList = some (unsignedText c.address.toUInt32) ∧
      (c.type ≠ .query → c.arguments.find "data".toList = some (Message.bodyText c.body)) := by
  unfold arguments
  by_cases hquery : c.type = .query
  · simp [hquery]
  · simp [hquery]

/-- `service_command` never comes back with a command. -/
theorem serviceCommand_ne_ok (c : DeviceCommand) (command : ServiceCommand) :
    c.serviceCommand ≠ .ok command := by
  intro h
  obtain ⟨built, -, h⟩ := bind_eq_ok_iff.mp h
  cases h

end DeviceCommand

/-! ### Delivery -/

namespace CommandLink

open Router Router.State

/-- The message type for a command to a device. -/
def messageType : DeviceCommandType → MessageType
  | .query => .request
  | _ => .data

/-- **The service command, sent and handled, puts exactly the command's message into
the queue.** -/
def Queued (config : Config) (s : State) (id : ℕ) (unset : Bool) (c : DeviceCommand)
    (d : Device) (command : ServiceCommand) : Prop :=
  ∃ received s' record, command.Transmits received ∧
    s.handleCommand config received id unset = .ok (s', true) ∧
    s'.sendQueue = s.sendQueue ++ [record] ∧
    record.message.type = messageType c.type ∧ record.message.deviceId = d.id ∧
    record.message.address = c.address ∧ record.message.body.1 = c.body

/-- **The client's call delivers its command.** -/
def Delivered (config : Config) (s : State) (id : ℕ) (unset : Bool) (c : DeviceCommand)
    (d : Device) : Prop :=
  ∃ command, c.serviceCommand = .ok command ∧ Queued config s id unset c d command

/-- A command a client gives for a device: a value of at most eight bytes, or a query. -/
structure Wellformed (c : DeviceCommand) : Prop where
  type : c.type = .send ∨ c.type = .query
  body : c.body.length ≤ 8
  query : c.type = .query → c.body = []

theorem handleCommand_eq {config : Config} {s : State} {c : DeviceCommand} (hc : Wellformed c)
    (id : ℕ) (unset : Bool) :
    s.handleCommand config ⟨DeviceCommand.action c.type, c.arguments⟩ id unset
      = s.handleSend config ⟨DeviceCommand.action c.type, c.arguments⟩ id (messageType c.type) := by
  rcases hc.type with htype | htype
  · rw [htype]
    rfl
  · rw [htype]
    rfl

/-- The message that the router makes of the command that was built. -/
theorem sendMessage_eq {c : DeviceCommand} (hc : Wellformed c) (d : Device) :
    sendMessage ⟨DeviceCommand.action c.type, c.arguments⟩ (messageType c.type) d
        c.address.toUInt32
      = if c.type = .query ∨ c.body ≠ [] then
          some ⟨messageType c.type, d.id, c.address, ⟨c.body, hc.body⟩⟩
        else none := by
  have haddress : c.address.toUInt32.toUInt16 = c.address := by simp
  -- an assignment needs its body, a query has none
  rcases hc.type with htype | htype
  · have hdata := getRawArgument_of_find (c := ⟨DeviceCommand.action c.type, c.arguments⟩)
      (c.find_arguments.2.2 (by rw [htype]; decide))
    rw [htype] at hdata ⊢
    unfold sendMessage messageType
    dsimp only
    rw [hdata, haddress]
    -- an empty body is refused
    by_cases hbody : c.body = []
    · rw [if_pos hbody, if_neg (by simp [hbody])]
    · rw [if_neg hbody, if_pos (Or.inr hbody)]
      exact dif_pos hc.body
  · rw [htype, if_pos (Or.inl rfl)]
    unfold sendMessage messageType
    dsimp only
    rw [haddress]
    simp only [hc.query htype]
    rfl

/-- **The command that is built is queued unless it is a value without a body.** -/
theorem queued_iff {config : Config} {c : DeviceCommand} (hc : Wellformed c) {d : Device}
    (hd : config.findDevice c.device = some d) (hcheck : checkString c.device = true) {s : State}
    {network : ℕ} (hs : s.Connected d network) (id : ℕ) (unset : Bool) :
    Queued config s id unset c d ⟨DeviceCommand.action c.type, c.arguments⟩ ↔
      c.type = .query ∨ c.body ≠ [] := by
  obtain ⟨hfdevice, hfaddress, -⟩ := c.find_arguments
  have hread : ServiceCommand.getArgumentUnsigned ⟨DeviceCommand.action c.type, c.arguments⟩
      "address".toList invalidValue = c.address.toUInt32 := getArgumentUnsigned_of_find hfaddress _
  have hrange : c.address.toUInt32 ≤ 0xffff := by
    rw [UInt32.le_iff_toNat_le, UInt16.toNat_toUInt32]
    exact Nat.le_of_lt_succ c.address.toNat_lt
  have hhandle := handleSend_eq ⟨DeviceCommand.action c.type, c.arguments⟩
    (by rw [getArgument, hfdevice]; exact hd) hs (by rw [hread]; exact hrange) id
    (messageType c.type)
  -- both handlers are the same function of the device, the address and the body
  rw [← handleCommand_eq hc id unset, hread, sendMessage_eq hc d] at hhandle
  constructor
  -- a command that is not a query and has no body is handled and nothing is queued
  · rintro ⟨received, s', record, htransmits, hcommand, -⟩
    rw [(DeviceCommand.writable_build hcheck).transmits_iff.mp htransmits, hhandle] at hcommand
    by_contra hempty
    rw [if_neg hempty] at hcommand
    cases hcommand
  · intro h
    rw [if_pos h] at hhandle
    exact ⟨_, _, _, (DeviceCommand.writable_build hcheck).transmits_iff.mpr rfl, hhandle, rfl, rfl,
      rfl, rfl, rfl⟩

/-- **What becomes of a client's command**: the call delivers none, and the command
it builds would be queued unless it is a value without a body. -/
theorem delivery {config : Config} {c : DeviceCommand} (hc : Wellformed c) {d : Device}
    (hd : config.findDevice c.device = some d) (hcheck : checkString c.device = true) {s : State}
    {network : ℕ} (hs : s.Connected d network) (id : ℕ) (unset : Bool) :
    ¬ Delivered config s id unset c d ∧ ∃ command, c.build = .ok command ∧
      (Queued config s id unset c d command ↔ c.type = .query ∨ c.body ≠ []) := by
  constructor
  · rintro ⟨command, hcommand, -⟩
    exact c.serviceCommand_ne_ok command hcommand
  · exact ⟨_, DeviceCommand.build_eq hcheck hc.query, queued_iff hc hd hcheck hs id unset⟩

/-- A value of one byte for the sample device. -/
def sampleCommand : DeviceCommand := ⟨"lamp".toList, .send, 0x8001, [0x01]⟩

/-- The value would be queued if the call returned it. -/
theorem delivery_sample :
    ∃ command, sampleCommand.build = .ok command ∧
      Queued sampleConfig (sampleState SocketConnection.fresh.subscribe) 1 true sampleCommand
        sampleDevice command := by
  have hdevice : sampleConfig.findDevice sampleCommand.device = some sampleDevice := rfl
  have hconnected : (sampleState SocketConnection.fresh.subscribe).Connected sampleDevice 0 :=
    ⟨rfl, rfl⟩
  obtain ⟨-, command, hbuild, hqueued⟩ := delivery (c := sampleCommand)
    ⟨Or.inl rfl, by decide, fun h => by cases h⟩ hdevice (by decide) hconnected 1 true
  exact ⟨command, hbuild, hqueued.mpr (Or.inr (by decide))⟩

/-- The command of `CanNode::save`, for the sample device. -/
def saveCommand : DeviceCommand := ⟨"lamp".toList, .send, 0x00, []⟩

/-- The call for `CanNode::save` returns nothing, and the router refuses the command
it builds. -/
theorem save_not_delivered :
    ¬ Delivered sampleConfig (sampleState SocketConnection.fresh.subscribe) 1 true saveCommand
      sampleDevice ∧
    ∃ command, saveCommand.build = .ok command ∧
      ¬ Queued sampleConfig (sampleState SocketConnection.fresh.subscribe) 1 true saveCommand
        sampleDevice command := by
  have hc : Wellformed saveCommand := ⟨Or.inl rfl, by decide, fun h => by cases h⟩
  have hdevice : sampleConfig.findDevice saveCommand.device = some sampleDevice := rfl
  have hconnected : (sampleState SocketConnection.fresh.subscribe).Connected sampleDevice 0 :=
    ⟨rfl, rfl⟩
  constructor
  · rintro ⟨command, hcommand, -⟩
    exact saveCommand.serviceCommand_ne_ok command hcommand
  · refine ⟨_, DeviceCommand.build_eq (by decide) hc.query, fun h => ?_⟩
    rw [queued_iff hc hdevice (by decide) hconnected] at h
    rcases h with h | h
    · cases h
    · exact h rfl

end CommandLink
end HomeAutomation
