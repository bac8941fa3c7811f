import HomeAutomation.Client.Command
import HomeAutomation.Proto.RoundTrip
import HomeAutomation.Router.State

/-!
# The way of a device's message from the router to a client

`route_to` puts a message of a device into a service command and sends it as a
line; the client reads the line and builds a fresh device command of it.  Each
stage can stop one of the two programs: the router checks the names it writes, and
the client checks the device, the address and the body it reads.

A body without bytes is written as an argument without digits, which the client
reads as a missing one and leaves its body alone.  In a fresh command that body is
empty, so it is the same.

## Main definitions

* `commandType` — the type of the command a client gets.
* `routedArguments` — the arguments `route_to` adds.
* `received` — the command a client gets of a message.

## Main results

* `routedCommand_eq` — the command `route_to` builds.
* `setFromServiceCommand_routed` — what the client makes of it.
* `route_to_received` — the whole way.

## References

`router/Router.cpp`, `common/source/client/Command.cpp`,
`common/source/proto/Message.cpp`.
-/

namespace HomeAutomation

open ServiceCommand

namespace ReplyLink

open Router Router.State

/-- The type of the command a client gets. -/
def commandType (reply : Bool) : DeviceCommandType := if reply then .reply else .send

/-- The arguments that `route_to` adds to its command. -/
def routedArguments (m : Message) (d : Device) : Arguments :=
  (((OrderedMap.empty.insert "device".toList d.name).insert "network".toList
    d.networkName).insert "address".toList (unsignedText m.address.toUInt32)).insert
    "data".toList (Message.bodyText m.body)

/-- The service command that `route_to` sends. -/
def routed (m : Message) (d : Device) (reply : Bool) : ServiceCommand :=
  ⟨DeviceCommand.action (commandType reply), routedArguments m d⟩

/-- The command a client gets of a message. -/
def received (m : Message) (d : Device) (reply : Bool) : DeviceCommand :=
  ⟨d.name, commandType reply, m.address, m.body⟩

section Routed

variable {d : Device} (hname : checkString d.name = true)
  (hnetwork : checkString d.networkName = true) (m : Message) (reply : Bool)

include hname hnetwork

/-- The command that `route_to` builds. -/
theorem routedCommand_eq : routedCommand m d reply = .ok (routed m d reply) := by
  have hcreate : ServiceCommand.create (if reply then "reply".toList else "send".toList)
      = .ok ⟨DeviceCommand.action (commandType reply), .empty⟩ := by
    cases reply with
    | false => rfl
    | true => rfl
  rw [routedCommand, hcreate, ok_bind, addArgument_eq (by decide) (by decide) hname, ok_bind,
    addArgument_eq (by decide) (by decide) hnetwork, ok_bind, addArgumentUnsigned,
    addArgument_eq (by decide) (by decide) (checkString_unsignedText _), ok_bind, addRawArgument,
    addArgument_eq (by decide) (by decide) (checkString_bodyText _)]
  rfl

theorem writable_routed : (routed m d reply).Writable := by
  have haction : Writable ⟨DeviceCommand.action (commandType reply), .empty⟩ := by
    cases reply with
    | false => exact writable_create (by decide) (by decide)
    | true => exact writable_create (by decide) (by decide)
  exact (((haction.insert "device".toList (by decide) (by decide) hname).insert
    "network".toList (by decide) (by decide) hnetwork).insert "address".toList (by decide)
    (by decide) (checkString_unsignedText _)).insert "data".toList (by decide) (by decide)
    (checkString_bodyText _)

end Routed

theorem find_routedArguments (m : Message) (d : Device) :
    (routedArguments m d).find "device".toList = some d.name ∧
      (routedArguments m d).find "address".toList = some (unsignedText m.address.toUInt32) ∧
      (routedArguments m d).find "data".toList = some (Message.bodyText m.body) := by
  simp [routedArguments]

/-- An address of a message passes the two checks of the client. -/
theorem address_checks (a : UInt16) :
    decide (a.toUInt32 ≠ 0xffffffff) = true ∧ decide (a.toUInt32 ≤ 0xffff) = true := by
  have hle : a.toUInt32 ≤ 0xffff := by
    rw [UInt32.le_iff_toNat_le, UInt16.toNat_toUInt32]
    exact Nat.le_of_lt_succ a.toNat_lt
  refine ⟨decide_eq_true fun h => ?_, decide_eq_true hle⟩
  rw [h] at hle
  exact absurd hle (by decide)

/-- **What a client makes of a routed command.** -/
theorem setFromServiceCommand_routed {d : Device} (hne : d.name ≠ []) (m : Message)
    (reply : Bool) :
    DeviceCommand.default.setFromServiceCommand (routed m d reply)
      = .ok (received m d reply) := by
  obtain ⟨hdevice, haddress, hdata⟩ := find_routedArguments m d
  have hfind : (routed m d reply).getArgument "device".toList = d.name := by
    rw [getArgument, routed, hdevice, Option.getD_some]
  have hread : (routed m d reply).getArgumentUnsigned "address".toList 0xffffffff
      = m.address.toUInt32 := getArgumentUnsigned_of_find haddress _
  -- without bytes nothing is read, and the body stays the empty one of a fresh command
  have hbody : ((routed m d reply).getRawArgument "data".toList).getD DeviceCommand.default.body
      = m.body := by
    rw [getRawArgument_of_find hdata]
    by_cases hnil : m.body.1 = []
    · rw [if_pos hnil, Option.getD_none, hnil]
      rfl
    · rw [if_neg hnil, Option.getD_some]
  have htype : DeviceCommand.typeOfAction (routed m d reply).action = .ok (commandType reply) := by
    cases reply with
    | false => rfl
    | true => rfl
  -- a routed message is never a query, so its body is read
  have hquery : commandType reply ≠ .query := by
    cases reply with
    | false => decide
    | true => decide
  have hnotEmpty : (!d.name.isEmpty) = true := by simpa using hne
  have hlength : decide (m.body.1.length ≤ 8) = true := decide_eq_true m.body.2
  have hround : m.address.toUInt32.toUInt16 = m.address := by simp
  rw [DeviceCommand.setFromServiceCommand, htype, ok_bind]
  dsimp only
  rw [hfind, hnotEmpty, verify_true, ok_bind, hread, (address_checks _).1, verify_true, ok_bind,
    (address_checks _).2, verify_true, ok_bind, if_pos hquery, hbody, hlength, hround]
  rfl

/-- **The way of a device's message to a client**: `route_to` sends one line, and the
client that reads it gets the device, the address and the body of the message. -/
theorem route_to_received {d : Device} (hne : d.name ≠ []) (hname : checkString d.name = true)
    (hnetwork : checkString d.networkName = true) (m : Message) (reply : Bool) :
    ∃ line command,
      (∀ (s : State) (id : ℕ) (connection : SocketConnection),
        s.connections.find id = some connection → connection.gotError = false →
        s.routeTo m d id reply = .ok
          (if connection.writeBuffer.length + (line ++ "\r\n".toList).length > writeBufferLimit then
            (s, false)
          else ({ s with connections := s.connections.insert id { connection with
            writeBuffer := connection.writeBuffer ++ (line ++ "\r\n".toList)
            writeListener := true } }, true))) ∧
      Packet.create line = .ok (.serviceCommand command) ∧
      DeviceCommand.default.setFromServiceCommand command
        = .ok ⟨d.name, if reply then .reply else .send, m.address, m.body⟩ := by
  have hwritable := writable_routed hname hnetwork m reply
  refine ⟨(routed m d reply).line, routed m d reply, ?_, create_line hwritable,
    setFromServiceCommand_routed hne m reply⟩
  intro s id connection hfind herror
  have hline : (Packet.serviceCommand (routed m d reply)).convertToString
      = .ok (routed m d reply).line := serialize_eq_line hwritable.action_ne
  have hsend := SocketConnection.send_eq herror hline
  unfold routeTo
  rw [hfind]
  dsimp only
  rw [routedCommand_eq hname hnetwork, ok_bind, hsend]
  split
  · rfl
  · rfl

/-- A value without a body reaches the client of the sample router. -/
theorem route_to_received_empty :
    ∃ line command, Packet.create line = .ok (.serviceCommand command) ∧
      DeviceCommand.default.setFromServiceCommand command
        = .ok ⟨"lamp".toList, .send, 0x0102, []⟩ := by
  obtain ⟨line, command, -, hline, hcommand⟩ := route_to_received (d := sampleDevice)
    (by decide) (by decide) (by decide) ⟨.data, 5, 0x0102, Body.nil⟩ false
  exact ⟨line, command, hline, hcommand⟩

end ReplyLink
end HomeAutomation
