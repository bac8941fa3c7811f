import HomeAutomation.Can.CanProto
import HomeAutomation.Lib.Hex
import HomeAutomation.Lib.Str
import HomeAutomation.Proto.Message

/-!
# The text interface of the CAN master

The CAN master takes commands as lines of text, turns them into CAN packets, and
writes the packets it receives as lines.  A command is a C string: a text without
the null character that ends it.

## Main definitions

* `CanPacket` — a packet, with its data of up to eight bytes.
* `parsePacket` — `CanServer::parse_packet`, with `parseDevIdPacket`.
* `canPacketLine` — the line `CanServer::handle_can_packet` writes.
* `commandOf` — what `CanServer::handle_client` makes of the bytes of one `recv`.

## References

`ti/can_master/can_server.cpp`, `ti/can_master/can.h`.
-/

namespace HomeAutomation
namespace CanServer

open Hex Str

/-- `CanPacket`: the identifier and the first `length` bytes of the data. -/
structure CanPacket where
  id : UInt32
  data : Body
  deriving DecidableEq

/-- `sscanf(s, "<tag>%x", &value)`, for a tag without blanks. -/
def sscanfTag (tag s : Text) : Option ℕ :=
  if tag.isPrefixOf s then sscanfHex (s.drop tag.length) else none

/-- The loop that reads the data bytes, with room for `n` more. -/
def readData : ℕ → Text → List UInt8
  | 0, _ => []
  | n + 1, a :: b :: s =>
    match sscanfHex [a, b] with
    | none => []
    | some byte => UInt8.ofNat byte :: readData n s
  | _ + 1, _ => []

/-- A turn of that loop. -/
theorem readData_cons (n : ℕ) (a b : Char) (s : Text) :
    readData (n + 1) (a :: b :: s) =
      match sscanfHex [a, b] with
      | none => []
      | some byte => UInt8.ofNat byte :: readData n s := by
  rw [readData.eq_def]

theorem length_readData_le (n : ℕ) (s : Text) : (readData n s).length ≤ n := by
  fun_induction readData n s with
  | case1 => simp
  | case2 => simp
  | case3 n a b s byte _ ih => simpa using ih
  | case4 => simp

/-- `parse_dev_id_packet`: the packet and whether it is a request. -/
def parseDevIdPacket (message : Text) : Option (CanPacket × Bool) :=
  if "dev-q?".toList.isPrefixOf message then some (⟨specialIdUpdate, Body.nil⟩, true)
  else
    match sscanfTag "dev-q!".toList message with
    | none => none
    | some value =>
      if value ≤ 0xffff ∧ value % 0x100 ≤ 0x7f then
        some (⟨specialIdUpdate,
          ⟨[UInt8.ofNat (value / 0x100 % 0x100), UInt8.ofNat (value % 0x100)], by simp⟩⟩, false)
      else none

/-- `parse_packet`: the packet and whether it is a request, when it returns true.
The packet is fresh, so its data start empty. -/
def parsePacket (message : Text) : Option (CanPacket × Bool) :=
  if "dev-q".toList.isPrefixOf message then parseDevIdPacket message
  else
    match sscanfTag "dev:".toList message with
    | none => none
    | some devId =>
      if devId > 0xff then none
      else
        match strstr message "addr:".toList with
        | none => none
        | some ptr =>
          match sscanfTag "addr:".toList ptr with
          | none => none
          | some address =>
            if address > 0xffff then none
            else
              let id := packetIdToNumber ⟨0, BitVec.ofNat 7 devId, UInt16.ofNat address⟩
              if (strchr ptr '?').isSome then some (⟨id, Body.nil⟩, true)
              else
                match strchr ptr '=' with
                | none => none
                | some ptr =>
                  some (⟨id, ⟨readData 8 (ptr.drop 1), length_readData_le 8 _⟩⟩, false)

/-- `max_message_size`. -/
def maxMessageSize : ℕ := 128

/-- The C string at the start of a buffer. -/
def cString (buffer : Text) : Text := buffer.takeWhile (· ≠ '\x00')

/-- The command that `handle_client` finds in what one `recv` returns.  A buffer that
is full is not looked at, for want of room behind it. -/
def commandOf (received : Text) : Option (CanPacket × Bool) :=
  if received = [] ∨ received.length ≥ maxMessageSize then none else parsePacket (cString received)

/-- The loop that writes the data bytes from position `pos` of the buffer on. -/
def dataText : ℕ → List UInt8 → Text
  | _, [] => []
  | pos, b :: bs =>
    if pos ≥ maxMessageSize - 4 then [] else hexPad 2 b.toNat ++ dataText (pos + 2) bs

/-- What `handle_can_packet` writes before the data. -/
def packetHead (p : CanPacket) : Text :=
  if p.id = specialIdUpdate then "=".toList
  else
    "dev:".toList ++ hexPad 2 (numberToPacketId p.id).deviceId.toNat ++ "  addr:".toList ++
      hexPad 4 (numberToPacketId p.id).address.toNat ++ "  =".toList

/-- The line that `handle_can_packet` sends to every client, without its ending. -/
def canPacketLine (p : CanPacket) : Text :=
  packetHead p ++ dataText (packetHead p).length p.data

end CanServer
end HomeAutomation
