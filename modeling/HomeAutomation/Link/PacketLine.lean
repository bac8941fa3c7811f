import HomeAutomation.Lib.CString
import HomeAutomation.Link.DeviceLine

/-!
# The line of a packet, written and read back

The CAN master formats a packet in the buffer it also receives commands in, string behind
string.  What it formats is a command for the same packet, and fits into the buffer.

## Main definitions

* `formatPacket` — the writes of `CanServer::handle_can_packet`.

## Main results

* `holds_formatPacket` — what stands in the buffer.
* `parsePacket_formatPacket` — the parser on what was formatted.

## References

`ti/can_master/can_server.cpp`, `shared/include/ha/can_proto.h`.
-/

namespace HomeAutomation
namespace CanServer

open Hex Str

/-! ### Formatting -/

/-- The loop that writes the data into `message_`, and the position behind them. -/
def writeData : List UInt8 → Text → ℕ → Option (Text × ℕ)
  | [], message, pos => some (message, pos)
  | byte :: data, message, pos =>
    if pos ≥ maxMessageSize - 4 then some (message, pos)
    else do
      let message ← CString.write message pos (hexPad 2 byte.toNat)
      writeData data message (pos + 2)

/-- What `handle_can_packet` writes into `message_`, and how much of it is sent.  There is
no result when a write goes past the end. -/
def formatPacket (p : CanPacket) (message : Text) : Option (Text × ℕ) := do
  let message ← CString.write message 0 (packetHead p)
  let (message, pos) ← writeData p.data message (CString.strlen message)
  let message ← CString.write message pos "\r\n".toList
  some (message, pos + 2)

/-- Digits have no null character. -/
theorem null_not_mem_hexPad (w n : ℕ) : '\x00' ∉ hexPad w n :=
  fun h => ne_of_isHex (isHex_of_mem_hexPad h) (by decide) rfl

/-- A turn of the loop of the data leaves room for the next one, and for the ending. -/
theorem holds_writeData (data : List UInt8) {text message : Text}
    (h : CString.Holds maxMessageSize text message) (htext : text.length + 3 ≤ maxMessageSize) :
    ∃ written, writeData data message text.length
        = some (written, (text ++ dataText text.length data).length) ∧
      CString.Holds maxMessageSize (text ++ dataText text.length data) written ∧
      (text ++ dataText text.length data).length + 3 ≤ maxMessageSize := by
  induction data generalizing text message with
  | nil =>
    rw [dataText, List.append_nil]
    exact ⟨message, rfl, h, htext⟩
  | cons byte data ih =>
    rw [writeData, dataText]
    by_cases hfull : text.length ≥ maxMessageSize - 4
    -- four places are left: the loop stops here
    · rw [if_pos hfull, if_pos hfull, List.append_nil]
      exact ⟨message, rfl, h, htext⟩
    · have hbyte := length_hexPad_byte byte
      have hroom : text.length < 128 - 4 := not_le.mp hfull
      -- the two digits of a byte never hold the null character
      obtain ⟨next, hnext, hholds⟩ := h.write (null_not_mem_hexPad 2 byte.toNat)
        (by rw [hbyte, maxMessageSize]; omega)
      have hlength : (text ++ hexPad 2 byte.toNat).length = text.length + 2 := by
        rw [List.length_append, hbyte]
      have hrest := ih hholds (by rw [hlength, maxMessageSize]; omega)
      rw [hlength, List.append_assoc] at hrest
      rw [if_neg hfull, if_neg hfull, hnext]
      exact hrest

/-- What is written before the data fits, with room for the ending. -/
theorem length_packetHead_le (p : CanPacket) : (packetHead p).length ≤ 20 := by
  rw [packetHead]
  split
  · decide
  · have hdevice := (numberToPacketId p.id).deviceId.isLt
    simp only [List.length_append, length_hexPad (w := 2) (by decide)
      (show (numberToPacketId p.id).deviceId.toNat < 16 ^ 2 by omega),
      length_hexPad (w := 4) (by decide) (numberToPacketId p.id).address.toNat_lt]
    decide

theorem null_not_mem_packetHead (p : CanPacket) : '\x00' ∉ packetHead p := by
  rw [packetHead]
  split
  · decide
  · simp only [List.mem_append, not_or]
    exact ⟨⟨⟨⟨by decide, null_not_mem_hexPad 2 _⟩, by decide⟩, null_not_mem_hexPad 4 _⟩,
      by decide⟩

/-- **What stands in the buffer**: the line of the packet, with its ending.  No write goes
past the end. -/
theorem holds_formatPacket (p : CanPacket) {message : Text}
    (hmessage : message.length = maxMessageSize) :
    ∃ written, formatPacket p message
        = some (written, (canPacketLine p ++ "\r\n".toList).length) ∧
      CString.Holds maxMessageSize (canPacketLine p ++ "\r\n".toList) written := by
  have hlength := length_packetHead_le p
  obtain ⟨head, hhead, hholds⟩ := CString.holds_write_start (null_not_mem_packetHead p)
    (show (packetHead p).length + 1 ≤ message.length by rw [hmessage, maxMessageSize]; omega)
  rw [hmessage] at hholds
  obtain ⟨line, hline, hholds', hroom⟩ := holds_writeData p.data hholds
    (by rw [maxMessageSize]; omega)
  obtain ⟨written, hwritten, hholds''⟩ := hholds'.write
    (show '\x00' ∉ "\r\n".toList by decide) hroom
  have hsent : (canPacketLine p ++ "\r\n".toList).length
      = (packetHead p ++ dataText (packetHead p).length p.data).length + 2 := List.length_append
  refine ⟨written, ?_, hholds''⟩
  rw [hsent, formatPacket, hhead, Option.bind_eq_bind, Option.bind_some, hholds.strlen, hline,
    Option.bind_eq_bind, Option.bind_some]
  dsimp only
  rw [hwritten]
  rfl

/-! ### The way back -/

/-- An identifier of 24 bits with the reserved bit set. -/
theorem toNat_id {id : UInt32} (hreserved : id.toNat.testBit 23 = true)
    (hhigh : ∀ i, 24 ≤ i → i < 32 → id.toNat.testBit i = false) :
    id.toNat = 2 ^ 23 + id.toNat / 2 ^ 16 % 128 * 2 ^ 16 + id.toNat % 2 ^ 16 := by
  have hlt : id.toNat < 2 ^ 24 := by
    refine Nat.lt_pow_two_of_testBit id.toNat fun i hi => ?_
    by_cases hi32 : i < 32
    · exact hhigh i hi hi32
    · exact Nat.testBit_lt_two_pow (id.toNat_lt.trans_le
        (Nat.pow_le_pow_right (by decide) (not_lt.mp hi32)))
  have hge : 2 ^ 23 ≤ id.toNat := Nat.ge_two_pow_of_testBit hreserved
  omega

/-- Such an identifier is built of its device and its address. -/
theorem packetIdToNumber_fields {id : UInt32} (hreserved : id.toNat.testBit 23 = true)
    (hhigh : ∀ i, 24 ≤ i → i < 32 → id.toNat.testBit i = false) :
    packetIdToNumber ⟨0, (numberToPacketId id).deviceId, (numberToPacketId id).address⟩ = id := by
  obtain ⟨hdevice, haddress⟩ := toNat_numberToPacketId id
  have hid := toNat_id hreserved hhigh
  apply UInt32.toNat_inj.mp
  have hpriority : (0 : UInt8).toNat = 0 := rfl
  rw [toNat_packetIdToNumber, hdevice, haddress, hpriority]
  omega

/-- The bytes that are written come back. -/
theorem bytesOf_bodyText (bytes : List UInt8) : bytesOf (Message.bodyText bytes) = bytes := by
  induction bytes with
  | nil => rfl
  | cons byte bytes ih =>
    obtain ⟨a, b, hab⟩ := List.length_eq_two.mp (length_hexPad_byte byte)
    have hbyte : ofHex [a, b] = byte.toNat := by rw [← hab, ofHex_hexPad]
    rw [Message.bodyText, List.flatMap_cons, hab, List.cons_append, List.cons_append,
      List.nil_append, bytesOf, hbyte, UInt8.ofNat_toNat]
    exact congrArg _ ih

/-- The reader on the data of a line, with its ending. -/
theorem readData_bodyText (data : Body) :
    readData 8 (Message.bodyText data ++ "\r\n".toList) = data.val := by
  have hlength := length_bodyText data
  have hdata := data.2
  rw [readData_digits (fun _ => isHex_of_mem_bodyText) (by omega) isSpace_lineEnding (by omega),
    bytesOf_bodyText]

/-- The parser on the line of a packet. -/
theorem parsePacket_canPacketLine {p : CanPacket} (hreserved : p.id.toNat.testBit 23 = true)
    (hhigh : ∀ i, 24 ≤ i → i < 32 → p.id.toNat.testBit i = false) :
    parsePacket (canPacketLine p ++ "\r\n".toList) = some (p, false) := by
  -- the id of an update request has bit 24 set
  have hupdate : p.id ≠ specialIdUpdate := by
    intro h
    have hbit := hhigh 24 (by decide) (by decide)
    rw [h] at hbit
    exact absurd hbit (by decide)
  have hdevice := (numberToPacketId p.id).deviceId.isLt
  -- nothing in the line marks it as a request
  have hmark : '?' ∉ "  =".toList ++ (Message.bodyText p.data ++ "\r\n".toList) := by
    intro h
    simp only [List.mem_append] at h
    obtain h | h | h := h
    · exact absurd h (by decide)
    · exact ne_of_isHex (isHex_of_mem_bodyText h) (by decide) rfl
    · exact absurd h (by decide)
  have hline : canPacketLine p ++ "\r\n".toList
      = DeviceLink.deviceLine (numberToPacketId p.id).deviceId.toNat
        (numberToPacketId p.id).address.toNat
        ("  =".toList ++ (Message.bodyText p.data ++ "\r\n".toList)) := by
    rw [DeviceLink.canPacketLine_eq_deviceLine hupdate]
    simp only [DeviceLink.deviceLine, List.append_assoc]
  have hvalue : strchr ("  =".toList ++ (Message.bodyText p.data ++ "\r\n".toList)) '='
      = some ('=' :: (Message.bodyText p.data ++ "\r\n".toList)) := rfl
  have hid : packetIdToNumber ⟨0, BitVec.ofNat 7 (numberToPacketId p.id).deviceId.toNat,
      UInt16.ofNat (numberToPacketId p.id).address.toNat⟩ = p.id := by
    rw [BitVec.ofNat_toNat, BitVec.setWidth_eq, UInt16.ofNat_toNat]
    exact packetIdToNumber_fields hreserved hhigh
  have hstops : Stops ("  =".toList ++ (Message.bodyText p.data ++ "\r\n".toList)) :=
    stops_cons _ (by decide)
  rw [hline, DeviceLink.parsePacket_deviceLine (by omega)
    (numberToPacketId p.id).address.toNat_lt hstops, if_neg hmark, hvalue, Option.map_some, hid]
  exact congrArg some (Prod.ext (congrArg (CanPacket.mk p.id)
    (Subtype.ext (readData_bodyText p.data))) rfl)

/-- **What the master formats is a command for the same packet**, for every packet whose
identifier has the reserved bit and no bit above it: the text in the buffer is taken for no
request, with the same identifier and the same data; and no write goes past the end of the
buffer. -/
theorem parsePacket_formatPacket {p : CanPacket} (hreserved : p.id.toNat.testBit 23 = true)
    (hhigh : ∀ i, 24 ≤ i → i < 32 → p.id.toNat.testBit i = false) {message : Text}
    (hmessage : message.length = maxMessageSize) :
    ∃ written sent, formatPacket p message = some (written, sent) ∧
      written.length = maxMessageSize ∧
      written.take sent = canPacketLine p ++ "\r\n".toList ∧
      cString written = canPacketLine p ++ "\r\n".toList ∧
      parsePacket (written.take sent) = some (p, false) := by
  obtain ⟨written, hformat, hholds⟩ := holds_formatPacket p hmessage
  refine ⟨written, _, hformat, hholds.length_eq, hholds.take,
    CString.takeWhile_of_holds hholds, ?_⟩
  rw [hholds.take, parsePacket_canPacketLine hreserved hhigh]

/-- A value of two bytes for the device 5. -/
theorem parsePacket_formatPacket_value :
    ∃ written sent, formatPacket ⟨0x850030, ⟨[0x12, 0xfe], by decide⟩⟩ (List.replicate 128 '\x00')
        = some (written, sent) ∧
      written.length = maxMessageSize ∧
      written.take sent
        = canPacketLine ⟨0x850030, ⟨[0x12, 0xfe], by decide⟩⟩ ++ "\r\n".toList ∧
      cString written
        = canPacketLine ⟨0x850030, ⟨[0x12, 0xfe], by decide⟩⟩ ++ "\r\n".toList ∧
      parsePacket (written.take sent)
        = some (⟨0x850030, ⟨[0x12, 0xfe], by decide⟩⟩, false) := by
  have hhigh : ∀ i, i < 32 → 24 ≤ i → (0x850030 : UInt32).toNat.testBit i = false := by decide
  exact parsePacket_formatPacket (by decide) (fun i h24 h32 => hhigh i h32 h24)
    List.length_replicate

end CanServer
end HomeAutomation
