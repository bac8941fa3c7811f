import HomeAutomation.Can.CommandLine
import HomeAutomation.Proto.MessageFormat

/-!
# The link between the server and the CAN master

Both ends of the device-network link write a line that names the device and the
address, and then a mark and the data.  They agree on everything before the mark;
the mark of a value is `':'` at the server and `'='` at the CAN master.

## Main definitions

* `deviceLine` — a line with a device id, an address and what follows them.
* `TakenByMaster`, `TakenByServer` — a line of one end means the same at the other.

## Main results

* `parsePacket_deviceLine`, `deserialize_deviceLine` — each parser on such a line.
* `deviceLine_agreement` — of the lines the server writes the master takes the
  requests only, and of the lines the master writes the server takes none.

## References

`common/source/proto/Message.cpp`, `ti/can_master/can_server.cpp`.
-/

namespace HomeAutomation
namespace DeviceLink

open Hex Str CanServer

/-! ### The common shape of a line -/

/-- A line that names a device and an address. -/
def deviceLine (deviceId address : ℕ) (tail : Text) : Text :=
  "dev:".toList ++ (hexPad 2 deviceId ++
    ("  ".toList ++ ("addr:".toList ++ (hexPad 4 address ++ tail))))

/-- What the server writes after the address. -/
def messageTail (m : Message) : Text :=
  "  ".toList ++ match m.type with
    | .data => ':' :: Message.bodyText m.body
    | .request => ['?']

theorem serialize_eq_deviceLine (m : Message) :
    m.serialize = deviceLine m.deviceId.toNat m.address.toNat (messageTail m) :=
  m.serialize_eq_fieldLine

/-- A packet is short enough for all its bytes to be written. -/
theorem dataText_eq_bodyText : ∀ (data : List UInt8) (pos : ℕ),
    pos + 2 * data.length ≤ maxMessageSize - 4 → dataText pos data = Message.bodyText data := by
  intro data
  induction data with
  | nil => intro pos _; rfl
  | cons b data ih =>
    intro pos h
    rw [List.length_cons] at h
    rw [dataText, if_neg (by omega), ih (pos + 2) (by omega)]
    rfl

theorem canPacketLine_eq_deviceLine {p : CanPacket} (hp : p.id ≠ specialIdUpdate) :
    canPacketLine p = deviceLine (numberToPacketId p.id).deviceId.toNat
      (numberToPacketId p.id).address.toNat ("  =".toList ++ Message.bodyText p.data) := by
  have hd := (numberToPacketId p.id).deviceId.isLt
  have hlen : (packetHead p).length = 20 := by
    rw [packetHead, if_neg hp]
    simp only [List.length_append, length_hexPad (w := 2) (by decide)
      (show (numberToPacketId p.id).deviceId.toNat < 16 ^ 2 by omega),
      length_hexPad (w := 4) (by decide) (numberToPacketId p.id).address.toNat_lt]
    rfl
  have hdata := p.data.2
  rw [canPacketLine, hlen, dataText_eq_bodyText p.data 20 (by rw [maxMessageSize]; omega),
    packetHead, if_neg hp]
  simp only [deviceLine, List.append_assoc]
  rfl

/-! ### The parser of the CAN master -/

theorem parsePacket_deviceLine {deviceId address : ℕ} (hd : deviceId < 256) (ha : address < 65536)
    {tail : Text} (htail : Stops tail) :
    parsePacket (deviceLine deviceId address tail) =
      if '?' ∈ tail then
        some (⟨packetIdToNumber ⟨0, BitVec.ofNat 7 deviceId, UInt16.ofNat address⟩, Body.nil⟩, true)
      else (strchr tail '=').map fun ptr =>
        (⟨packetIdToNumber ⟨0, BitVec.ofNat 7 deviceId, UInt16.ofNat address⟩,
          ⟨readData 8 (ptr.drop 1), length_readData_le 8 _⟩⟩, false) := by
  have hline := parsePacket_registerText (length_hexPad (w := 2) (by decide) hd)
    (fun _ => isHex_of_mem_hexPad) (fun _ => isHex_of_mem_hexPad) (hexPad_ne_nil 4 address)
    (length_hexPad (by decide) ha).le htail
  simp only [ofHex_hexPad] at hline
  exact hline

/-- The identifier the master builds decodes to what the line names. -/
theorem numberToPacketId_line {deviceId : ℕ} (hd : deviceId ≤ 0x7f) (address : UInt16) :
    (numberToPacketId (packetIdToNumber ⟨0, BitVec.ofNat 7 deviceId, address⟩)).deviceId.toNat
        = deviceId ∧
      (numberToPacketId (packetIdToNumber ⟨0, BitVec.ofNat 7 deviceId, address⟩)).address
        = address := by
  obtain ⟨hdevice, haddress⟩ :=
    numberToPacketId_packetIdToNumber ⟨0, BitVec.ofNat 7 deviceId, address⟩
  refine ⟨?_, haddress⟩
  rw [hdevice, BitVec.toNat_ofNat]
  omega

/-! ### The parser of the server -/

/-- A line without either mark behind the address has no body field. -/
theorem create_deviceLine {deviceId address : ℕ} (hd : deviceId < 256) (ha : address < 65536)
    {tail : Text} (htail : ∀ c ∈ tail, c ≠ '?' ∧ c ≠ ':') :
    Packet.create (deviceLine deviceId address tail)
      = .error (.invalidArgument "message format error: no body field") := by
  have hline : deviceLine deviceId address tail
      = Message.fieldLine (hexPad 2 deviceId) (hexPad 4 address) tail := rfl
  have hdeserialize := Message.deserialize_unmarked (length_hexPad (by decide) hd)
    (length_hexPad (by decide) ha) Message.default htail
  rw [hline, Message.create_fieldLine, hdeserialize]
  rfl

/-! ### Agreement of the two ends -/

/-- The CAN master takes the line of a message for that message. -/
def TakenByMaster (m : Message) : Prop :=
  ∃ p request, parsePacket (m.serialize ++ "\r\n".toList) = some (p, request) ∧
    request = m.isRequest ∧
    (numberToPacketId p.id).deviceId.toNat = m.deviceId.toNat ∧
    (numberToPacketId p.id).address = m.address ∧
    (m.type = .data → p.data = m.body)

/-- The server takes the line of a CAN packet for a value with the same content. -/
def TakenByServer (p : CanPacket) : Prop :=
  ∃ m, Packet.create (canPacketLine p) = .ok (.message m) ∧ m.type = .data ∧
    m.deviceId.toNat = (numberToPacketId p.id).deviceId.toNat ∧
    m.address = (numberToPacketId p.id).address ∧ m.body = p.data

theorem serialize_append (m : Message) (ending : Text) :
    m.serialize ++ ending
      = deviceLine m.deviceId.toNat m.address.toNat (messageTail m ++ ending) := by
  rw [serialize_eq_deviceLine]
  simp only [deviceLine, List.append_assoc]

/-- The master finds no mark in the line of a value. -/
theorem parsePacket_data {m : Message} (hm : m.type = .data) :
    parsePacket (m.serialize ++ "\r\n".toList) = none := by
  have htail : messageTail m ++ "\r\n".toList
      = ' ' :: (" :".toList ++ (Message.bodyText m.body ++ "\r\n".toList)) := by
    rw [messageTail, hm]
    rfl
  have habsent : ∀ c : Char, c ∉ "  :\r\n".toList → isHex c = false →
      c ∉ messageTail m ++ "\r\n".toList := by
    intro c hc hhex hmem
    have hbody : c ∉ Message.bodyText m.body := fun h =>
      ne_of_isHex (isHex_of_mem_bodyText h) hhex rfl
    rw [htail] at hmem
    simp_all
  have hstops : Stops (messageTail m ++ "\r\n".toList) := by
    rw [htail]
    exact stops_cons _ (by decide)
  rw [serialize_append, parsePacket_deviceLine m.deviceId.toNat_lt m.address.toNat_lt hstops,
    if_neg (habsent '?' (by decide) (by decide)),
    strchr_eq_none_iff.mpr (habsent '=' (by decide) (by decide)), Option.map_none]

/-- The master reads a request as it was written. -/
theorem parsePacket_request {m : Message} (hm : m.type = .request) :
    parsePacket (m.serialize ++ "\r\n".toList)
      = some (⟨packetIdToNumber ⟨0, BitVec.ofNat 7 m.deviceId.toNat, m.address⟩, Body.nil⟩,
        true) := by
  have htail : messageTail m ++ "\r\n".toList = "  ?\r\n".toList := by
    rw [messageTail, hm]
    rfl
  have hstops : Stops "  ?\r\n".toList := stops_cons _ (by decide)
  rw [serialize_append, htail, parsePacket_deviceLine m.deviceId.toNat_lt m.address.toNat_lt hstops,
    if_pos (by decide), UInt16.ofNat_toNat]

theorem takenByMaster_iff {m : Message} (hd : m.deviceId.toNat ≤ 0x7f) :
    TakenByMaster m ↔ m.isRequest = true := by
  cases hm : m.type with
  | data =>
    have hnone := parsePacket_data hm
    constructor
    · rintro ⟨p, request, hsome, -⟩
      rw [hnone] at hsome
      cases hsome
    · intro hrequest
      simp [Message.isRequest, hm] at hrequest
  | request =>
    obtain ⟨hdevice, haddress⟩ := numberToPacketId_line hd m.address
    refine ⟨fun _ => by simp [Message.isRequest, hm], fun hrequest => ?_⟩
    exact ⟨_, _, parsePacket_request hm, hrequest.symm, hdevice, haddress, fun h => by
      rw [hm] at h; cases h⟩

/-- The mark of the master is none the server knows. -/
theorem not_takenByServer {p : CanPacket} (hp : p.id ≠ specialIdUpdate) : ¬ TakenByServer p := by
  rintro ⟨m, hm, -⟩
  have hd := (numberToPacketId p.id).deviceId.isLt
  have htail : ∀ c ∈ "  =".toList ++ Message.bodyText p.data, c ≠ '?' ∧ c ≠ ':' := by
    intro c hc
    rcases List.mem_append.mp hc with hc | hc
    · obtain rfl | rfl : c = ' ' ∨ c = '=' := by simpa using hc
      · decide
      · decide
    · have hhex := isHex_of_mem_bodyText hc
      exact ⟨ne_of_isHex hhex (by decide), ne_of_isHex hhex (by decide)⟩
  rw [canPacketLine_eq_deviceLine hp,
    create_deviceLine (by omega) (numberToPacketId p.id).address.toNat_lt htail] at hm
  cases hm

/-- **What passes over the link.**  The master takes exactly the requests among the
lines of the server, and the server takes no line of the master. -/
theorem deviceLine_agreement (m : Message) (p : CanPacket) :
    (m.deviceId.toNat ≤ 0x7f → (m.type = .request → m.body = Body.nil) →
      (TakenByMaster m ↔ m.isRequest = true)) ∧
    (p.id ≠ specialIdUpdate → ¬ TakenByServer p) :=
  ⟨fun hd _ => takenByMaster_iff hd, not_takenByServer⟩

/-- A value of one byte for address `0x0102` of device 5. -/
def sampleValue : Message := ⟨.data, 5, 0x0102, Body.single 0x2a⟩

/-- The same value as the master would send it. -/
def samplePacket : CanPacket := ⟨packetIdToNumber ⟨0, 5, 0x0102⟩, ⟨[0x2a], by decide⟩⟩

/-- A request crosses the link; a value crosses it in neither direction. -/
theorem deviceLine_agreement_sample :
    TakenByMaster { sampleValue with type := .request, body := Body.nil } ∧
      ¬ TakenByServer samplePacket := by
  obtain ⟨hmaster, hserver⟩ :=
    deviceLine_agreement { sampleValue with type := .request, body := Body.nil } samplePacket
  exact ⟨(hmaster (by decide) (fun _ => rfl)).mpr (by decide), hserver (by decide)⟩

/-- The value is lost in both directions: the master rejects its line, and the
server rejects the line of the master. -/
theorem value_lost_on_link :
    (sampleValue.deviceId.toNat ≤ 0x7f ∧ ¬ TakenByMaster sampleValue) ∧
      samplePacket.id ≠ specialIdUpdate ∧ ¬ TakenByServer samplePacket := by
  have hmaster : parsePacket (sampleValue.serialize ++ "\r\n".toList) = none := by decide
  have hserver : Packet.create (canPacketLine samplePacket)
      = .error (.invalidArgument "message format error: no body field") := by decide
  refine ⟨⟨by decide, ?_⟩, by decide, ?_⟩
  · rintro ⟨p, request, hsome, -⟩
    rw [hmaster] at hsome
    cases hsome
  · rintro ⟨m, hok, -⟩
    rw [hserver] at hok
    cases hok

end DeviceLink
end HomeAutomation
