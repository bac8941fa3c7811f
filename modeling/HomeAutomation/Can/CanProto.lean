import Mathlib.Data.Nat.Bitwise
import HomeAutomation.Util.Outcome

/-!
# CAN packet identifiers

The 29-bit identifier of a CAN frame carries a priority, the device id and a
device-specific address.  The header shared by the firmware and the server packs
and unpacks it; the device id is a bit field of seven bits.

## Main definitions

* `PacketId` — the unpacked identifier.
* `packetIdToNumber`, `numberToPacketId` — packing and unpacking.

## Main results

* `toNat_packetIdToNumber` — the packed identifier as a sum.
* `toNat_numberToPacketId` — the fields of an identifier as remainders.
* `numberToPacketId_packetIdToNumber` — unpacking undoes packing.

## References

`shared/include/ha/can_proto.h`.
-/

namespace HomeAutomation

/-- `HA_CAN_PacketId`.  The reserved bit is one in every packed identifier. -/
structure PacketId where
  priority : UInt8
  deviceId : BitVec 7
  address : UInt16
  deriving DecidableEq

/-- `HA_CAN_packet_id_to_number`. -/
def packetIdToNumber (p : PacketId) : UInt32 :=
  ((p.priority &&& 0x0f).toUInt32 <<< 24) ||| ((1 : UInt32) <<< 23) |||
    (UInt32.ofNat p.deviceId.toNat <<< 16) ||| p.address.toUInt32

/-- `HA_CAN_number_to_packet_id`. -/
def numberToPacketId (value : UInt32) : PacketId where
  priority := ((value >>> 24) &&& 0x0f).toUInt8
  deviceId := BitVec.ofNat 7 ((value >>> 16) &&& 0x7f).toNat
  address := (value &&& 0xffff).toUInt16

/-- `HA_CAN_SpecialId_Update`. -/
def specialIdUpdate : UInt32 := 0x1fffffff

/-- A sum of bits in separate places is their disjunction. -/
theorem packed_eq_add {q d a : ℕ} (hd : d < 128) (ha : a < 65536) :
    (q <<< 24 ||| 1 <<< 23 ||| d <<< 16 ||| a) = q * 2 ^ 24 + 2 ^ 23 + d * 2 ^ 16 + a := by
  have h1 : q <<< 24 ||| 1 <<< 23 = q <<< 24 + 2 ^ 23 :=
    (Nat.shiftLeft_add_eq_or_of_lt (by decide) q).symm
  have h2 : (q <<< 24 + 2 ^ 23) ||| d <<< 16 = (2 * q + 1) <<< 23 + d <<< 16 := by
    rw [show q <<< 24 + 2 ^ 23 = (2 * q + 1) <<< 23 by simp only [Nat.shiftLeft_eq]; omega]
    refine (Nat.shiftLeft_add_eq_or_of_lt ?_ _).symm
    rw [Nat.shiftLeft_eq]
    omega
  have h3 : ((2 * q + 1) <<< 23 + d <<< 16) ||| a = (128 * (2 * q + 1) + d) <<< 16 + a := by
    rw [show (2 * q + 1) <<< 23 + d <<< 16 = (128 * (2 * q + 1) + d) <<< 16 by
      simp only [Nat.shiftLeft_eq]; omega]
    exact (Nat.shiftLeft_add_eq_or_of_lt (by omega) _).symm
  rw [h1, h2, h3, Nat.shiftLeft_eq]
  omega

/-- **The packed identifier as a sum.** -/
theorem toNat_packetIdToNumber (p : PacketId) :
    (packetIdToNumber p).toNat
      = p.priority.toNat % 16 * 2 ^ 24 + 2 ^ 23 + p.deviceId.toNat * 2 ^ 16 + p.address.toNat := by
  have hd := p.deviceId.isLt
  have ha := p.address.toNat_lt
  have hpriority : ((p.priority &&& 0x0f).toUInt32 <<< 24).toNat
      = (p.priority.toNat % 16) <<< 24 := by
    have hp : (p.priority &&& 0x0f).toNat = p.priority.toNat % 16 := by
      rw [UInt8.toNat_and]
      exact Nat.and_two_pow_sub_one_eq_mod p.priority.toNat 4
    simp only [UInt32.toNat_shiftLeft, UInt8.toNat_toUInt32, hp, UInt32.reduceToNat, Nat.reduceMod,
      Nat.shiftLeft_eq]
    omega
  have hdevice : (UInt32.ofNat p.deviceId.toNat <<< 16).toNat = p.deviceId.toNat <<< 16 := by
    simp only [UInt32.toNat_shiftLeft, UInt32.toNat_ofNat', UInt32.reduceToNat, Nat.reduceMod,
      Nat.shiftLeft_eq]
    omega
  have hreserved : ((1 : UInt32) <<< 23).toNat = 1 <<< 23 := by decide
  rw [packetIdToNumber, UInt32.toNat_or, UInt32.toNat_or, UInt32.toNat_or, hpriority, hdevice,
    hreserved, UInt16.toNat_toUInt32, packed_eq_add hd ha]

/-- **The fields of an identifier** as remainders. -/
theorem toNat_numberToPacketId (id : UInt32) :
    (numberToPacketId id).deviceId.toNat = id.toNat / 2 ^ 16 % 2 ^ 7 ∧
      (numberToPacketId id).address.toNat = id.toNat % 2 ^ 16 := by
  constructor
  · have hbits : ((id >>> 16) &&& 0x7f).toNat = id.toNat / 2 ^ 16 % 2 ^ 7 := by
      rw [UInt32.toNat_and, UInt32.toNat_shiftRight]
      exact (Nat.and_two_pow_sub_one_eq_mod _ 7).trans (by rw [Nat.shiftRight_eq_div_pow]; rfl)
    rw [numberToPacketId, BitVec.toNat_ofNat, hbits, Nat.mod_mod]
  · have hbits : (id &&& 0xffff).toNat = id.toNat % 2 ^ 16 := by
      rw [UInt32.toNat_and]
      exact Nat.and_two_pow_sub_one_eq_mod _ 16
    rw [numberToPacketId, UInt32.toNat_toUInt16, hbits, Nat.mod_mod]

/-- **Unpacking undoes packing**, but for the priority bits that have no room. -/
theorem numberToPacketId_packetIdToNumber (p : PacketId) :
    (numberToPacketId (packetIdToNumber p)).deviceId = p.deviceId ∧
      (numberToPacketId (packetIdToNumber p)).address = p.address := by
  have hn := toNat_packetIdToNumber p
  have hd := p.deviceId.isLt
  have ha := p.address.toNat_lt
  obtain ⟨hdevice, haddress⟩ := toNat_numberToPacketId (packetIdToNumber p)
  constructor
  · apply BitVec.eq_of_toNat_eq
    omega
  · apply UInt16.toNat_inj.mp
    omega

end HomeAutomation
