import Mathlib.Data.Fin.VecNotation
import HomeAutomation.Node.Effects

/-!
# The acceptance filter of the controller

The controller compares two bytes of every frame with pairs of an identifier and a mask, and
drops the frames that match none of them before the firmware sees any.  The filter is
programmed with the id of the device, whose seven bits lie in both bytes, around the bits
for a remote frame and for the format of the identifier.

## Main definitions

* `FilterBank`, `filterInit` — a bank of the controller, as the library programs it.
* `FilterBank.accepts` — what the controller makes of a bank of two pairs.
* `canInit` — the bank that the firmware programs.

## Main results

* `accepts_iff` — the frames that pass, in numbers.
* `filter_transparent` — the filter drops nothing that the firmware handles.
* `handle_of_not_accepted` — a frame that is dropped would have been left alone.

## References

`stm8/can_node/can.c`, `stm8/libstm8s/src/stm8s_can.c`, `shared/include/ha/can_proto.h`.
-/

namespace HomeAutomation
namespace Node

/-! ### The controller -/

/-- `CAN_FilterScale_TypeDef`. -/
inductive FilterScale
  | scale8 | scale16_8 | scale16 | scale32
  deriving DecidableEq, Repr

/-- `CAN_FilterMode_TypeDef`. -/
inductive FilterMode
  | idMask | idMaskIdList | idListIdMask | idList
  deriving DecidableEq, Repr

/-- A bank of filters: whether it is active, its mode and its scale, and its registers from
`FR01` on. -/
structure FilterBank where
  active : Bool := false
  mode : FilterMode := .idMask
  scale : FilterScale := .scale8
  registers : Fin 8 → UInt8 := fun _ => 0

/-- `CAN_FilterInit`, of the bank 0. -/
def filterInit (activation : Bool) (mode : FilterMode) (scale : FilterScale)
    (id1 id2 id3 id4 mask1 mask2 mask3 mask4 : UInt8) : FilterBank where
  active := activation
  mode := mode
  scale := scale
  registers :=
    match scale with
    | .scale8 => ![id1, mask1, id2, mask2, id3, mask3, id4, mask4]
    | .scale16_8 => ![id1, id2, mask1, mask2, id3, mask3, id4, mask4]
    | .scale16 => ![id1, id2, mask1, mask2, id3, id4, mask3, mask4]
    | .scale32 => ![id1, id2, id3, id4, mask1, mask2, mask3, mask4]

/-- The bits 28 to 21 of an identifier. -/
def frameHi (id : UInt32) : UInt8 := (id >>> 21).toUInt8

/-- The bits 20 to 18 of the identifier of an extended frame, the bits for a remote frame
and for the format, and the bits 17 to 15. -/
def frameLo (id : UInt32) (rtr : Bool) : UInt8 :=
  (((id >>> 18) &&& 7).toUInt8 <<< 5) ||| (if rtr then (0x10 : UInt8) else 0) |||
    (0x08 : UInt8) ||| ((id >>> 15) &&& 7).toUInt8

/-- A byte has the bits of an identifier wherever the mask asks for them. -/
def matchesMask (id mask x : UInt8) : Bool := x &&& mask == id &&& mask

/-- What the controller makes of an extended frame, by a bank of two pairs of sixteen bits;
only such a bank is ever programmed here. -/
def FilterBank.accepts (bank : FilterBank) (id : UInt32) (rtr : Bool) : Bool :=
  bank.active && bank.mode == .idMask && bank.scale == .scale16 &&
    (matchesMask (bank.registers 0) (bank.registers 2) (frameHi id) &&
        matchesMask (bank.registers 1) (bank.registers 3) (frameLo id rtr) ||
      matchesMask (bank.registers 4) (bank.registers 6) (frameHi id) &&
        matchesMask (bank.registers 5) (bank.registers 7) (frameLo id rtr))

/-! ### The firmware -/

/-- `dev_hi` of `CAN_Node_CAN_init`. -/
def devHi (deviceId : UInt8) : UInt8 := ((deviceId >>> 5) &&& (0x03 : UInt8)) ||| 0

/-- `dev_lo` of `CAN_Node_CAN_init`. -/
def devLo (deviceId : UInt8) : UInt8 :=
  ((deviceId <<< 3) &&& (0xe0 : UInt8)) ||| ((deviceId <<< 1) &&& (6 : UInt8)) ||| 0

/-- `CAN_Node_CAN_init`: the bank 0, when the controller could be initialised. -/
def canInit (success : Bool) (deviceId : UInt8) : FilterBank :=
  if success then
    filterInit true .idMask .scale16 (devHi deviceId) (devLo deviceId) 0xff 0xef
      0x03 0xe6 0xff 0xef
  else {}

/-! ### Bytes as numbers -/

theorem toNat_and_03 (x : UInt8) : (x &&& 0x03).toNat = x.toNat % 4 :=
  (UInt8.toNat_and _ _).trans (Nat.and_two_pow_sub_one_eq_mod x.toNat 2)

theorem toNat_and_e6 (x : UInt8) :
    (x &&& 0xe6).toNat = x.toNat / 32 * 32 + x.toNat / 2 % 4 * 2 := by
  have hbyte : ∀ b : BitVec 8,
      (b &&& 0xe6#8).toNat = b.toNat / 32 * 32 + b.toNat / 2 % 4 * 2 := by decide +kernel
  exact hbyte x.toBitVec

theorem toNat_and_ef (x : UInt8) :
    (x &&& 0xef).toNat = x.toNat / 32 * 32 + x.toNat % 16 := by
  have hbyte : ∀ b : BitVec 8,
      (b &&& 0xef#8).toNat = b.toNat / 32 * 32 + b.toNat % 16 := by decide +kernel
  exact hbyte x.toBitVec

theorem toNat_devHi (deviceId : UInt8) : (devHi deviceId).toNat = deviceId.toNat / 32 % 4 := by
  have hbyte : ∀ b : BitVec 8, (devHi ⟨b⟩).toNat = b.toNat / 32 % 4 := by decide +kernel
  exact hbyte deviceId.toBitVec

theorem toNat_devLo (deviceId : UInt8) :
    (devLo deviceId).toNat = deviceId.toNat / 4 % 8 * 32 + deviceId.toNat % 4 * 2 := by
  have hbyte : ∀ b : BitVec 8,
      (devLo ⟨b⟩).toNat = b.toNat / 4 % 8 * 32 + b.toNat % 4 * 2 := by decide +kernel
  exact hbyte deviceId.toBitVec

theorem toNat_frameHi (id : UInt32) : (frameHi id).toNat = id.toNat / 2 ^ 21 % 256 := by
  rw [frameHi, UInt32.toNat_toUInt8, UInt32.toNat_shiftRight]
  exact congrArg (· % 256) (Nat.shiftRight_eq_div_pow _ _)

/-- Three bits of an identifier. -/
theorem toNat_three_bits (id : UInt32) {k : ℕ} (hk : k < 32) :
    ((id >>> UInt32.ofNat k) &&& 7).toNat = id.toNat / 2 ^ k % 8 := by
  have hshift : (UInt32.ofNat k).toNat % 32 = k := by
    rw [UInt32.toNat_ofNat']
    omega
  rw [UInt32.toNat_and, UInt32.toNat_shiftRight, hshift, Nat.shiftRight_eq_div_pow]
  exact Nat.and_two_pow_sub_one_eq_mod _ 3

/-- The fields of the low byte. -/
theorem toNat_frameLo (id : UInt32) (rtr : Bool) :
    (frameLo id rtr).toNat
      = id.toNat / 2 ^ 18 % 8 * 32 + (if rtr then 16 else 0) + 8 + id.toNat / 2 ^ 15 % 8 := by
  have hbytes : ∀ (a c : Fin 8) (rtr : Bool),
      ((UInt8.ofNat a <<< 5) ||| (if rtr then (0x10 : UInt8) else 0) |||
          (0x08 : UInt8) ||| UInt8.ofNat c).toNat
        = a * 32 + (if rtr then 16 else 0) + 8 + c := by decide +kernel
  have hhigh : ((id >>> 18) &&& 7).toUInt8 = UInt8.ofNat (id.toNat / 2 ^ 18 % 8) := by
    rw [← toNat_three_bits id (k := 18) (by decide)]
    rfl
  have hlow : ((id >>> 15) &&& 7).toUInt8 = UInt8.ofNat (id.toNat / 2 ^ 15 % 8) := by
    rw [← toNat_three_bits id (k := 15) (by decide)]
    rfl
  rw [frameLo, hhigh, hlow]
  exact hbytes ⟨_, Nat.mod_lt _ (by decide)⟩ ⟨_, Nat.mod_lt _ (by decide)⟩ rtr

/-! ### The frames that pass -/

/-- A pair compares the whole high byte, and the low byte but for the bits it leaves out. -/
theorem accepts_canInit (deviceId : UInt8) (id : UInt32) (rtr : Bool) :
    (canInit true deviceId).accepts id rtr = true ↔
      frameHi id &&& 0x03 = devHi deviceId &&& 0x03 ∧
          frameLo id rtr &&& 0xe6 = devLo deviceId &&& 0xe6 ∨
        frameHi id &&& 0xff = 0xff &&& 0xff ∧ frameLo id rtr &&& 0xef = 0xef &&& 0xef := by
  simp only [FilterBank.accepts, matchesMask, Bool.and_eq_true, Bool.or_eq_true, beq_iff_eq]
  exact ⟨fun h => h.2, fun h => ⟨⟨⟨rfl, rfl⟩, rfl⟩, h⟩⟩

/-- The first pair matches the id of the device, whatever stands in the other bits. -/
theorem device_match_iff (deviceId : UInt8) (id : UInt32) (rtr : Bool) :
    frameHi id &&& 0x03 = devHi deviceId &&& 0x03 ∧
        frameLo id rtr &&& 0xe6 = devLo deviceId &&& 0xe6 ↔
      id.toNat / 2 ^ 16 % 2 ^ 7 = deviceId.toNat % 2 ^ 7 := by
  -- the first byte has the bits 6 and 5 of the field, the second the bits 4 to 2 and 1 to 0
  have hhigh : (frameHi id &&& 0x03).toNat = id.toNat / 2 ^ 16 / 32 % 4 := by
    rw [toNat_and_03, toNat_frameHi]
    omega
  have hlow : (frameLo id rtr &&& 0xe6).toNat
      = id.toNat / 2 ^ 16 / 4 % 8 * 32 + id.toNat / 2 ^ 16 % 4 * 2 := by
    rw [toNat_and_e6, toNat_frameLo]
    cases rtr <;> simp only [reduceIte, Bool.false_eq_true] <;> omega
  rw [← UInt8.toNat_inj, ← UInt8.toNat_inj, hhigh, hlow, toNat_and_03, toNat_and_e6, toNat_devHi,
    toNat_devLo]
  generalize id.toNat / 2 ^ 16 = field
  omega

/-- The second pair matches an identifier whose high bits are all ones. -/
theorem ones_match_iff (id : UInt32) (rtr : Bool) :
    frameHi id &&& 0xff = 0xff &&& 0xff ∧ frameLo id rtr &&& 0xef = 0xef &&& 0xef ↔
      id.toNat / 2 ^ 15 % 2 ^ 14 = 2 ^ 14 - 1 := by
  have hff : ∀ x : UInt8, (x &&& 0xff).toNat = x.toNat := fun x => by
    rw [UInt8.toNat_and]
    exact (Nat.and_two_pow_sub_one_eq_mod x.toNat 8).trans (Nat.mod_eq_of_lt x.toNat_lt)
  simp only [← UInt8.toNat_inj, hff, toNat_and_ef, toNat_frameHi, toNat_frameLo,
    UInt8.reduceToNat]
  cases rtr <;> simp only [reduceIte, Bool.false_eq_true] <;> omega

/-- **The frames that pass, in numbers**: those with the seven bits of the device in their
place, and those with ones in all bits that the filter sees. -/
theorem accepts_iff (deviceId : UInt8) (id : UInt32) (rtr : Bool) :
    (canInit true deviceId).accepts id rtr = true ↔
      id.toNat / 2 ^ 16 % 2 ^ 7 = deviceId.toNat % 2 ^ 7 ∨
        id.toNat / 2 ^ 15 % 2 ^ 14 = 2 ^ 14 - 1 := by
  rw [accepts_canInit, device_match_iff, ones_match_iff]

/-- A field of ones has a one in each of its places. -/
theorem testBit_of_ones {n k w i : ℕ} (h : n / 2 ^ k % 2 ^ w = 2 ^ w - 1) (hlow : k ≤ i)
    (hhigh : i < k + w) : n.testBit i = true := by
  have hbit : (n / 2 ^ k % 2 ^ w).testBit (i - k) = true := by
    rw [h, Nat.testBit_two_pow_sub_one]
    exact decide_eq_true (by omega)
  rw [Nat.testBit_mod_two_pow, Nat.testBit_div_two_pow, Bool.and_eq_true] at hbit
  rw [← Nat.sub_add_cancel hlow]
  exact hbit.2

/-- The identifier of the frames for all devices. -/
theorem specialIdUpdate_ones : specialIdUpdate.toNat / 2 ^ 15 % 2 ^ 14 = 2 ^ 14 - 1 := by
  decide

/-- **The filter loses nothing that the firmware handles**: every frame for the device, and
every frame for all devices, passes; and what passes is for the device or has ones in all
bits that the filter sees. -/
theorem filter_transparent {deviceId : UInt8} (hdevice : deviceId.toNat ≤ 127) (id : UInt32)
    (rtr : Bool) :
    (id = specialIdUpdate ∨ (numberToPacketId id).deviceId.toNat = deviceId.toNat →
        (canInit true deviceId).accepts id rtr = true) ∧
      ((canInit true deviceId).accepts id rtr = true →
        (numberToPacketId id).deviceId.toNat = deviceId.toNat ∨
          ∀ i, 15 ≤ i → i ≤ 28 → id.toNat.testBit i = true) := by
  have hfield := (toNat_numberToPacketId id).1
  have hmod : deviceId.toNat % 2 ^ 7 = deviceId.toNat := Nat.mod_eq_of_lt (by omega)
  rw [accepts_iff, hfield, hmod]
  constructor
  · rintro (rfl | h)
    · exact .inr specialIdUpdate_ones
    · exact .inl h
  · refine Or.imp_right fun hones i hlow hhigh => ?_
    exact testBit_of_ones hones hlow (by omega)

/-- A device in the middle of the range, for both of its kinds of frames. -/
theorem filter_transparent_middle :
    (canInit true 0x55).accepts 0x00d51234 true = true ∧
      (canInit true 0x55).accepts specialIdUpdate false = true ∧
        (canInit true 0x55).accepts 0x00d41234 true = false :=
  ⟨(filter_transparent (by decide) _ true).1 (.inr (by decide)),
    (filter_transparent (by decide) _ false).1 (.inl rfl), by decide⟩

/-- **A frame that is dropped would have been left alone** by a device of any id: only the
identifier of the frame would have been kept. -/
theorem handle_of_not_accepted {inputs : Inputs} {n : Node} {frame : CanFrame}
    (hextended : frame.extended = true)
    (h : (canInit true n.deviceId).accepts frame.receivedId frame.rtr = false) :
    n.handleReceivedData inputs frame = .ok (n.receiving frame) := by
  have hdropped : ¬ ((canInit true n.deviceId).accepts frame.receivedId frame.rtr = true) := by
    rw [h]
    exact Bool.false_ne_true
  rw [accepts_iff, not_or] at hdropped
  have hid : frame.receivedId ≠ specialIdUpdate := fun hid =>
    hdropped.2 (hid ▸ specialIdUpdate_ones)
  have haddressed : ¬ n.Addressed frame.receivedId := fun haddressed => by
    have hfield := (toNat_numberToPacketId frame.receivedId).1
    have hbits := haddressed.symm ▸ hfield
    exact hdropped.1 (by omega)
  cases handleReceivedData_reception inputs frame n with
  | standard hstandard hr => exact absurd (hstandard.symm.trans hextended) Bool.false_ne_true
  | dropped _ _ hr => exact hr
  | idRequest _ _ hupdate hr => exact absurd hupdate hid
  | idChange _ _ hupdate _ _ hr => exact absurd hupdate hid
  | own _ _ _ hown hr => exact absurd hown haddressed

end Node
end HomeAutomation
