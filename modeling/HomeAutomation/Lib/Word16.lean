import Mathlib.Data.Nat.Bitwise

/-!
# Sixteen-bit numbers and their bytes

## Main definitions

* `join` — the number of a high and a low byte, by shift and disjunction.
* `high`, `low` — the bytes of a number.

## Main results

* `join_high_low`, `high_join`, `low_join` — the two are inverse.
* `toInt_toInt16` — the two's complement value.
-/

namespace HomeAutomation
namespace Word16

/-- The number with the given bytes. -/
def join (hi lo : UInt8) : UInt16 := (hi.toUInt16 <<< 8) ||| lo.toUInt16

/-- The high byte. -/
def high (x : UInt16) : UInt8 := (x >>> 8).toUInt8

/-- The low byte. -/
def low (x : UInt16) : UInt8 := (x &&& 0xff).toUInt8

theorem toNat_join (hi lo : UInt8) : (join hi lo).toNat = hi.toNat * 256 + lo.toNat := by
  have hhi := hi.toNat_lt
  have hlo := lo.toNat_lt
  have hshift : (hi.toUInt16 <<< 8).toNat = hi.toNat <<< 8 := by
    rw [UInt16.toNat_shiftLeft, UInt8.toNat_toUInt16]
    simp only [UInt16.reduceToNat, Nat.reduceMod, Nat.shiftLeft_eq]
    omega
  rw [join, UInt16.toNat_or, hshift, UInt8.toNat_toUInt16,
    ← Nat.shiftLeft_add_eq_or_of_lt hlo, Nat.shiftLeft_eq]

theorem toNat_high (x : UInt16) : (high x).toNat = x.toNat / 256 := by
  have hx := x.toNat_lt
  rw [high, UInt16.toNat_toUInt8, UInt16.toNat_shiftRight]
  simp only [UInt16.reduceToNat, Nat.reduceMod, Nat.shiftRight_eq_div_pow]
  omega

theorem toNat_low (x : UInt16) : (low x).toNat = x.toNat % 256 := by
  rw [low, UInt16.toNat_toUInt8, UInt16.toNat_and]
  have hmask : x.toNat &&& (0xff : UInt16).toNat = x.toNat % 256 :=
    Nat.and_two_pow_sub_one_eq_mod x.toNat 8
  rw [hmask]
  omega

@[simp] theorem join_high_low (x : UInt16) : join (high x) (low x) = x := by
  apply UInt16.toNat_inj.mp
  rw [toNat_join, toNat_high, toNat_low]
  omega

@[simp] theorem high_join (hi lo : UInt8) : high (join hi lo) = hi := by
  apply UInt8.toNat_inj.mp
  have hlo := lo.toNat_lt
  rw [toNat_high, toNat_join]
  omega

@[simp] theorem low_join (hi lo : UInt8) : low (join hi lo) = lo := by
  apply UInt8.toNat_inj.mp
  have hlo := lo.toNat_lt
  rw [toNat_low, toNat_join]
  omega

/-! ### Signed numbers -/

/-- The sign bit, by a mask. -/
theorem and_sign_ne_zero_iff (x : UInt16) : x &&& 0x8000 ≠ 0 ↔ 0x8000 ≤ x.toNat := by
  have hx := x.toNat_lt
  have hmask : (x &&& 0x8000).toNat = (x.toNat.testBit 15).toNat * 2 ^ 15 := by
    rw [UInt16.toNat_and]
    exact Nat.and_two_pow x.toNat 15
  rw [ne_eq, ← UInt16.toNat_inj, hmask, Nat.testBit_eq_decide_div_mod_eq]
  by_cases h : x.toNat / 2 ^ 15 % 2 = 1
  · simp only [h, decide_true, Bool.toNat_true]
    exact iff_of_true (by decide) (by omega)
  · simp only [h, decide_false, Bool.toNat_false, Nat.zero_mul]
    exact iff_of_false (by decide) (by omega)

/-- **The two's complement value** of a word. -/
theorem toInt_toInt16 (x : UInt16) :
    x.toInt16.toInt = if x.toNat < 0x8000 then (x.toNat : ℤ) else x.toNat - 0x10000 := by
  have hcond : x.toInt16.toInt
      = if 2 * x.toNat < 2 ^ 16 then (x.toNat : ℤ) else (x.toNat : ℤ) - (2 ^ 16 : ℕ) :=
    BitVec.toInt_eq_toNat_cond x.toBitVec
  rw [hcond]
  by_cases h : x.toNat < 0x8000
  · rw [if_pos h, if_pos (by omega)]
  · rw [if_neg h, if_neg (by omega)]
    rfl

end Word16
end HomeAutomation
