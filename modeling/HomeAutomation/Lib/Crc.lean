import Mathlib.Data.List.Basic
import Mathlib.Logic.Function.Iterate

/-!
# Cyclic redundancy checks

A check register of `w` bits is shifted to the right, bit by bit; a bit that falls out
and is not what comes in feeds the polynomial back, in reflected form.  Symbols of `w`
bits go in least significant bit first, from a register that is zero.

Eight shifts for a byte are a linear map of the register, so a table of its values can
take their place.  It is injective when the polynomial has its highest bit, and then the
check notices every change of a single symbol.

## Main definitions

* `shift`, `feedBit` — one shift, without a bit that comes in and with one.
* `serial` — the check, bit by bit.
* `byTable` — the check, by a table with an entry for each symbol.

## Main results

* `feedBits_eq` — the bits of a symbol, all at once.
* `byTable_eq_serial` — a table of the shifts computes the check.
* `serial_append_self` — a sequence with its check behind it has the check zero.
* `shift_injective`, `serial_ne_of_symbol_ne` — a single wrong symbol.
* `serial_ne` — sequences that differ in one place.
-/

namespace HomeAutomation
namespace Crc

variable {w : ℕ} (poly : BitVec w)

/-- One shift of the register. -/
def shift (r : BitVec w) : BitVec w :=
  if r.getLsbD 0 then (r >>> 1) ^^^ poly else r >>> 1

/-- One shift, with a bit that comes in. -/
def feedBit (r : BitVec w) (b : Bool) : BitVec w :=
  if xor (r.getLsbD 0) b then (r >>> 1) ^^^ poly else r >>> 1

/-- The first `n` bits of a symbol, the least significant one first. -/
def bits (n : ℕ) (x : BitVec w) : List Bool := (List.range n).map x.getLsbD

/-- The bits of a symbol come in. -/
def feed (r x : BitVec w) : BitVec w := (bits w x).foldl (feedBit poly) r

/-- **The check, bit by bit**: all bits of all symbols, from a register that is zero. -/
def serial (xs : List (BitVec w)) : BitVec w := xs.foldl (feed poly) 0

/-- **The check, by a table**: the entry for the symbol mixed with the register. -/
def byTable (table : BitVec w → BitVec w) (xs : List (BitVec w)) : BitVec w :=
  xs.foldl (fun r x => table (r ^^^ x)) 0

/-! ### Bits of a symbol -/

theorem bits_succ (n : ℕ) (x : BitVec w) : bits (n + 1) x = bits n x ++ [x.getLsbD n] := by
  rw [bits, List.range_succ, List.map_append]
  rfl

/-- Shifting the sum of two registers is a shift of one, with the last bit of the other
coming in, and a shift to the right of the other. -/
theorem shift_xor (r y : BitVec w) :
    shift poly (r ^^^ y) = feedBit poly r (y.getLsbD 0) ^^^ y >>> 1 := by
  rw [shift, feedBit, BitVec.getLsbD_xor, BitVec.ushiftRight_xor_distrib]
  split
  · rw [BitVec.xor_assoc, BitVec.xor_comm (y >>> 1) poly, BitVec.xor_assoc]
  · rfl

/-- **The first bits of a symbol**: the shifts of its sum with the register, but for the
bits of the symbol that are still to come. -/
theorem iterate_shift_xor (r x : BitVec w) (n : ℕ) :
    (shift poly)^[n] (r ^^^ x) = (bits n x).foldl (feedBit poly) r ^^^ x >>> n := by
  induction n with
  | zero => simp [bits]
  | succ n ih =>
    have hbit : (x >>> n).getLsbD 0 = x.getLsbD n := by simp
    rw [Function.iterate_succ_apply', ih, shift_xor, hbit, bits_succ, List.foldl_append,
      BitVec.shiftRight_add]
    rfl

/-- **The bits of a symbol, all at once.** -/
theorem feedBits_eq (r x : BitVec w) : feed poly r x = (shift poly)^[w] (r ^^^ x) := by
  have hgone : x >>> w = 0#w := BitVec.ushiftRight_eq_zero (Nat.le_refl w)
  rw [iterate_shift_xor, hgone, BitVec.xor_zero]
  rfl

/-- **A table of the shifts computes the check.** -/
theorem byTable_eq_serial {table : BitVec w → BitVec w}
    (h : ∀ x, table x = (shift poly)^[w] x) (xs : List (BitVec w)) :
    byTable table xs = serial poly xs := by
  have hfold : (fun r x => table (r ^^^ x)) = feed poly := by
    funext r x
    rw [h, feedBits_eq]
  rw [byTable, serial, hfold]

/-! ### The check of a sequence with its check -/

theorem shift_zero : shift poly 0#w = 0#w := by
  rw [shift, if_neg (by simp), BitVec.zero_ushiftRight]

theorem iterate_shift_zero (n : ℕ) : (shift poly)^[n] 0#w = 0#w :=
  Function.iterate_fixed (shift_zero poly) n

/-- **A sequence with its check behind it** has the check zero. -/
theorem serial_append_self (xs : List (BitVec w)) :
    serial poly (xs ++ [serial poly xs]) = 0#w := by
  rw [serial, List.foldl_append]
  change feed poly (serial poly xs) (serial poly xs) = 0#w
  rw [feedBits_eq, BitVec.xor_self, iterate_shift_zero]

/-! ### Wrong symbols -/

/-- **The shift is injective** when the polynomial has its highest bit: that bit of the
result tells whether the polynomial was fed back. -/
theorem shift_injective (hpoly : poly.getLsbD (w - 1) = true) :
    Function.Injective (shift poly) := by
  -- nothing is shifted into the highest bit
  have hhigh : ∀ r : BitVec w, (shift poly r).getLsbD (w - 1) = r.getLsbD 0 := by
    intro r
    have hw : w ≠ 0 := by
      rintro rfl
      simp at hpoly
    have hempty : (r >>> 1).getLsbD (w - 1) = false := by
      rw [BitVec.getLsbD_ushiftRight]
      exact BitVec.getLsbD_of_ge _ _ (by omega)
    rw [shift]
    cases r.getLsbD 0 with
    | true => rw [if_pos rfl, BitVec.getLsbD_xor, hempty, hpoly]; rfl
    | false => rw [if_neg Bool.false_ne_true, hempty]
  intro r s h
  -- so the lowest bits agree
  have hlow : r.getLsbD 0 = s.getLsbD 0 := by rw [← hhigh r, ← hhigh s, h]
  -- and what the lowest bit has chosen can be taken back
  have hrest : r >>> 1 = s >>> 1 := by
    rw [shift, shift, hlow] at h
    split at h
    · exact (BitVec.xor_left_inj poly).mp h
    · exact h
  refine BitVec.eq_of_getLsbD_eq fun i hi => ?_
  cases i with
  | zero => exact hlow
  | succ i =>
    have hbit := congrArg (fun v : BitVec w => v.getLsbD i) hrest
    simpa [Nat.add_comm] using hbit

/-- A symbol is told from another by what it makes of the register. -/
theorem feed_right_injective (hpoly : poly.getLsbD (w - 1) = true) (r : BitVec w) :
    Function.Injective (feed poly r) := by
  intro x y h
  rw [feedBits_eq, feedBits_eq] at h
  have hxor := (shift_injective poly hpoly).iterate w h
  exact (BitVec.xor_right_inj r).mp hxor

/-- A register is told from another behind any symbols. -/
theorem foldl_feed_injective (hpoly : poly.getLsbD (w - 1) = true) (xs : List (BitVec w)) :
    Function.Injective fun r => xs.foldl (feed poly) r := by
  induction xs with
  | nil => exact fun _ _ h => h
  | cons x xs ih =>
    intro r s h
    have hfeed : feed poly r x = feed poly s x := ih h
    rw [feedBits_eq, feedBits_eq] at hfeed
    have hxor := (shift_injective poly hpoly).iterate w hfeed
    exact (BitVec.xor_left_inj x).mp hxor

/-- Two sequences of one length that differ in exactly one place. -/
theorem exists_symbol_ne {α : Type*} {xs ys : List α} (hlength : xs.length = ys.length)
    (h : ∃! i : ℕ, xs[i]? ≠ ys[i]?) :
    ∃ before x y after, x ≠ y ∧ xs = before ++ x :: after ∧ ys = before ++ y :: after := by
  obtain ⟨i, hne, hunique⟩ := h
  have hsame : ∀ j, j ≠ i → xs[j]? = ys[j]? := fun j hj => not_not.mp fun hne => hj (hunique j hne)
  have hi : i < xs.length := by
    by_contra hi
    rw [List.getElem?_eq_none (by omega), List.getElem?_eq_none (by omega)] at hne
    exact hne rfl
  have hi' : i < ys.length := hlength ▸ hi
  -- the list is cut at the one place that differs
  refine ⟨xs.take i, xs[i], ys[i], xs.drop (i + 1), ?_, ?_, ?_⟩
  · rwa [List.getElem?_eq_getElem hi, List.getElem?_eq_getElem hi', ne_eq, Option.some.injEq] at hne
  · rw [List.getElem_cons_drop, List.take_append_drop]
  · have htake : xs.take i = ys.take i := by
      refine List.ext_getElem? fun j => ?_
      rw [List.getElem?_take, List.getElem?_take]
      split
      · next hj => exact hsame j (Nat.ne_of_lt hj)
      · rfl
    have hdrop : xs.drop (i + 1) = ys.drop (i + 1) := by
      refine List.ext_getElem? fun j => ?_
      rw [List.getElem?_drop, List.getElem?_drop]
      exact hsame _ (by omega)
    rw [htake, hdrop, List.getElem_cons_drop, List.take_append_drop]

/-- **A single wrong symbol changes the check.** -/
theorem serial_ne_of_symbol_ne (hpoly : poly.getLsbD (w - 1) = true)
    (before after : List (BitVec w)) {x y : BitVec w} (h : x ≠ y) :
    serial poly (before ++ x :: after) ≠ serial poly (before ++ y :: after) := by
  intro heq
  rw [serial, serial, List.foldl_append, List.foldl_append, List.foldl_cons, List.foldl_cons] at heq
  exact h (feed_right_injective poly hpoly _ (foldl_feed_injective poly hpoly after heq))

/-- **Sequences that differ in exactly one place** have different checks. -/
theorem serial_ne (hpoly : poly.getLsbD (w - 1) = true) {xs ys : List (BitVec w)}
    (hlength : xs.length = ys.length) (h : ∃! i : ℕ, xs[i]? ≠ ys[i]?) :
    serial poly xs ≠ serial poly ys := by
  obtain ⟨before, x, y, after, hne, rfl, rfl⟩ := exists_symbol_ne hlength h
  exact serial_ne_of_symbol_ne poly hpoly before after hne

end Crc
end HomeAutomation
