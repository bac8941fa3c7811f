import Mathlib.Data.List.Infix
import Mathlib.Data.List.TakeWhile

/-!
# C strings in a buffer

A buffer is a list of characters of a fixed length.  Strings are written into it one behind
the other, each with the null character that ends it, over the null character of the one
before.  A write that would go past the end of the buffer has no result.

## Main definitions

* `write` — a string at a position of a buffer, with its null character.
* `strlen` — the length of the string at the start of a buffer.
* `Holds` — a buffer of some size holds a string.

## Main results

* `Holds.write`, `holds_write_start` — what a buffer holds after a write that fits.
-/

namespace HomeAutomation
namespace CString

/-- Write a string at a position, with its null character; none past the end. -/
def write (buffer : List Char) (pos : ℕ) (s : List Char) : Option (List Char) :=
  if pos + s.length + 1 ≤ buffer.length then
    some (buffer.take pos ++ s ++ '\x00' :: buffer.drop (pos + s.length + 1))
  else none

/-- `strlen`. -/
def strlen (buffer : List Char) : ℕ := (buffer.takeWhile (· ≠ '\x00')).length

/-- A buffer of the given size holds a string: the string and its null character stand at
the start. -/
structure Holds (size : ℕ) (text buffer : List Char) : Prop where
  length_eq : buffer.length = size
  begins : text ++ ['\x00'] <+: buffer
  not_mem : '\x00' ∉ text

variable {size : ℕ} {text s buffer : List Char}

theorem takeWhile_of_holds (h : Holds size text buffer) :
    buffer.takeWhile (· ≠ '\x00') = text := by
  obtain ⟨rest, hrest⟩ := h.begins
  have htext : ∀ c ∈ text, decide (c ≠ '\x00') = true := by
    intro c hc
    rw [decide_eq_true_iff]
    rintro rfl
    exact h.not_mem hc
  rw [← hrest, List.append_assoc, List.takeWhile_append_of_pos htext, List.singleton_append,
    List.takeWhile_cons_of_neg (by decide), List.append_nil]

theorem Holds.strlen (h : Holds size text buffer) : strlen buffer = text.length := by
  rw [CString.strlen, takeWhile_of_holds h]

theorem Holds.take (h : Holds size text buffer) : buffer.take text.length = text := by
  obtain ⟨rest, hrest⟩ := h.begins
  rw [← hrest, List.append_assoc, List.take_left]

/-- A write that fits, behind a text at the start of the buffer. -/
theorem holds_write_behind (htext : text <+: buffer) (hmem : '\x00' ∉ text) (hs : '\x00' ∉ s)
    (hfits : text.length + s.length + 1 ≤ buffer.length) :
    ∃ written, write buffer text.length s = some written ∧
      Holds buffer.length (text ++ s) written := by
  refine ⟨_, if_pos hfits, ?_, ?_, ?_⟩
  · simp only [List.length_append, List.length_take, List.length_cons, List.length_drop]
    omega
  · rw [← List.prefix_iff_eq_take.mp htext, List.append_assoc, List.append_assoc]
    exact ⟨buffer.drop (text.length + s.length + 1), by simp⟩
  · simp [hmem, hs]

/-- **What a buffer holds after a write** at its start. -/
theorem holds_write_start (hs : '\x00' ∉ s) (hfits : s.length + 1 ≤ buffer.length) :
    ∃ written, write buffer 0 s = some written ∧ Holds buffer.length s written :=
  holds_write_behind (List.nil_prefix) (List.not_mem_nil) hs (by simpa using hfits)

/-- **What a buffer holds after a write** behind the string that it holds. -/
theorem Holds.write (h : Holds size text buffer) (hs : '\x00' ∉ s)
    (hfits : text.length + s.length + 1 ≤ size) :
    ∃ written, write buffer text.length s = some written ∧ Holds size (text ++ s) written := by
  obtain rfl := h.length_eq
  exact holds_write_behind ((List.prefix_append text _).trans h.begins) h.not_mem hs hfits

end CString
end HomeAutomation
