import Mathlib.Logic.Equiv.Basic

/-!
# Codecs of a fixed size

A codec writes every value with the same number of bytes, and reads every such number of
bytes as one value, and nothing else.  Codecs stand side by side in front of each other,
and go along with a bijection of their values.

## Main definitions

* `Codec α size` — the codec, with its laws.
* `Codec.byte`, `Codec.append`, `Codec.transport` — codecs of one byte, of pairs, and
  along a bijection.

## Main results

* `Codec.decode_eq_some_iff` — what is read is what was written.
* `Codec.isSome_decode_iff` — what can be read.
* `Codec.eq_decode` — when a function is the reading of a codec.
-/

namespace HomeAutomation

/-- A way to write values of `α` as so many bytes. -/
structure Codec (α : Type*) (size : ℕ) where
  encode : α → List UInt8
  decode : List UInt8 → Option α
  length_encode : ∀ a, (encode a).length = size
  decode_encode : ∀ a, decode (encode a) = some a
  exists_of_length : ∀ bs : List UInt8, bs.length = size → ∃ a, encode a = bs
  decode_of_length_ne : ∀ bs : List UInt8, bs.length ≠ size → decode bs = none

namespace Codec

attribute [simp] length_encode decode_encode

variable {α β : Type*} {m n : ℕ}

/-- **What is read is what was written.** -/
theorem decode_eq_some_iff (C : Codec α n) {bs : List UInt8} {a : α} :
    C.decode bs = some a ↔ bs = C.encode a := by
  constructor
  · intro h
    by_cases hlength : bs.length = n
    · rcases C.exists_of_length bs hlength with ⟨b, rfl⟩
      rw [decode_encode, Option.some.injEq] at h
      rw [h]
    · rw [C.decode_of_length_ne bs hlength] at h
      cases h
  · rintro rfl
    apply C.decode_encode

/-- **What can be read**: everything of the right size. -/
theorem isSome_decode_iff (C : Codec α n) {bs : List UInt8} :
    (C.decode bs).isSome = true ↔ bs.length = n := by
  constructor
  · intro h
    rcases Option.isSome_iff_exists.mp h with ⟨a, ha⟩
    rw [C.decode_eq_some_iff.mp ha, length_encode]
  · intro h
    rcases C.exists_of_length bs h with ⟨a, rfl⟩
    simp

/-- One byte. -/
def byte : Codec UInt8 1 where
  encode b := [b]
  decode
    | [b] => some b
    | _ => none
  length_encode _ := rfl
  decode_encode _ := rfl
  exists_of_length bs h := by
    rcases List.length_eq_one_iff.mp h with ⟨b, rfl⟩
    exact ⟨b, rfl⟩
  decode_of_length_ne bs h := by
    match bs with
    | [] => rfl
    | [b] => exact absurd rfl h
    | _ :: _ :: _ => rfl

/-- Two values, one behind the other. -/
def append (C : Codec α m) (D : Codec β n) : Codec (α × β) (m + n) where
  encode x := C.encode x.1 ++ D.encode x.2
  decode bs :=
    match C.decode (bs.take m), D.decode (bs.drop m) with
    | some a, some b => some (a, b)
    | _, _ => none
  length_encode x := by simp
  decode_encode x := by
    have htake : (C.encode x.1 ++ D.encode x.2).take m = C.encode x.1 :=
      List.take_left' (C.length_encode x.1)
    have hdrop : (C.encode x.1 ++ D.encode x.2).drop m = D.encode x.2 :=
      List.drop_left' (C.length_encode x.1)
    simp [htake, hdrop]
  exists_of_length bs h := by
    have htake : (bs.take m).length = m := by simp [h]
    have hdrop : (bs.drop m).length = n := by simp [h]
    rcases C.exists_of_length _ htake with ⟨a, ha⟩
    rcases D.exists_of_length _ hdrop with ⟨b, hb⟩
    exact ⟨(a, b), by simp [ha, hb]⟩
  decode_of_length_ne bs h := by
    by_cases htake : (bs.take m).length = m
    · have hdrop : (bs.drop m).length ≠ n := by
        rw [List.length_take] at htake
        rw [List.length_drop]
        omega
      rw [D.decode_of_length_ne _ hdrop]
      cases C.decode (bs.take m) <;> rfl
    · rw [C.decode_of_length_ne _ htake]

/-- Values that stand for those of another codec. -/
def transport (C : Codec α n) (e : α ≃ β) : Codec β n where
  encode b := C.encode (e.symm b)
  decode bs := (C.decode bs).map e
  length_encode b := by simp
  decode_encode b := by simp
  exists_of_length bs h := by
    rcases C.exists_of_length bs h with ⟨a, rfl⟩
    exact ⟨e a, by simp⟩
  decode_of_length_ne bs h := by simp [C.decode_of_length_ne bs h]

/-- **A function that reads everything that a codec writes, and nothing of another size**, is
the reading of that codec. -/
theorem eq_decode (C : Codec α n) {f : List UInt8 → Option α}
    (hencode : ∀ a, f (C.encode a) = some a) (hlength : ∀ bs : List UInt8, bs.length ≠ n → f bs = none) :
    f = C.decode := by
  funext bs
  by_cases h : bs.length = n
  · rcases C.exists_of_length bs h with ⟨a, rfl⟩
    rw [hencode, decode_encode]
  · rw [hlength bs h, C.decode_of_length_ne bs h]

end Codec
end HomeAutomation
