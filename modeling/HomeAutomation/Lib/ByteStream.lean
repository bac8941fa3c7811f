import Mathlib.Algebra.Ring.Nat
import Mathlib.Data.List.Basic
import Mathlib.Logic.Function.Basic

/-!
# Byte streams over a memory

A stream is a memory and an offset into it; reading and writing a byte move the
offset.  What a writer wrote, a reader that starts at the same offset finds.

## Main definitions

* `ByteStream` — a memory and an offset.
* `readByte`, `writeByte`, `writeBytes` — the operations.
* `readInto` — a loop that reads one byte for each index of an array.
* `Ahead s bs` — the bytes ahead of the stream's offset are `bs`.

## Main results

* `ahead_cons` — reading takes the first byte that lies ahead.
* `memory_writeBytes_take` — what is in the memory when writing is interrupted.
* `ahead_writeBytes` — what was written lies ahead of where writing began.
* `readInto_of_ahead` — an array read from where it lies ahead is that array.
-/

namespace HomeAutomation

/-- A memory and an offset into it. -/
structure ByteStream where
  memory : ℕ → UInt8
  offset : ℕ

namespace ByteStream

/-- The byte at the offset, and the stream behind it. -/
def readByte (s : ByteStream) : UInt8 × ByteStream :=
  (s.memory s.offset, { s with offset := s.offset + 1 })

/-- A loop that reads one byte for each of the indices into an array. -/
def readInto {ι : Type*} [DecidableEq ι] :
    List ι → (ι → UInt8) → ByteStream → (ι → UInt8) × ByteStream
  | [], a, s => (a, s)
  | i :: is, a, s => readInto is (Function.update a i s.readByte.1) s.readByte.2

/-- The stream with a byte stored at the offset, behind that byte. -/
def writeByte (s : ByteStream) (b : UInt8) : ByteStream :=
  ⟨Function.update s.memory s.offset b, s.offset + 1⟩

/-- Several bytes stored one after the other. -/
def writeBytes (s : ByteStream) (bs : List UInt8) : ByteStream := bs.foldl writeByte s

@[simp] theorem writeBytes_cons (s : ByteStream) (b : UInt8) (bs : List UInt8) :
    s.writeBytes (b :: bs) = (s.writeByte b).writeBytes bs := rfl

theorem writeBytes_append (s : ByteStream) (bs cs : List UInt8) :
    s.writeBytes (bs ++ cs) = (s.writeBytes bs).writeBytes cs := List.foldl_append

/-- Writing does not touch what lies before the offset. -/
theorem memory_writeBytes_of_lt (s : ByteStream) (bs : List UInt8) {i : ℕ} (hi : i < s.offset) :
    (s.writeBytes bs).memory i = s.memory i := by
  induction bs generalizing s with
  | nil => rfl
  | cons b bs ih =>
    rw [writeBytes_cons, ih (s.writeByte b) (Nat.lt_succ_of_lt hi)]
    exact Function.update_of_ne (Nat.ne_of_lt hi) _ _

/-- Writing does not touch what lies behind what is written. -/
theorem memory_writeBytes_of_ge (s : ByteStream) (bs : List UInt8) {i : ℕ}
    (hi : s.offset + bs.length ≤ i) : (s.writeBytes bs).memory i = s.memory i := by
  induction bs generalizing s with
  | nil => rfl
  | cons b bs ih =>
    rw [List.length_cons] at hi
    rw [writeBytes_cons, ih (s.writeByte b) (by simp only [writeByte]; omega)]
    exact Function.update_of_ne (by omega) _ _

theorem offset_writeBytes (s : ByteStream) (bs : List UInt8) :
    (s.writeBytes bs).offset = s.offset + bs.length := by
  induction bs generalizing s with
  | nil => rfl
  | cons b bs ih =>
    rw [writeBytes_cons, ih, List.length_cons]
    simp only [writeByte]
    omega

/-- **Interrupted writing**: the bytes before the cut are new, the others old. -/
theorem memory_writeBytes_take (s : ByteStream) (bs : List UInt8) (k i : ℕ) :
    (s.writeBytes (bs.take k)).memory i
      = if i < s.offset + k then (s.writeBytes bs).memory i else s.memory i := by
  have hlength := List.length_take (i := k) (l := bs)
  split
  · next hi =>
    by_cases hk : k ≤ bs.length
    · have hall : s.writeBytes bs = (s.writeBytes (bs.take k)).writeBytes (bs.drop k) := by
        rw [← writeBytes_append, List.take_append_drop]
      have hbefore : i < (s.writeBytes (bs.take k)).offset := by
        rw [offset_writeBytes]
        omega
      rw [hall, memory_writeBytes_of_lt _ _ hbefore]
    · rw [List.take_of_length_le (by omega)]
  · next hi => exact memory_writeBytes_of_ge s _ (by omega)

/-! ### What lies ahead -/

/-- The bytes from the offset on are `bs`. -/
def Ahead (s : ByteStream) : List UInt8 → Prop
  | [] => True
  | b :: bs => s.memory s.offset = b ∧ Ahead { s with offset := s.offset + 1 } bs

/-- **Reading takes the first byte that lies ahead.** -/
theorem ahead_cons {s : ByteStream} {b : UInt8} {bs : List UInt8} :
    s.Ahead (b :: bs) ↔ s.readByte.1 = b ∧ s.readByte.2.Ahead bs := Iff.rfl

/-- What lies ahead, in two parts. -/
theorem ahead_append {s : ByteStream} {bs cs : List UInt8} :
    s.Ahead (bs ++ cs) ↔ s.Ahead bs ∧ Ahead ⟨s.memory, s.offset + bs.length⟩ cs := by
  induction bs generalizing s with
  | nil => exact ⟨fun h => ⟨trivial, h⟩, fun h => h.2⟩
  | cons b bs ih =>
    have hoffset : s.offset + 1 + bs.length = s.offset + (b :: bs).length := by
      rw [List.length_cons]
      omega
    rw [List.cons_append, Ahead, Ahead, ih, and_assoc, ← hoffset]

/-- One byte for each index lies ahead, by the addresses. -/
theorem ahead_finRange_iff {n : ℕ} {f : Fin n → UInt8} {s : ByteStream} :
    s.Ahead ((List.finRange n).map f) ↔ ∀ i : Fin n, s.memory (s.offset + i) = f i := by
  induction n generalizing s with
  | zero => exact iff_of_true trivial fun i => i.elim0
  | succ n ih =>
    rw [List.finRange_succ, List.map_cons, List.map_map, Ahead, ih, Fin.forall_fin_succ]
    simp only [Fin.val_zero, Nat.add_zero, Fin.val_succ, Function.comp_apply]
    simp only [Nat.add_assoc, Nat.add_comm 1]

/-- Several pieces lie ahead, each behind those before it. -/
theorem ahead_flatMap_iff {ι : Type*} {f : ι → List UInt8} {is : List ι} {s : ByteStream} :
    s.Ahead (is.flatMap f) ↔ ∀ (i : ℕ) (hi : i < is.length),
      Ahead ⟨s.memory, s.offset + ((is.take i).map fun j => (f j).length).sum⟩ (f is[i]) := by
  induction is generalizing s with
  | nil => exact iff_of_true trivial fun i hi => absurd hi (Nat.not_lt_zero i)
  | cons j is ih =>
    rw [List.flatMap_cons, ahead_append, ih]
    constructor
    · rintro ⟨hj, h⟩ i hi
      cases i with
      | zero => exact hj
      | succ i =>
        have hnext := h i (Nat.lt_of_succ_lt_succ hi)
        rwa [Nat.add_assoc] at hnext
    · intro h
      refine ⟨h 0 (Nat.succ_pos _), fun i hi => ?_⟩
      have hnext := h (i + 1) (Nat.succ_lt_succ hi)
      rw [List.take_succ_cons, List.map_cons, List.sum_cons, ← Nat.add_assoc] at hnext
      exact hnext

/-- One piece for each index lies ahead. -/
theorem ahead_flatMap_finRange_iff {n : ℕ} {f : Fin n → List UInt8} {s : ByteStream} :
    s.Ahead ((List.finRange n).flatMap f) ↔ ∀ i : Fin n,
      Ahead ⟨s.memory, s.offset + (((List.finRange n).take i).map fun j => (f j).length).sum⟩
        (f i) := by
  rw [ahead_flatMap_iff, Fin.forall_iff]
  simp only [List.length_finRange, List.getElem_finRange, Fin.cast_mk]

/-- **What was written lies ahead of where writing began.** -/
theorem ahead_writeBytes (s : ByteStream) (bs : List UInt8) :
    Ahead ⟨(s.writeBytes bs).memory, s.offset⟩ bs := by
  induction bs generalizing s with
  | nil => trivial
  | cons b bs ih =>
    refine ⟨?_, ih (s.writeByte b)⟩
    show ((s.writeByte b).writeBytes bs).memory s.offset = b
    rw [memory_writeBytes_of_lt (s.writeByte b) bs (Nat.lt_succ_self _)]
    exact Function.update_self _ _ _

/-- **An array read from where it lies ahead is that array**, at the indices the
loop goes through. -/
theorem readInto_of_ahead {ι : Type*} [DecidableEq ι] {f : ι → UInt8} {rest : List UInt8} :
    ∀ {is : List ι} {a : ι → UInt8} {s : ByteStream}, s.Ahead (is.map f ++ rest) →
      (readInto is a s).2.Ahead rest ∧
        ∀ i, (readInto is a s).1 i = f i ∨ i ∉ is ∧ (readInto is a s).1 i = a i := by
  intro is
  induction is with
  | nil => exact fun h => ⟨h, fun i => Or.inr ⟨List.not_mem_nil, rfl⟩⟩
  | cons j is ih =>
    intro a s h
    obtain ⟨hj, h⟩ := ahead_cons.mp h
    obtain ⟨hrest, hread⟩ := ih (a := Function.update a j s.readByte.1) h
    refine ⟨hrest, fun i => ?_⟩
    obtain hi | ⟨hi, hkept⟩ := hread i
    · exact Or.inl hi
    -- a later byte for the same index wins
    · by_cases hij : i = j
      · subst hij
        exact Or.inl (hkept.trans ((Function.update_self i _ a).trans hj))
      · refine Or.inr ⟨fun hmem => ?_, hkept.trans (Function.update_of_ne hij _ _)⟩
        obtain rfl | hmem := List.mem_cons.mp hmem
        · exact hij rfl
        · exact hi hmem

end ByteStream
end HomeAutomation
