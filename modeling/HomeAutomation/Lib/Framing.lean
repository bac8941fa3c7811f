import Mathlib.Data.List.Basic
import Mathlib.Data.Nat.Init

/-!
# Frames of a stream

A stream of symbols is cut into frames by separators.  The frames of a finite
part of the stream are the pieces a separator ends; what no separator has ended
yet is the residue.  Both are read off `List.splitOnP`.

## Main definitions

* `frames sep s` — the pieces of `s` that a separator ends.
* `residue sep s` — the piece behind the last separator.

## Main results

* `residue_forall` — no separator is left in the residue.
* `frames_append`, `residue_append` — receiving more only adds frames: the part
  of a stream seen so far may be replaced by its residue.
* `frames_flatMap` — pieces that are written with their separators come back.
* `frames_skip` — separators in a row only add empty frames.
-/

namespace HomeAutomation
namespace Framing

variable {α : Type*} (sep : α → Bool)

/-- The pieces of `s` that a separator ends. -/
def frames (s : List α) : List (List α) := (s.splitOnP sep).dropLast

/-- The piece of `s` behind its last separator. -/
def residue (s : List α) : List α := (s.splitOnP sep).getLast (List.splitOnP_ne_nil _ _)

variable {sep}

theorem frames_of_forall {s : List α} (h : ∀ x ∈ s, sep x = false) : frames sep s = [] := by
  simp [frames, List.splitOnP_eq_singleton h]

theorem residue_of_forall {s : List α} (h : ∀ x ∈ s, sep x = false) : residue sep s = s := by
  simp [residue, List.splitOnP_eq_singleton h]

theorem splitOnP_cut {w r : List α} {e : α} (hw : ∀ x ∈ w, sep x = false) (he : sep e = true) :
    (w ++ e :: r).splitOnP sep = w :: r.splitOnP sep := by
  rw [List.splitOnP_append_cons w r he, List.splitOnP_eq_singleton hw, List.singleton_append]

theorem frames_cut {w r : List α} {e : α} (hw : ∀ x ∈ w, sep x = false) (he : sep e = true) :
    frames sep (w ++ e :: r) = w :: frames sep r := by
  rw [frames, splitOnP_cut hw he, List.dropLast_cons_of_ne_nil (List.splitOnP_ne_nil _ _), frames]

theorem residue_cut {w r : List α} {e : α} (hw : ∀ x ∈ w, sep x = false) (he : sep e = true) :
    residue sep (w ++ e :: r) = residue sep r := by
  simp only [residue, splitOnP_cut hw he]
  exact List.getLast_cons (List.splitOnP_ne_nil _ _)

/-- A list without separators, or its first separator. -/
theorem exists_cut (sep : α → Bool) (s : List α) : (∀ x ∈ s, sep x = false) ∨
    ∃ w e r, s = w ++ e :: r ∧ (∀ x ∈ w, sep x = false) ∧ sep e = true := by
  induction s with
  | nil => exact Or.inl (by simp)
  | cons x s ih =>
    rcases hx : sep x with _ | _
    · rcases ih with h | ⟨w, e, r, rfl, hw, he⟩
      · exact Or.inl (List.forall_mem_cons.mpr ⟨hx, h⟩)
      · exact Or.inr ⟨x :: w, e, r, rfl, List.forall_mem_cons.mpr ⟨hx, hw⟩, he⟩
    · exact Or.inr ⟨[], x, s, rfl, by simp, hx⟩

/-- No separator is left in the residue. -/
theorem residue_forall (s : List α) : ∀ x ∈ residue sep s, sep x = false := by
  induction hn : s.length using Nat.strong_induction_on generalizing s with
  | _ n ih =>
    rcases exists_cut sep s with h | ⟨w, e, r, rfl, hw, he⟩
    · rwa [residue_of_forall h]
    · have hlt : r.length < n := by rw [← hn]; simp; omega
      rw [residue_cut hw he]
      exact ih _ hlt r rfl

/-- **What was received so far may be replaced by its residue**, once its frames
are taken. -/
theorem frames_append (a b : List α) :
    frames sep (a ++ b) = frames sep a ++ frames sep (residue sep a ++ b) := by
  induction hn : a.length using Nat.strong_induction_on generalizing a with
  | _ n ih =>
    rcases exists_cut sep a with h | ⟨w, e, r, rfl, hw, he⟩
    · rw [frames_of_forall h, residue_of_forall h, List.nil_append]
    · have hlt : r.length < n := by rw [← hn]; simp; omega
      rw [List.append_assoc, List.cons_append, frames_cut hw he, frames_cut hw he,
        residue_cut hw he, ih _ hlt r rfl, List.cons_append]

theorem residue_append (a b : List α) :
    residue sep (a ++ b) = residue sep (residue sep a ++ b) := by
  induction hn : a.length using Nat.strong_induction_on generalizing a with
  | _ n ih =>
    rcases exists_cut sep a with h | ⟨w, e, r, rfl, hw, he⟩
    · rw [residue_of_forall h]
    · have hlt : r.length < n := by rw [← hn]; simp; omega
      rw [List.append_assoc, List.cons_append, residue_cut hw he, residue_cut hw he,
        ih _ hlt r rfl]

/-- Separators in a row only add empty frames. -/
theorem frames_skip : ∀ {es : List α} (r : List α), (∀ x ∈ es, sep x = true) →
    frames sep (es ++ r) = List.replicate es.length [] ++ frames sep r := by
  intro es
  induction es with
  | nil => intro r _; rfl
  | cons e es ih =>
    intro r h
    have he : sep e = true := h e (by simp)
    rw [List.cons_append, ← List.nil_append (e :: _), frames_cut (by simp) he,
      ih r fun x hx => h x (by simp [hx]), List.length_cons, List.replicate_succ, List.cons_append]

theorem residue_skip : ∀ {es : List α} (r : List α), (∀ x ∈ es, sep x = true) →
    residue sep (es ++ r) = residue sep r := by
  intro es
  induction es with
  | nil => intro r _; rfl
  | cons e es ih =>
    intro r h
    have he : sep e = true := h e (by simp)
    rw [List.cons_append, ← List.nil_append (e :: _), residue_cut (by simp) he,
      ih r fun x hx => h x (by simp [hx])]

/-- No separator is left in a frame. -/
theorem not_sep_of_mem_frames : ∀ {s f : List α}, f ∈ frames sep s → ∀ x ∈ f, sep x = false := by
  intro s
  induction hn : s.length using Nat.strong_induction_on generalizing s with
  | _ n ih =>
    intro f hf
    rcases exists_cut sep s with h | ⟨w, e, r, rfl, hw, he⟩
    · rw [frames_of_forall h] at hf
      cases hf
    · have hlt : r.length < n := by rw [← hn]; simp; omega
      rw [frames_cut hw he] at hf
      rcases List.mem_cons.mp hf with rfl | hf
      · exact hw
      · exact ih _ hlt rfl hf

/-- Pieces that are written with their separators are the frames. -/
theorem frames_flatMap {e : α} (he : sep e = true) : ∀ {pieces : List (List α)},
    (∀ w ∈ pieces, ∀ x ∈ w, sep x = false) →
      frames sep (pieces.flatMap fun w => w ++ [e]) = pieces ∧
        residue sep (pieces.flatMap fun w => w ++ [e]) = [] := by
  intro pieces
  induction pieces with
  | nil => exact fun _ => ⟨frames_of_forall (by simp), residue_of_forall (by simp)⟩
  | cons w pieces ih =>
    intro h
    rcases List.forall_mem_cons.mp h with ⟨hw, h⟩
    rcases ih h with ⟨hframes, hresidue⟩
    rw [List.flatMap_cons, List.append_assoc, List.singleton_append]
    exact ⟨by rw [frames_cut hw he, hframes], by rw [residue_cut hw he, hresidue]⟩

end Framing
end HomeAutomation
