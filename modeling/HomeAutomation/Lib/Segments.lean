import Mathlib.Data.List.Flatten
import Mathlib.Data.List.Forall2

/-!
# Streams that are cut into pieces

A stream of lines may arrive in any pieces.  Where every line begins with a head that
ends in a mark, and has no mark elsewhere, a reader that looks at each piece alone can
only take a line where a piece begins with one.  If it takes as many lines as there are,
the pieces respect the lines: each line begins a piece, and no piece holds parts of two.

## Main definitions

* `Headed head mark l` — a list that begins with the head and the mark, and has no
  other mark.

## Main results

* `split_unique` — where the next head begins is determined by the stream.
* `exists_groups` — pieces with at most one mark each, at their beginning, are the
  lines, each cut into pieces.
* `count_of_length_filterMap` — a reader that takes as many pieces as there are marks
  takes each piece that has one.
-/

namespace HomeAutomation
namespace Segments

variable {α : Type*} {head : List α} {mark : α}

/-- The list begins with the head and the mark, and has no other mark. -/
def Headed (head : List α) (mark : α) (l : List α) : Prop :=
  ∃ t, l = head ++ mark :: t ∧ mark ∉ t

/-- The list is empty or begins with the head and the mark. -/
def Resumes (head : List α) (mark : α) (l : List α) : Prop :=
  l = [] ∨ ∃ t, l = head ++ mark :: t

/-! ### Where the next head begins -/

/-- What lies before a first mark. -/
theorem eq_of_append_cons_eq {x y s t : List α} (hx : mark ∉ x) (hy : mark ∉ y)
    (h : x ++ mark :: s = y ++ mark :: t) : x = y ∧ s = t := by
  induction x generalizing y with
  | nil =>
    cases y with
    | nil => exact ⟨rfl, (List.cons.inj h).2⟩
    | cons b y =>
      have hb : mark = b := (List.cons.inj h).1
      exact absurd (hb ▸ List.mem_cons_self) hy
  | cons a x ih =>
    cases y with
    | nil =>
      have ha : a = mark := (List.cons.inj h).1
      exact absurd (ha ▸ List.mem_cons_self) hx
    | cons b y =>
      obtain ⟨hab, htail⟩ := List.cons.inj h
      obtain ⟨hxy, hst⟩ := ih (fun hmem => hx (List.mem_cons_of_mem a hmem))
        (fun hmem => hy (List.mem_cons_of_mem b hmem)) htail
      exact ⟨by rw [hab, hxy], hst⟩

/-- **Where the next head begins is determined by the stream.** -/
theorem split_unique (hhead : mark ∉ head) {x y p q : List α} (hx : mark ∉ x) (hy : mark ∉ y)
    (hp : Resumes head mark p) (hq : Resumes head mark q) (h : x ++ p = y ++ q) :
    x = y ∧ p = q := by
  have hnot : ∀ {z t : List α} {w : List α}, mark ∉ w → w = z ++ (head ++ mark :: t) → False := by
    intro z t w hw hz
    exact hw (by simp [hz])
  obtain rfl | ⟨s, rfl⟩ := hp
  · obtain rfl | ⟨t, rfl⟩ := hq
    · exact ⟨by simpa using h, rfl⟩
    · exact (hnot hx (by simpa using h)).elim
  · obtain rfl | ⟨t, rfl⟩ := hq
    · exact (hnot hy (by simpa using h.symm)).elim
    · have hassoc : x ++ head ++ mark :: s = y ++ head ++ mark :: t := by simpa using h
      obtain ⟨hxy, hst⟩ := eq_of_append_cons_eq (by simp [hx, hhead]) (by simp [hy, hhead]) hassoc
      exact ⟨List.append_cancel_right hxy, by rw [hst]⟩

/-! ### Pieces -/

/-- Pieces without a mark, up to the first piece that has one. -/
theorem exists_unmarked {pieces : List (List α)}
    (h : ∀ s ∈ pieces, mark ∉ s ∨ Headed head mark s) :
    ∃ before after, pieces = before ++ after ∧ (∀ s ∈ before, mark ∉ s) ∧
      Resumes head mark after.flatten := by
  induction pieces with
  | nil => exact ⟨[], [], rfl, by simp, Or.inl rfl⟩
  | cons s pieces ih =>
    obtain hs | ⟨t, rfl, ht⟩ := h s List.mem_cons_self
    · obtain ⟨before, after, rfl, hbefore, hafter⟩ :=
        ih fun s' hs' => h s' (List.mem_cons_of_mem s hs')
      refine ⟨s :: before, after, rfl, ?_, hafter⟩
      exact List.forall_mem_cons.mpr ⟨hs, hbefore⟩
    · exact ⟨[], _, rfl, by simp, Or.inr ⟨t ++ pieces.flatten, by simp⟩⟩

theorem not_mem_flatten {pieces : List (List α)} (h : ∀ s ∈ pieces, mark ∉ s) :
    mark ∉ pieces.flatten := by
  simpa using h

theorem resumes_lines {lines : List (List α)} (h : ∀ l ∈ lines, Headed head mark l) :
    Resumes head mark lines.flatten := by
  cases lines with
  | nil => exact Or.inl rfl
  | cons l lines =>
    obtain ⟨t, rfl, -⟩ := h l List.mem_cons_self
    exact Or.inr ⟨t ++ lines.flatten, by simp⟩

/-- A line, cut into pieces of which the first has the head and the mark. -/
structure Cut (head : List α) (mark : α) (line first : List α) (rest : List (List α)) : Prop where
  line_eq : line = first ++ rest.flatten
  headed : Headed head mark first
  unmarked : ∀ s ∈ rest, mark ∉ s

/-- **Pieces with at most one mark each, at their beginning, are the lines, each cut into
pieces.** -/
theorem exists_groups (hhead : mark ∉ head) : ∀ {lines pieces : List (List α)},
    (∀ l ∈ lines, Headed head mark l) → (∀ s ∈ pieces, s ≠ []) →
    (∀ s ∈ pieces, mark ∉ s ∨ Headed head mark s) → pieces.flatten = lines.flatten →
    ∃ groups : List (List (List α)), pieces = groups.flatten ∧
      List.Forall₂ (fun l g => ∃ first rest, g = first :: rest ∧ Cut head mark l first rest)
        lines groups := by
  intro lines
  induction lines with
  | nil =>
    intro pieces _ hne _ h
    refine ⟨[], List.eq_nil_iff_forall_not_mem.mpr fun s hs => ?_, .nil⟩
    exact hne s hs (List.flatten_eq_nil_iff.mp h s hs)
  | cons l lines ih =>
    intro pieces hlines hne hpieces h
    obtain ⟨t, rfl, ht⟩ := hlines _ List.mem_cons_self
    have hlines := fun l hl => hlines l (List.mem_cons_of_mem _ hl)
    cases pieces with
    | nil => simp at h
    | cons s pieces =>
      have htail : ∀ s' ∈ pieces, mark ∉ s' ∨ Headed head mark s' :=
        fun s' hs' => hpieces s' (List.mem_cons_of_mem s hs')
      obtain ⟨before, after, rfl, hbefore, hafter⟩ := exists_unmarked htail
      have hbefore' := not_mem_flatten hbefore
      obtain hs | ⟨t', rfl, ht'⟩ := hpieces s List.mem_cons_self
      · -- a first piece without a mark would put the first head behind itself
        have hempty : s ++ before.flatten = [] :=
          (split_unique hhead (by simp [hs, hbefore']) List.not_mem_nil hafter
            (Or.inr ⟨t ++ lines.flatten, rfl⟩) (by simpa using h)).1
        exact absurd (List.append_eq_nil_iff.mp hempty).1 (hne s List.mem_cons_self)
      · -- the line ends where the next piece with a mark begins
        have hstream : t' ++ before.flatten ++ after.flatten = t ++ lines.flatten := by
          simpa using h
        obtain ⟨hline, hflatten⟩ := split_unique hhead (by simp [ht', hbefore']) ht hafter
          (resumes_lines hlines) hstream
        obtain ⟨groups, rfl, hgroups⟩ := ih hlines
          (fun s hs => hne s (List.mem_cons_of_mem _ (List.mem_append_right _ hs)))
          (fun s hs => htail s (List.mem_append_right _ hs)) hflatten
        refine ⟨((head ++ mark :: t') :: before) :: groups, rfl, .cons ?_ hgroups⟩
        exact ⟨_, before, rfl, by simp [← hline], ⟨t', rfl, ht'⟩, hbefore⟩

/-! ### Readers -/

section Readers

variable {β : Type*} [DecidableEq α] {f : List α → Option β}

theorem length_filterMap_le (hf : ∀ s, (f s).isSome = true → mark ∈ s) (pieces : List (List α)) :
    (pieces.filterMap f).length ≤ pieces.flatten.count mark := by
  induction pieces with
  | nil => exact Nat.zero_le _
  | cons s pieces ih =>
    rw [List.flatten_cons, List.count_append]
    cases hs : f s with
    | none =>
      rw [List.filterMap_cons_none hs]
      omega
    | some b =>
      have hmark : 0 < s.count mark := List.count_pos_iff.mpr (hf s (by rw [hs]; rfl))
      rw [List.filterMap_cons_some hs, List.length_cons]
      omega

/-- **A reader that takes as many pieces as there are marks takes each piece that has
one**, if it takes no piece without a mark; and no piece has two. -/
theorem count_of_length_filterMap (hf : ∀ s, (f s).isSome = true → mark ∈ s) :
    ∀ {pieces : List (List α)}, pieces.flatten.count mark ≤ (pieces.filterMap f).length →
      ∀ s ∈ pieces, s.count mark = if (f s).isSome then 1 else 0 := by
  intro pieces
  induction pieces with
  | nil => exact fun _ s hs => absurd hs List.not_mem_nil
  | cons s pieces ih =>
    intro h
    have hbound := length_filterMap_le hf pieces
    rw [List.flatten_cons, List.count_append] at h
    cases hs : f s with
    -- this piece is passed over
    | none =>
      -- a mark in a piece that is passed over would be one too many
      rw [List.filterMap_cons_none hs] at h
      refine List.forall_mem_cons.mpr ⟨?_, ih (by omega)⟩
      rw [hs]
      simp only [Option.isSome_none, Bool.false_eq_true, if_false]
      omega
    | some b =>
      -- this piece is taken, and has the one mark it has to have
      have hmark : 0 < s.count mark := List.count_pos_iff.mpr (hf s (by rw [hs]; rfl))
      rw [List.filterMap_cons_some hs, List.length_cons] at h
      refine List.forall_mem_cons.mpr ⟨?_, ih (by omega)⟩
      rw [hs]
      simp only [Option.isSome_some, if_true]
      omega

end Readers

end Segments
end HomeAutomation
