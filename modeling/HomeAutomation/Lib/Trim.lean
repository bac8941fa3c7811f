import HomeAutomation.Lib.Str

/-!
# Text without its margins

Trimming a text takes the characters of a set off both ends.  A text is, in one way
only, two margins of such characters around a core that neither begins nor ends with
one; the core is what trimming leaves.

## Main definitions

* `findLastNotOf`, `trim` — the search from the end, and trimming with it.
* `Core` — a text without margins.

## Main results

* `exists_core` — every text is two margins around a core.
* `trim_eq_iff` — **what trimming leaves**, by the margins it takes off.
-/

namespace HomeAutomation
namespace Str

variable {p : Char → Bool}

/-- `s.find_last_not_of(set)`. -/
def findLastNotOf (p : Char → Bool) (s : List Char) : Option ℕ :=
  (s.reverse.findIdx? fun c => !p c).map (s.length - 1 - ·)

/-- The text between the first and the last character outside the set. -/
def trim (p : Char → Bool) (s : List Char) : List Char :=
  match findFirstNotOf p s 0 with
  | none => []
  | some first =>
    match findLastNotOf p s with
    | none => []
    | some last => substr s first (last - first + 1)

/-- **A text without margins**: it neither begins nor ends with a character of the set. -/
structure Core (p : Char → Bool) (t : List Char) : Prop where
  head : ∀ c ∈ t.head?, p c = false
  last : ∀ c ∈ t.getLast?, p c = false

theorem core_nil : Core p [] := ⟨by simp, by simp⟩

/-- The margins and the core of a text. -/
theorem exists_core (p : Char → Bool) (s : List Char) : ∃ b t e, s = b ++ (t ++ e) ∧
    (∀ c ∈ b, p c = true) ∧ (∀ c ∈ e, p c = true) ∧ Core p t := by
  rcases exists_run (fun c => !p c) s with ⟨b, r, rfl, hb, hr⟩
  -- the margin at the end is the beginning of the reversed rest
  rcases exists_run (fun c => !p c) r.reverse with ⟨e, t, hrev, he, ht⟩
  have hrest : r = t.reverse ++ e.reverse := by
    rw [← List.reverse_append, ← hrev, List.reverse_reverse]
  refine ⟨b, t.reverse, e.reverse, by rw [hrest], fun c hc => by simpa using hb c hc,
    fun c hc => by simpa using he c (List.mem_reverse.mp hc), ?_, ?_⟩
  · intro c hc
    have hhead : c ∈ r.head? := by
      rw [hrest, List.head?_append, Option.mem_def.mp hc]
      rfl
    simpa using hr c hhead
  · intro c hc
    rw [List.getLast?_reverse] at hc
    simpa using ht c hc

/-- **Trimming leaves the core.** -/
theorem trim_margins {b t e : List Char} (hb : ∀ c ∈ b, p c = true) (he : ∀ c ∈ e, p c = true)
    (ht : Core p t) : trim p (b ++ (t ++ e)) = t := by
  have hb' : ∀ c ∈ b, (!p c) = false := fun c hc => by simp [hb c hc]
  have he' : ∀ c ∈ e, (!p c) = false := fun c hc => by simp [he c hc]
  cases t with
  | nil =>
    have hnone : findFirstNotOf p (b ++ ([] ++ e)) 0 = none := by
      rw [findFirstNotOf, findFirstOf_zero_eq_none_iff, List.nil_append]
      exact List.forall_mem_append.mpr ⟨hb', he'⟩
    rw [trim, hnone]
  | cons x t =>
    have hx : (!p x) = true := by simp [ht.head x rfl]
    have hfirst : findFirstNotOf p (b ++ (x :: t ++ e)) 0 = some b.length := by
      have := findIdx?_eq_length (r := t ++ e) hb' hx
      rw [findFirstNotOf, findFirstOf, List.drop_zero, List.cons_append, this]
      rfl
    -- the last character of the core
    obtain ⟨t', y, hty⟩ : ∃ t' y, x :: t = t' ++ [y] :=
      ⟨_, _, (List.dropLast_append_getLast (List.cons_ne_nil x t)).symm⟩
    have hy : (!p y) = true := by
      have hlast : y ∈ (x :: t).getLast? := by
        rw [hty, List.getLast?_concat]
        exact rfl
      simp [ht.last y hlast]
    have hrev : (b ++ (x :: t ++ e)).reverse = e.reverse ++ y :: (b ++ t').reverse := by
      rw [hty]
      simp
    have hlast : findLastNotOf p (b ++ (x :: t ++ e)) = some (b.length + t.length) := by
      have he'' : ∀ c ∈ e.reverse, (!p c) = false := fun c hc => he' c (List.mem_reverse.mp hc)
      rw [findLastNotOf, hrev, findIdx?_eq_length he'' hy]
      simp
      omega
    have hlength : b.length + t.length - b.length + 1 = (x :: t).length := by
      rw [List.length_cons]
      omega
    rw [trim, hfirst]
    dsimp only
    rw [hlast]
    dsimp only
    rw [hlength, substr_append]

/-- **What trimming leaves.** -/
theorem trim_eq_iff {s t : List Char} : trim p s = t ↔
    Core p t ∧ ∃ b e, s = b ++ (t ++ e) ∧ (∀ c ∈ b, p c = true) ∧ ∀ c ∈ e, p c = true := by
  constructor
  · rintro rfl
    rcases exists_core p s with ⟨b, t, e, rfl, hb, he, ht⟩
    rw [trim_margins hb he ht]
    exact ⟨ht, b, e, rfl, hb, he⟩
  · rintro ⟨ht, b, e, rfl, hb, he⟩
    exact trim_margins hb he ht

/-- Trimming takes nothing but margins away. -/
theorem mem_of_mem_trim {s : List Char} {c : Char} (hc : c ∈ trim p s) : c ∈ s := by
  rcases (trim_eq_iff (s := s)).mp rfl with ⟨-, b, e, hs, -, -⟩
  rw [hs]
  exact List.mem_append_right _ (List.mem_append_left _ hc)

end Str
end HomeAutomation
