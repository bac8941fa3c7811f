import Mathlib.Data.List.Basic
import Mathlib.Data.List.Perm.Basic

/-!
# Serving the first match

Requests are served one after the other from a list: each goes to the first element
that satisfies `p`, and an element that satisfies `once` is taken out when it has
served.

With as many requests as there are matching elements, every match serves once
exactly when no match stays in front of another: the first one that stays gets
all the requests that are left.

## Main definitions

* `serve p once n l` — the elements that serve `n` requests, in order.

## Main results

* `serve_eq` — only the matching elements count.
* `serve_perm_iff` — when every match serves exactly once.
-/

namespace HomeAutomation
namespace FirstMatch

variable {α : Type*} [DecidableEq α] (p once : α → Bool)

/-- The elements that serve `n` requests, in order. -/
def serve : ℕ → List α → List α
  | 0, _ => []
  | n + 1, l =>
    match l.find? p with
    | none => []
    | some a => a :: serve n (if once a then l.erase a else l)

variable {p once}

/-- Taking out the first match takes out the first of the matches. -/
theorem filter_erase_find {l : List α} {a : α} (h : l.find? p = some a) :
    (l.erase a).filter p = (l.filter p).tail := by
  induction l with
  | nil => cases h
  | cons b l ih =>
    by_cases hb : p b = true
    · rw [List.find?_cons_of_pos hb] at h
      cases h
      rw [List.erase_cons_head, List.filter_cons_of_pos hb, List.tail_cons]
    · rw [List.find?_cons_of_neg hb] at h
      have hne : b ≠ a := by
        rintro rfl
        exact hb (List.find?_some h)
      rw [List.erase_cons_tail (by simpa using hne), List.filter_cons_of_neg hb, ih h,
        List.filter_cons_of_neg hb]

/-- Only the matching elements count. -/
theorem serve_eq : ∀ (n : ℕ) (l : List α), serve p once n l = serve p once n (l.filter p) := by
  intro n
  induction n with
  | zero => intro l; rfl
  | succ n ih =>
    intro l
    have hself : (l.filter p).find? p = l.find? p := by
      rw [← List.head?_filter, ← List.head?_filter, List.filter_filter]
      simp
    rw [serve, serve, hself]
    cases h : l.find? p with
    | none => rfl
    | some a =>
      dsimp only
      by_cases honce : once a = true
      · have hfilter : (l.filter p).find? p = some a := hself.trans h
        rw [if_pos honce, if_pos honce, ih (l.erase a), ih ((l.filter p).erase a),
          filter_erase_find h, filter_erase_find hfilter, List.filter_filter]
        simp
      · rw [if_neg honce, if_neg honce, ih l]

/-- A match that stays serves everything that is left. -/
theorem serve_of_stays {a : α} (ha : p a = true) (hstay : once a = false) (l : List α) (n : ℕ) :
    serve p once n (a :: l) = List.replicate n a := by
  induction n with
  | zero => rfl
  | succ n ih =>
    rw [serve, List.find?_cons_of_pos ha, List.replicate_succ]
    simp [hstay, ih]

theorem serve_of_leaves {a : α} (ha : p a = true) (hleave : once a = true) (l : List α) (n : ℕ) :
    serve p once (n + 1) (a :: l) = a :: serve p once n l := by
  rw [serve, List.find?_cons_of_pos ha]
  simp [hleave]

/-- The same for a list of matches. -/
theorem serve_matches_perm_iff : ∀ {l : List α}, l.Nodup → (∀ a ∈ l, p a = true) →
    ((serve p once l.length l).Perm l ↔ ∀ a ∈ l.dropLast, once a = true) := by
  intro l
  induction l with
  | nil => exact fun _ _ => iff_of_true (List.Perm.refl _) fun a ha => absurd ha List.not_mem_nil
  | cons a l ih =>
    intro hnodup hp
    have ha : p a = true := hp a List.mem_cons_self
    obtain ⟨hnot, hnodup⟩ := List.nodup_cons.mp hnodup
    specialize ih hnodup fun b hb => hp b (List.mem_cons_of_mem _ hb)
    rw [List.length_cons]
    cases honce : once a with
    | true =>
      rw [serve_of_leaves ha honce, List.perm_cons, ih]
      cases l with
      | nil => simp
      | cons b l => simp [honce]
    | false =>
      rw [serve_of_stays ha honce]
      cases l with
      | nil => simp
      | cons b l =>
        -- the second match never serves
        refine iff_of_false (fun hperm => ?_) (fun h => ?_)
        · have hb : b ∈ List.replicate ((b :: l).length + 1) a :=
            hperm.symm.subset (List.mem_cons_of_mem _ List.mem_cons_self)
          rw [List.eq_of_mem_replicate hb] at hnot
          exact hnot List.mem_cons_self
        · have := h a (by simp)
          rw [honce] at this
          cases this

/-- **When every match serves exactly once**: no match but the last one stays. -/
theorem serve_perm_iff {l : List α} (hl : l.Nodup) :
    (serve p once (l.filter p).length l).Perm (l.filter p) ↔
      ∀ a ∈ (l.filter p).dropLast, once a = true := by
  rw [serve_eq]
  exact serve_matches_perm_iff (hl.filter _) fun a ha => (List.mem_filter.mp ha).2

end FirstMatch
end HomeAutomation
