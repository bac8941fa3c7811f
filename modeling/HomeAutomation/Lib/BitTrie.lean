import Mathlib.Data.Finset.Max
import Mathlib.Order.PiLex
import Mathlib.Order.Fin.Basic

/-!
# Walking the trie of a set of bit strings

A finite set whose members are told apart by their first `n` bits is a binary trie.  A
member forks at an index where another member with the same bits below has the other
bit.  A walk that takes the zero at every fork comes to the first member in
lexicographic order; the next member after `x` is found by keeping the bits of `x` below
its last fork with bit zero, taking the one there and zeros behind.

## Main definitions

* `Agree`, `Fork` — equal bits below an index, and the forks of a member.
* `key` — the member as a string, in lexicographic order.
* `lastFork` — the last fork of a member with bit zero.
* `behind` — the members behind a member.
* `Follows` — the member to which a walk comes that keeps the bits of another one below an
  index, takes the one there and zeros behind.

## Main results

* `exists_first`, `exists_next` — the walk to the first member, and to the next one.
* `not_lt_of_lastFork_eq_zero` — there is no next member behind one without such a fork.
* `mem_iff_of_least`, `card_of_least` — a set is its least member and those behind it.
-/

namespace HomeAutomation
namespace BitTrie

variable {α : Type*} (bit : α → ℕ → Bool)

/-- The bits below `i` are equal. -/
def Agree (i : ℕ) (x y : α) : Prop := ∀ j < i, bit x j = bit y j

/-- Another member with the same bits below `i` has the other bit at `i`. -/
def Fork (S : Finset α) (x : α) (i : ℕ) : Prop := ∃ y ∈ S, Agree bit i x y ∧ bit y i ≠ bit x i

open Classical in
/-- The last fork below `i` with bit zero, or zero. -/
noncomputable def lastFork (S : Finset α) (x : α) : ℕ → ℕ
  | 0 => 0
  | i + 1 => if Fork bit S x i ∧ bit x i = false then i else lastFork S x i

/-- The first `n` bits. -/
def key (n : ℕ) (x : α) : Lex (Fin n → Bool) := toLex fun i => bit x i

/-- A walk that keeps the bits `p` below `f`, takes the one at `f` and zeros behind comes
to `z`. -/
structure Follows (S : Finset α) (f : ℕ) (p : ℕ → Bool) (z : α) : Prop where
  mem : z ∈ S
  kept : ∀ i < f, Fork bit S z i → bit z i = p i
  turned : Fork bit S z f → bit z f = true
  zeros : ∀ i, f < i → Fork bit S z i → bit z i = false

variable {bit}

theorem Agree.mono {i j : ℕ} {x y : α} (h : Agree bit j x y) (hij : i ≤ j) : Agree bit i x y :=
  fun k hk => h k (lt_of_lt_of_le hk hij)

theorem Agree.symm {i : ℕ} {x y : α} (h : Agree bit i x y) : Agree bit i y x :=
  fun k hk => (h k hk).symm

theorem Agree.trans {i : ℕ} {x y z : α} (h₁ : Agree bit i x y) (h₂ : Agree bit i y z) :
    Agree bit i x z :=
  fun k hk => (h₁ k hk).trans (h₂ k hk)

theorem agree_succ {i : ℕ} {x y : α} :
    Agree bit (i + 1) x y ↔ Agree bit i x y ∧ bit x i = bit y i := by
  constructor
  · exact fun h => ⟨h.mono (Nat.le_succ i), h i (Nat.lt_succ_self i)⟩
  · rintro ⟨h, hi⟩ j hj
    rcases (Nat.le_of_lt_succ hj).lt_or_eq with hlt | rfl
    · exact h j hlt
    · exact hi

/-- The order is decided by the first bit that differs. -/
theorem key_lt_iff {n : ℕ} {x y : α} :
    key bit n x < key bit n y ↔ ∃ i < n, Agree bit i x y ∧ bit x i = false ∧ bit y i = true := by
  constructor
  · rintro ⟨i, hagree, hlt⟩
    refine ⟨i, i.isLt, fun j hj => hagree ⟨j, hj.trans i.isLt⟩ hj, ?_⟩
    exact Bool.lt_iff.mp hlt
  · rintro ⟨i, hi, hagree, hbits⟩
    exact ⟨⟨i, hi⟩, fun j hj => hagree j hj, Bool.lt_iff.mpr hbits⟩

section LastFork

variable {S : Finset α} {x : α}

theorem lastFork_spec {n : ℕ} (h : lastFork bit S x n ≠ 0) :
    lastFork bit S x n < n ∧ Fork bit S x (lastFork bit S x n) ∧
      bit x (lastFork bit S x n) = false := by
  induction n with
  | zero => exact absurd rfl h
  | succ n ih =>
    rw [lastFork] at h ⊢
    split
    · next hfork => exact ⟨Nat.lt_succ_self n, hfork⟩
    · next hfork =>
      rw [if_neg hfork] at h
      obtain ⟨hlt, hspec⟩ := ih h
      exact ⟨hlt.trans (Nat.lt_succ_self n), hspec⟩

theorem le_lastFork {n j : ℕ} (hj : j < n) (hfork : Fork bit S x j) (hbit : bit x j = false) :
    j ≤ lastFork bit S x n := by
  induction n with
  | zero => cases hj
  | succ n ih =>
    rw [lastFork]
    split
    · exact Nat.le_of_lt_succ hj
    · next hnot =>
      refine ih (lt_of_le_of_ne (Nat.le_of_lt_succ hj) ?_)
      rintro rfl
      exact hnot ⟨hfork, hbit⟩

end LastFork

section Walk

variable {n : ℕ} (hsep : ∀ x y, Agree bit n x y → x = y) {S : Finset α}

include hsep

/-- A least member of a set that contains, with a member, all members of `S` that agree
with it beyond `f`, has zeros at its forks behind `f`. -/
theorem zeros_of_least {T : Finset α} {z : α} {f : ℕ} (hleast : ∀ y ∈ T, key bit n z ≤ key bit n y)
    (hT : ∀ i y, f < i → y ∈ S → Agree bit i z y → y ∈ T) :
    ∀ i, f < i → Fork bit S z i → bit z i = false := by
  rintro i hi ⟨y, hy, hagree, hne⟩
  by_contra hone
  rw [Bool.not_eq_false] at hone
  have hzero : bit y i = false := by simpa [hone] using hne
  -- the member with the zero would come before the least one
  have hlt : key bit n y < key bit n z := by
    refine key_lt_iff.mpr ⟨i, ?_, hagree.symm, hzero, hone⟩
    by_contra hge
    have hsame := hsep z y (hagree.mono (Nat.le_of_not_lt hge))
    rw [hsame] at hne
    exact hne rfl
  exact absurd (hleast y (hT i y hi hy hagree)) (not_le.mpr hlt)

/-- **The walk to the first member.** -/
theorem exists_first (hS : S.Nonempty) (hroot : ∀ x ∈ S, ¬ Fork bit S x 0) (p : ℕ → Bool) :
    ∃ z, Follows bit S 0 p z ∧ ∀ y ∈ S, key bit n z ≤ key bit n y := by
  obtain ⟨z, hz, hleast⟩ := S.exists_min_image (key bit n) hS
  have hzeros := zeros_of_least hsep (S := S) (f := 0) hleast fun _ _ _ hy _ => hy
  exact ⟨z, ⟨hz, fun i hi => absurd hi (Nat.not_lt_zero i), fun h => absurd h (hroot z hz), hzeros⟩,
    hleast⟩

/-- **The walk to the next member.** -/
theorem exists_next {x : α} (hx : lastFork bit S x n ≠ 0) :
    ∃ z, Follows bit S (lastFork bit S x n) (bit x) z ∧ key bit n x < key bit n z ∧
      ∀ y ∈ S, key bit n x < key bit n y → key bit n z ≤ key bit n y := by
  classical
  obtain ⟨hlt, ⟨y₀, hy₀, hagree₀, hne₀⟩, hbit⟩ := lastFork_spec hx
  generalize hf : lastFork bit S x n = f at hlt hagree₀ hne₀ hbit
  have hone₀ : bit y₀ f = true := by simpa [hbit] using hne₀
  -- the members beyond the one of the fork
  let T := S.filter fun y => Agree bit f x y ∧ bit y f = true
  have hT : T.Nonempty := ⟨y₀, Finset.mem_filter.mpr ⟨hy₀, hagree₀, hone₀⟩⟩
  obtain ⟨z, hz, hleast⟩ := T.exists_min_image (key bit n) hT
  obtain ⟨hzS, hzagree, hzone⟩ := Finset.mem_filter.mp hz
  -- beyond it `z` turns to the lower side at each of its forks
  have hzeros : ∀ i, f < i → Fork bit S z i → bit z i = false := by
    refine zeros_of_least hsep hleast fun i y hi hy hagree => Finset.mem_filter.mpr ⟨hy, ?_, ?_⟩
    · exact hzagree.trans (hagree.mono hi.le)
    · rw [← hagree f hi]
      exact hzone
  refine ⟨z, ⟨hzS, fun i hi _ => (hzagree i hi).symm, fun _ => hzone, hzeros⟩,
    key_lt_iff.mpr ⟨f, hlt, hzagree, hbit, hzone⟩, fun y hy hxy => ?_⟩
  -- a member behind `x` leaves it at one of its forks, the last one or an earlier one
  obtain ⟨j, hj, hagree, hzero, hone⟩ := key_lt_iff.mp hxy
  have hjf : j ≤ f := hf ▸ le_lastFork hj ⟨y, hy, hagree, by simp [hzero, hone]⟩ hzero
  rcases hjf.lt_or_eq with hjf | rfl
  · have hzj : bit z j = false := (hzagree j hjf).symm.trans hzero
    have hzy : Agree bit j z y := (hzagree.mono hjf.le).symm.trans hagree
    exact (key_lt_iff.mpr ⟨j, hj, hzy, hzj, hone⟩).le
  · exact hleast y (Finset.mem_filter.mpr ⟨hy, hagree, hone⟩)

omit hsep in
/-- Behind a member without a fork of bit zero there is no other. -/
theorem not_lt_of_lastFork_eq_zero {x : α} (hroot : ¬ Fork bit S x 0)
    (hx : lastFork bit S x n = 0) : ∀ y ∈ S, ¬ key bit n x < key bit n y := by
  intro y hy hxy
  obtain ⟨j, hj, hagree, hzero, hone⟩ := key_lt_iff.mp hxy
  have hfork : Fork bit S x j := ⟨y, hy, hagree, by simp [hzero, hone]⟩
  have hle := le_lastFork hj hfork hzero
  rw [hx, Nat.le_zero] at hle
  exact hroot (hle ▸ hfork)

open Classical in
/-- The members of `S` behind `x`. -/
noncomputable def behind (bit : α → ℕ → Bool) (n : ℕ) (S : Finset α) (x : α) : Finset α :=
  S.filter fun y => key bit n x < key bit n y

omit hsep in
theorem mem_behind {x y : α} : y ∈ behind bit n S x ↔ y ∈ S ∧ key bit n x < key bit n y := by
  classical
  exact Finset.mem_filter

omit hsep in
theorem not_mem_behind_self (x : α) : x ∉ behind bit n S x :=
  fun h => lt_irrefl _ (mem_behind.mp h).2

/-- A set of members of `S` with least member `z` that has all members behind `z` is `z`
and those. -/
theorem mem_iff_of_least {T : Finset α} {z : α} (hz : z ∈ T) (hTS : ∀ y ∈ T, y ∈ S)
    (hleast : ∀ y ∈ T, key bit n z ≤ key bit n y)
    (hup : ∀ y ∈ S, key bit n z < key bit n y → y ∈ T) (y : α) :
    y ∈ T ↔ y = z ∨ y ∈ behind bit n S z := by
  rw [mem_behind]
  constructor
  · intro hy
    rcases (hleast y hy).lt_or_eq with h | h
    · exact Or.inr ⟨hTS y hy, h⟩
    · exact Or.inl (hsep z y fun j hj => congrFun (toLex.injective h) ⟨j, hj⟩).symm
  · rintro (rfl | ⟨hy, hzy⟩)
    · exact hz
    · exact hup y hy hzy

/-- The number of members is that of the members behind the least one and one. -/
theorem card_of_least {T : Finset α} {z : α} (hz : z ∈ T) (hTS : ∀ y ∈ T, y ∈ S)
    (hleast : ∀ y ∈ T, key bit n z ≤ key bit n y)
    (hup : ∀ y ∈ S, key bit n z < key bit n y → y ∈ T) :
    T.card = (behind bit n S z).card + 1 := by
  classical
  have hT : T = insert z (behind bit n S z) := by
    ext y
    rw [Finset.mem_insert]
    exact mem_iff_of_least hsep hz hTS hleast hup y
  rw [hT, Finset.card_insert_of_notMem (not_mem_behind_self z)]

end Walk

end BitTrie
end HomeAutomation
