import Mathlib.Order.Lattice
import Mathlib.Data.List.Basic
import Mathlib.Data.List.Pairwise

/-!
# Ordered maps

`std::map` as the list of its entries in key order.  The order is a field of the
structure, so a map is determined by its lookups and iterating it is reading the
list.

## Main definitions

* `OrderedMap K V` — entries with strictly increasing keys.
* `find`, `insert`, `erase` — lookup, `m[k] = v`, and removal of one key.

## Main results

* `find_insert`, `find_erase` — what an update does to every lookup.
* `mem_entries_iff` — the entries are the graph of `find`.
* `ext_find` — maps with the same lookups are equal.
* `foldl_insert_entries` — inserting the entries one by one rebuilds the map.
* `find_foldl_insert_lookup` — of several entries under one key the last one counts.
* `mem_entries_insertAll` — the entries of a map that is built from a list of keys.
* `find_foldl_insertNew` — of several entries the first one counts if none is replaced.
* `find?_entries_eq_some_iff` — a search through the entries finds the least key.
-/

namespace HomeAutomation

/-- A map from `K` to `V`, as its entries in strictly increasing key order. -/
structure OrderedMap (K V : Type*) [LinearOrder K] where
  /-- The entries, in iteration order. -/
  entries : List (K × V)
  /-- The keys strictly increase. -/
  sorted : entries.Pairwise fun a b => a.1 < b.1

namespace OrderedMap

variable {K V : Type*} [LinearOrder K]

instance [DecidableEq V] : DecidableEq (OrderedMap K V) := fun m₁ m₂ =>
  decidable_of_iff (m₁.entries = m₂.entries)
    ⟨fun h => by cases m₁; cases m₂; cases h; rfl, fun h => h ▸ rfl⟩

/-- Two maps with the same entries are equal. -/
theorem ext_entries {m₁ m₂ : OrderedMap K V} (h : m₁.entries = m₂.entries) : m₁ = m₂ := by
  cases m₁; cases m₂; cases h; rfl

/-- The map without entries. -/
def empty : OrderedMap K V := ⟨[], List.Pairwise.nil⟩

/-! ### Lookup -/

/-- Lookup in a list of entries. -/
def findIn (k : K) : List (K × V) → Option V
  | [] => none
  | e :: l => if k = e.1 then some e.2 else findIn k l

/-- The value stored under `k`. -/
def find (m : OrderedMap K V) (k : K) : Option V := findIn k m.entries

@[simp] theorem find_empty (k : K) : (empty : OrderedMap K V).find k = none := rfl

theorem findIn_eq_none_iff {k : K} {l : List (K × V)} :
    findIn k l = none ↔ ∀ e ∈ l, e.1 ≠ k := by
  induction l with
  | nil => simp [findIn]
  | cons e l ih =>
    by_cases h : k = e.1
    · simp [findIn, h]
    · simp [findIn, h, ih, Ne.symm h]

theorem mem_of_findIn {k : K} {v : V} {l : List (K × V)} (h : findIn k l = some v) :
    (k, v) ∈ l := by
  induction l with
  | nil => simp [findIn] at h
  | cons e l ih =>
    by_cases hk : k = e.1
    · simp only [findIn, hk, if_true, Option.some.injEq] at h
      simp [hk, ← h]
    · simp only [findIn, hk, if_false] at h
      exact List.mem_cons_of_mem _ (ih h)

theorem findIn_of_mem {k : K} {v : V} {l : List (K × V)}
    (hs : l.Pairwise fun a b => a.1 < b.1) (h : (k, v) ∈ l) : findIn k l = some v := by
  induction l with
  | nil => simp at h
  | cons e l ih =>
    rw [List.pairwise_cons] at hs
    rcases List.mem_cons.mp h with rfl | h
    · simp [findIn]
    · have hne : k ≠ e.1 := (hs.1 (k, v) h).ne'
      simp [findIn, hne, ih hs.2 h]

/-- **The entries are the graph of `find`.** -/
theorem mem_entries_iff {m : OrderedMap K V} {k : K} {v : V} :
    (k, v) ∈ m.entries ↔ m.find k = some v :=
  ⟨findIn_of_mem m.sorted, mem_of_findIn⟩

/-! ### Insertion -/

/-- Put `(k, v)` in its place, over an older entry for `k` if there is one. -/
def insertIn (k : K) (v : V) : List (K × V) → List (K × V)
  | [] => [(k, v)]
  | e :: l =>
    if k < e.1 then (k, v) :: e :: l
    else if k = e.1 then (k, v) :: l
    else e :: insertIn k v l

theorem mem_insertIn {k : K} {v : V} {l : List (K × V)} {e : K × V} (h : e ∈ insertIn k v l) :
    e = (k, v) ∨ e ∈ l := by
  induction l with
  | nil => simpa [insertIn] using h
  | cons d l ih =>
    simp only [insertIn] at h
    split at h
    · simpa using h
    · split at h
      · rcases List.mem_cons.mp h with h | h
        · exact Or.inl h
        · exact Or.inr (List.mem_cons_of_mem _ h)
      · rcases List.mem_cons.mp h with h | h
        · exact Or.inr (by simp [h])
        · exact (ih h).imp id (List.mem_cons_of_mem _)

theorem pairwise_insertIn (k : K) (v : V) {l : List (K × V)}
    (hs : l.Pairwise fun a b => a.1 < b.1) : (insertIn k v l).Pairwise fun a b => a.1 < b.1 := by
  induction l with
  | nil => simp [insertIn]
  | cons d l ih =>
    have hs' := hs
    rw [List.pairwise_cons] at hs
    simp only [insertIn]
    split
    -- the new key is the least of all
    · next hlt =>
      refine List.pairwise_cons.mpr ⟨fun e he => ?_, hs'⟩
      rcases List.mem_cons.mp he with rfl | he
      · exact hlt
      · exact hlt.trans (hs.1 e he)
    · next hge =>
      -- it takes the place of an equal one, or comes further behind
      split
      · next heq => exact List.pairwise_cons.mpr ⟨fun e he => heq ▸ hs.1 e he, hs.2⟩
      · next hne =>
        refine List.pairwise_cons.mpr ⟨fun e he => ?_, ih hs.2⟩
        rcases mem_insertIn he with rfl | he
        · exact lt_of_le_of_ne (not_lt.mp hge) (Ne.symm hne)
        · exact hs.1 e he

/-- `m[k] = v`. -/
def insert (m : OrderedMap K V) (k : K) (v : V) : OrderedMap K V :=
  ⟨insertIn k v m.entries, pairwise_insertIn k v m.sorted⟩

theorem findIn_insertIn (k k' : K) (v : V) {l : List (K × V)}
    (hs : l.Pairwise fun a b => a.1 < b.1) :
    findIn k' (insertIn k v l) = if k' = k then some v else findIn k' l := by
  induction l with
  | nil => simp [insertIn, findIn]
  | cons d l ih =>
    rw [List.pairwise_cons] at hs
    simp only [insertIn]
    split
    · simp [findIn]
    · split
      · next heq =>
        by_cases hk : k' = k
        · simp [findIn, hk]
        · simp [findIn, hk, heq ▸ hk]
      · next hne =>
        by_cases hk : k' = d.1
        · simp [findIn, hk, Ne.symm hne]
        · simp [findIn, hk, ih hs.2]

/-- **What an insertion does to every lookup.** -/
@[simp] theorem find_insert (m : OrderedMap K V) (k k' : K) (v : V) :
    (m.insert k v).find k' = if k' = k then some v else m.find k' :=
  findIn_insertIn k k' v m.sorted

/-! ### Removal -/

/-- The map without the key `k`. -/
def erase (m : OrderedMap K V) (k : K) : OrderedMap K V :=
  ⟨m.entries.filter fun e => e.1 ≠ k, m.sorted.filter _⟩

theorem findIn_filter (k k' : K) (l : List (K × V)) :
    findIn k' (l.filter fun e => e.1 ≠ k) = if k' = k then none else findIn k' l := by
  induction l with
  | nil => simp [findIn]
  | cons d l ih =>
    by_cases hd : d.1 = k
    · by_cases hk : k' = k
      · simpa [hd, hk] using ih
      · simpa [findIn, hd, hk] using ih
    · by_cases hk : k' = k
      · simpa [findIn, hd, hk, Ne.symm hd] using ih
      · simpa [findIn, hd, hk] using congrArg (if k' = d.1 then some d.2 else ·) ih

/-- **What a removal does to every lookup.** -/
@[simp] theorem find_erase (m : OrderedMap K V) (k k' : K) :
    (m.erase k).find k' = if k' = k then none else m.find k' :=
  findIn_filter k k' m.entries

/-! ### Equality -/

theorem eq_of_findIn_eq : ∀ {l₁ l₂ : List (K × V)},
    (l₁.Pairwise fun a b => a.1 < b.1) → (l₂.Pairwise fun a b => a.1 < b.1) →
      (∀ k, findIn k l₁ = findIn k l₂) → l₁ = l₂ := by
  intro l₁
  induction l₁ with
  | nil =>
    intro l₂ _ _ h
    cases l₂ with
    -- a key of the longer list would not be found in the other
    | nil => rfl
    | cons e l => simpa [findIn] using h e.1
  | cons d l₁ ih =>
    intro l₂ hs₁ hs₂ h
    cases l₂ with
    | nil => simpa [findIn] using h d.1
    | cons e l₂ =>
      have hd : (d.1, d.2) ∈ e :: l₂ := mem_of_findIn ((h d.1).symm.trans (by simp [findIn]))
      have he : (e.1, e.2) ∈ d :: l₁ := mem_of_findIn ((h e.1).trans (by simp [findIn]))
      have hs₁' := List.pairwise_cons.mp hs₁
      have hs₂' := List.pairwise_cons.mp hs₂
      -- the least key of each list occurs in the other, so the heads agree
      have hde : d = e := by
        rcases List.mem_cons.mp hd with h1 | h1
        · exact h1
        · rcases List.mem_cons.mp he with h2 | h2
          · exact h2.symm
          · exact absurd ((hs₂'.1 _ h1).trans (hs₁'.1 _ h2)) (lt_irrefl _)
      subst hde
      refine congrArg (d :: ·) (ih hs₁'.2 hs₂'.2 fun k => ?_)
      -- the heads have the least key, which is in neither tail
      by_cases hk : k = d.1
      · subst hk
        rw [findIn_eq_none_iff.mpr fun e he => (hs₁'.1 e he).ne',
          findIn_eq_none_iff.mpr fun e he => (hs₂'.1 e he).ne']
      · simpa [findIn, hk] using h k

/-- A search through the entries finds the least key. -/
theorem le_of_find?_entries {m : OrderedMap K V} {p : K × V → Bool} {e : K × V}
    (h : m.entries.find? p = some e) : ∀ e' ∈ m.entries, p e' = true → e.1 ≤ e'.1 := by
  obtain ⟨-, before, after, hentries, hbefore⟩ := List.find?_eq_some_iff_append.mp h
  intro e' he' hp'
  have hsorted := m.sorted
  rw [hentries] at he' hsorted
  rcases List.mem_append.mp he' with he' | he'
  · have := hbefore e' he'
    rw [hp'] at this
    cases this
  · rcases List.mem_cons.mp he' with rfl | he'
    · exact le_refl _
    · exact le_of_lt (List.rel_of_pairwise_cons (List.pairwise_append.mp hsorted).2.1 he')

/-- **What a search through the entries finds**: of the entries that will do, the one
with the least key. -/
theorem find?_entries_eq_some_iff {m : OrderedMap K V} {p : K × V → Bool} {e : K × V}
    (he : e ∈ m.entries) (hp : p e = true) :
    m.entries.find? p = some e ↔ ∀ e' ∈ m.entries, p e' = true → e.1 ≤ e'.1 := by
  constructor
  · exact le_of_find?_entries
  · intro hleast
    cases h : m.entries.find? p with
    | none => exact absurd hp (List.find?_eq_none.mp h e he)
    | some e' =>
      have he' := List.mem_of_find?_eq_some h
      have hkey : e'.1 = e.1 :=
        le_antisymm (le_of_find?_entries h e he hp) (hleast e' he' (List.find?_some h))
      -- under one key there is one entry
      have hfind := mem_entries_iff.mp (show (e.1, e'.2) ∈ m.entries from hkey ▸ he')
      have hvalue : e.2 = e'.2 := Option.some.inj ((mem_entries_iff.mp he).symm.trans hfind)
      rw [Prod.ext hkey.symm hvalue]

/-- **Maps with the same lookups are equal.** -/
theorem ext_find {m₁ m₂ : OrderedMap K V} (h : ∀ k, m₁.find k = m₂.find k) : m₁ = m₂ :=
  ext_entries (eq_of_findIn_eq m₁.sorted m₂.sorted h)

/-! ### Rebuilding -/

theorem find_foldl_insert (k : K) : ∀ (l : List (K × V)) (m : OrderedMap K V),
    (l.Pairwise fun a b => a.1 < b.1) →
      (l.foldl (fun m e => m.insert e.1 e.2) m).find k = (findIn k l).or (m.find k) := by
  intro l
  induction l with
  | nil => intro m _; simp [findIn]
  | cons e l ih =>
    intro m hs
    rw [List.pairwise_cons] at hs
    rw [List.foldl_cons, ih _ hs.2, find_insert]
    by_cases hk : k = e.1
    · have hnone : findIn k l = none :=
        findIn_eq_none_iff.mpr fun d hd => by rw [hk]; exact (hs.1 d hd).ne'
      rw [hnone]
      simp [findIn, hk]
    · simp [findIn, hk]

/-- Of the entries inserted under a key the last one counts. -/
theorem find_foldl_insert_lookup [BEq K] [LawfulBEq K] (k : K) :
    ∀ (l : List (K × V)) (m : OrderedMap K V),
    (l.foldl (fun m e => m.insert e.1 e.2) m).find k = (l.reverse.lookup k).or (m.find k) := by
  intro l
  induction l with
  | nil => intro m; rfl
  | cons e l ih =>
    intro m
    obtain ⟨key, v⟩ := e
    rw [List.foldl_cons, ih, find_insert, List.reverse_cons, List.lookup_append, Option.or_assoc]
    by_cases hk : k = key
    · simp [hk]
    · have hbeq : (k == key) = false := beq_eq_false_iff_ne.mpr hk
      rw [List.lookup_cons, hbeq]
      simp [hk]

/-- **Inserting the entries one by one rebuilds the map.** -/
theorem foldl_insert_entries (m : OrderedMap K V) :
    m.entries.foldl (fun m e => m.insert e.1 e.2) empty = m := by
  refine ext_find fun k => ?_
  rw [find_foldl_insert k m.entries empty m.sorted, find_empty, Option.or_none]
  rfl

/-! ### Building from keys -/

section Build

variable (f : K → Option V)

/-- Insert under each key of a list the value that `f` gives for it. -/
def insertAll (m : OrderedMap K V) (keys : List K) : OrderedMap K V :=
  keys.foldl (fun m k => match f k with
    | none => m
    | some v => m.insert k v) m

theorem find_insertAll (k : K) : ∀ (keys : List K) (m : OrderedMap K V),
    (m.insertAll f keys).find k = if k ∈ keys then (f k).or (m.find k) else m.find k := by
  intro keys
  induction keys with
  | nil => intro m; rfl
  | cons key keys ih =>
    intro m
    have hcons : m.insertAll f (key :: keys) = insertAll f (match f key with
        | none => m
        | some v => m.insert key v) keys := rfl
    rw [hcons, ih]
    by_cases hkey : k = key
    -- what `f` gives for the key itself
    · subst hkey
      cases hf : f k with
      | none => simp
      | some v => simp
    · have hmem : k ∈ key :: keys ↔ k ∈ keys := by simp [hkey]
      -- another key does not change what is found
      have hfind : (match f key with
          | none => m
          | some v => m.insert key v).find k = m.find k := by
        cases f key with
        | none => rfl
        | some v => simp [hkey]
      simp only [hmem, hfind]

/-- The entries of a map built from keys. -/
theorem mem_entries_insertAll {keys : List K} {k : K} {v : V} :
    (k, v) ∈ ((empty : OrderedMap K V).insertAll f keys).entries ↔ k ∈ keys ∧ f k = some v := by
  rw [mem_entries_iff, find_insertAll, find_empty, Option.or_none]
  by_cases hk : k ∈ keys
  · simp [hk]
  · simp [hk]

end Build

/-! ### Insertion that replaces nothing -/

/-- `m.insert(make_pair(k, v))`: an entry under the same key is left alone. -/
def insertNew (m : OrderedMap K V) (k : K) (v : V) : OrderedMap K V :=
  if (m.find k).isSome then m else m.insert k v

@[simp] theorem find_insertNew (m : OrderedMap K V) (k k' : K) (v : V) :
    (m.insertNew k v).find k' = (m.find k').or (if k' = k then some v else none) := by
  unfold insertNew
  by_cases hk : k' = k
  · subst hk
    cases hfind : m.find k' with
    | none => simp
    | some w => simp [hfind]
  · cases hfind : m.find k with
    | none => simp [hk]
    | some w => simp [hk]

/-- Of the entries inserted under a key the first one counts. -/
theorem find_foldl_insertNew (k : K) : ∀ (l : List (K × V)) (m : OrderedMap K V),
    (l.foldl (fun m e => m.insertNew e.1 e.2) m).find k = (m.find k).or (findIn k l) := by
  intro l
  induction l with
  | nil => intro m; simp [findIn]
  | cons e l ih =>
    intro m
    rw [List.foldl_cons, ih, find_insertNew, Option.or_assoc]
    by_cases hk : k = e.1
    · simp [findIn, hk]
    · simp [findIn, hk]

end OrderedMap
end HomeAutomation
