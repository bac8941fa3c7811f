import Mathlib.Data.List.Basic
import Mathlib.Data.List.Nodup

/-!
# Dictionaries

A dictionary of Python is the list of its entries in the order in which their keys were
first set.  A loop over the keys of a dictionary fails as soon as its body has changed the
number of entries: the loop looks at it before each turn and before it ends.

## Main definitions

* `Dict K V` — entries with different keys.
* `get`, `set` — lookup, and `d[k] = v`.
* `forKeys` — a loop over the keys, with a body that may change the dictionary.

## Main results

* `get_set` — what an update does to every lookup.
* `forKeys_of_skips` — a loop whose body does nothing.
* `forKeys_of_resizes` — a loop whose body once changes the number of entries.
-/

namespace HomeAutomation

/-- A dictionary, as its entries in the order of insertion. -/
structure Dict (K V : Type*) where
  /-- The entries, in iteration order. -/
  entries : List (K × V)
  /-- The keys are different. -/
  nodup : (entries.map Prod.fst).Nodup

namespace Dict

variable {K V W : Type*}

/-- The dictionary without entries, and what `clear` leaves. -/
def empty : Dict K V := ⟨[], List.nodup_nil⟩

instance : EmptyCollection (Dict K V) := ⟨empty⟩

/-- The number of entries. -/
def size (d : Dict K V) : ℕ := d.entries.length

/-- The keys, in iteration order. -/
def keys (d : Dict K V) : List K := d.entries.map Prod.fst

/-- The same keys with other values. -/
def mapValues (f : V → W) (d : Dict K V) : Dict K W where
  entries := d.entries.map fun e => (e.1, f e.2)
  nodup := by
    rw [List.map_map]
    exact d.nodup

/-! ### Loops -/

section Loops

variable {S ε : Type*} (dict : S → Dict K V) (changed : ε) (body : K → S → Option ε × S)

/-- A loop over some keys of a dictionary that had `n` entries: its error, and the state in
which it ends. -/
def forKeys (n : ℕ) : List K → S → Option ε × S
  | [], s => if (dict s).size = n then (none, s) else (some changed, s)
  | k :: ks, s =>
    if (dict s).size = n then
      match body k s with
      | (some e, s) => (some e, s)
      | (none, s) => forKeys n ks s
    else (some changed, s)

variable {dict changed body}

/-- **A loop whose body does nothing.** -/
theorem forKeys_of_skips {ks : List K} {s : S} (hskip : ∀ k ∈ ks, body k s = (none, s)) :
    forKeys dict changed body (dict s).size ks s = (none, s) := by
  induction ks with
  | nil => exact if_pos rfl
  | cons k ks ih =>
    rw [forKeys, if_pos rfl, hskip k List.mem_cons_self]
    exact ih fun k hk => hskip k (List.mem_cons_of_mem _ hk)

/-- **A loop whose body once changes the number of entries** fails, also when it does so
in the last turn. -/
theorem forKeys_of_resizes {n : ℕ} {before after : List K} {k : K} {s s' : S}
    (hn : (dict s).size = n) (hskip : ∀ k ∈ before, body k s = (none, s))
    (hturn : body k s = (none, s')) (hsize : (dict s').size ≠ n) :
    forKeys dict changed body n (before ++ k :: after) s = (some changed, s') := by
  induction before with
  | nil =>
    rw [List.nil_append, forKeys, if_pos hn, hturn]
    cases after with
    | nil => exact if_neg hsize
    | cons k' after => exact if_neg hsize
  | cons k' before ih =>
    rw [List.cons_append, forKeys, if_pos hn, hskip k' List.mem_cons_self]
    exact ih fun k hk => hskip k (List.mem_cons_of_mem _ hk)

end Loops

/-! ### Lookup -/

variable [DecidableEq K]

/-- The value under a key. -/
def get (d : Dict K V) (k : K) : Option V := (d.entries.find? fun e => e.1 = k).map Prod.snd

/-- The entries after `d[k] = v`. -/
def setIn (k : K) (v : V) : List (K × V) → List (K × V)
  | [] => [(k, v)]
  | e :: l => if e.1 = k then (k, v) :: l else e :: setIn k v l

theorem map_fst_setIn (k : K) (v : V) (l : List (K × V)) :
    (setIn k v l).map Prod.fst
      = if k ∈ l.map Prod.fst then l.map Prod.fst else l.map Prod.fst ++ [k] := by
  induction l with
  | nil => simp [setIn]
  | cons e l ih =>
    rw [setIn]
    by_cases hk : e.1 = k
    · simp [hk]
    · rw [if_neg hk, List.map_cons, ih]
      by_cases hmem : k ∈ l.map Prod.fst
      · simp [hmem]
      · simp [hmem, Ne.symm hk]

/-- `d[k] = v`: in its place, or behind the others. -/
def set (d : Dict K V) (k : K) (v : V) : Dict K V where
  entries := setIn k v d.entries
  nodup := by
    rw [map_fst_setIn]
    split
    · exact d.nodup
    · next hmem => exact List.nodup_append.mpr ⟨d.nodup, List.nodup_singleton k, by
        rintro a ha b hb rfl
        rw [List.mem_singleton] at hb
        exact hmem (hb ▸ ha)⟩

@[simp] theorem get_empty (k : K) : (∅ : Dict K V).get k = none := rfl

/-- **What an update does to every lookup.** -/
theorem get_set (d : Dict K V) (k k' : K) (v : V) :
    (d.set k v).get k' = if k = k' then some v else d.get k' := by
  have hentries : ∀ l : List (K × V),
      ((setIn k v l).find? fun e => e.1 = k').map Prod.snd
        = if k = k' then some v else (l.find? fun e => e.1 = k').map Prod.snd := by
    intro l
    induction l with
    | nil => by_cases hk : k = k' <;> simp [setIn, hk]
    | cons e l ih =>
      rw [setIn]
      by_cases he : e.1 = k
      · by_cases hk : k = k' <;> simp [he, hk]
      · rw [if_neg he, List.find?_cons, List.find?_cons]
        by_cases hk' : e.1 = k'
        · have hk : k ≠ k' := fun h => he (hk'.trans h.symm)
          simp [hk', hk]
        · simp only [hk', decide_false]
          exact ih
  exact hentries d.entries

theorem mem_keys_iff (d : Dict K V) (k : K) : k ∈ d.keys ↔ (d.get k).isSome = true := by
  rw [keys, get, Option.isSome_map, List.find?_isSome]
  simp [List.mem_map]

/-- A dictionary with a value is not empty. -/
theorem size_ne_zero {d : Dict K V} {k : K} {v : V} (h : d.get k = some v) : d.size ≠ 0 := by
  have hmem : k ∈ d.keys := (d.mem_keys_iff k).mpr (by rw [h]; rfl)
  intro hzero
  rw [keys, List.length_eq_zero_iff.mp hzero] at hmem
  cases hmem

end Dict
end HomeAutomation
