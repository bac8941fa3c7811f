import Mathlib.Data.List.Basic
import Mathlib.Data.List.TakeWhile

/-!
# Searching text

The searches of `std::string` and of C strings, on lists of characters.  The
`std::string` searches take a start position and return a position, `none`
standing for `npos`; the C searches return the rest of the text from the match
on, `none` standing for a null pointer.

A scanner that steps with these searches from one run of characters to the next
visits the tokens of the text.

## Main definitions

* `findFirstOf`, `findFirstNotOf` — the character searches.
* `find` — the substring search.
* `substr` — the text of a given length from a position.
* `strstr`, `strchr` — the C searches.
* `tokens` — the maximal runs of characters that are no separators.

## Main results

* `findFirstOf_append`, `findFirstOf_append_none` — the first hit behind a known
  beginning.
* `substr_append` — the piece between two known ends.
* `exists_token`, `tokens_run` — the first token of a text, and those behind it.
* `findFirstOf_run` — a search for the end of a token.
-/

namespace HomeAutomation
namespace Str

/-! ### Positions -/

/-- `s.find_first_of(set, pos)`, the set given by its membership test. -/
def findFirstOf (p : Char → Bool) (s : List Char) (pos : ℕ) : Option ℕ :=
  ((s.drop pos).findIdx? p).map (· + pos)

/-- `s.find_first_not_of(set, pos)`. -/
def findFirstNotOf (p : Char → Bool) (s : List Char) (pos : ℕ) : Option ℕ :=
  findFirstOf (fun c => !p c) s pos

/-- The first position at which `t` occurs. -/
def indexOf (t : List Char) : List Char → Option ℕ
  | [] => if t = [] then some 0 else none
  | c :: s => if t.isPrefixOf (c :: s) then some 0 else (indexOf t s).map (· + 1)

/-- `s.find(t, pos)`. -/
def find (t s : List Char) (pos : ℕ) : Option ℕ := (indexOf t (s.drop pos)).map (· + pos)

/-- `s.substr(pos, n)`, for a position inside the string. -/
def substr (s : List Char) (pos n : ℕ) : List Char := (s.drop pos).take n

/-! ### C strings -/

/-- `strstr(s, t)`. -/
def strstr (s t : List Char) : Option (List Char) := (indexOf t s).map s.drop

/-- `strchr(s, c)`. -/
def strchr (s : List Char) (c : Char) : Option (List Char) := (s.findIdx? (· == c)).map s.drop

/-! ### Searching from the end of a known beginning -/

theorem findIdx?_eq_length {p : Char → Bool} {w r : List Char} {c : Char}
    (hw : ∀ x ∈ w, p x = false) (hc : p c = true) :
    (w ++ c :: r).findIdx? p = some w.length := by
  induction w with
  | nil => simp [List.findIdx?_cons, hc]
  | cons x w ih =>
    have hx : p x = false := hw x (by simp)
    have := ih fun y hy => hw y (by simp [hy])
    simp [List.findIdx?_cons, hx, this]

theorem findFirstOf_append {p : Char → Bool} (a : List Char) {w r : List Char} {c : Char}
    (hw : ∀ x ∈ w, p x = false) (hc : p c = true) :
    findFirstOf p (a ++ (w ++ c :: r)) a.length = some (a.length + w.length) := by
  rw [findFirstOf, List.drop_left, findIdx?_eq_length hw hc, Option.map_some, Nat.add_comm]

theorem findFirstOf_append_none {p : Char → Bool} (a : List Char) {w : List Char}
    (hw : ∀ x ∈ w, p x = false) : findFirstOf p (a ++ w) a.length = none := by
  rw [findFirstOf, List.drop_left, List.findIdx?_eq_none_iff.mpr hw, Option.map_none]

/-- A search that finds nothing in the whole text. -/
theorem findFirstOf_zero_eq_none_iff {p : Char → Bool} {s : List Char} :
    findFirstOf p s 0 = none ↔ ∀ x ∈ s, p x = false := by
  simp [findFirstOf, List.findIdx?_eq_none_iff]

/-- A text is found at the beginning of another exactly when that begins with it. -/
theorem find_eq_zero_iff {t s : List Char} (ht : t ≠ []) : find t s 0 = some 0 ↔ t <+: s := by
  rw [find, List.drop_zero]
  cases s with
  | nil => simp [indexOf, ht]
  | cons c s =>
    rw [indexOf, ← List.isPrefixOf_iff_prefix]
    cases t.isPrefixOf (c :: s) with
    | true => simp
    | false => simp

/-- A hit lies between the start position and the end of the text. -/
theorem findFirstOf_bounds {p : Char → Bool} {s : List Char} {pos i : ℕ}
    (h : findFirstOf p s pos = some i) : pos ≤ i ∧ i < s.length := by
  obtain ⟨j, hj, rfl⟩ := Option.map_eq_some_iff.mp h
  have hlt : j < (s.drop pos).length := (List.findIdx?_eq_some_iff_getElem.mp hj).1
  rw [List.length_drop] at hlt
  omega

theorem substr_append (a w b : List Char) :
    substr (a ++ (w ++ b)) a.length w.length = w := by
  rw [substr, List.drop_left, List.take_left]

/-! ### Tokens -/

/-- The maximal runs of characters that are no separators. -/
def tokens (sep : Char → Bool) (s : List Char) : List (List Char) :=
  (s.splitOnP sep).filter fun t => t ≠ []

theorem tokens_append_cons {sep : Char → Bool} {c : Char} (hc : sep c = true) (x y : List Char) :
    tokens sep (x ++ c :: y) = tokens sep x ++ tokens sep y := by
  rw [tokens, List.splitOnP_append_cons x y hc, List.filter_append]
  rfl

/-- Separators are no part of a token. -/
theorem tokens_blank {sep : Char → Bool} {b : List Char} (hb : ∀ c ∈ b, sep c = true)
    (s : List Char) : tokens sep (b ++ s) = tokens sep s := by
  induction b with
  | nil => rfl
  | cons c b ih =>
    have hc : sep c = true := hb c List.mem_cons_self
    rw [← ih fun d hd => hb d (List.mem_cons_of_mem c hd), List.cons_append]
    exact tokens_append_cons hc [] (b ++ s)

theorem tokens_eq_nil {sep : Char → Bool} {s : List Char} (hs : ∀ c ∈ s, sep c = true) :
    tokens sep s = [] := by
  have := tokens_blank hs []
  rwa [List.append_nil] at this

/-- What stands behind a token: nothing, or a separator. -/
def EndsToken (sep : Char → Bool) (rest : List Char) : Prop := ∀ c ∈ rest.head?, sep c = true

/-- A run that ends with the text or before a separator is a token. -/
theorem tokens_run {sep : Char → Bool} {t rest : List Char} (hne : t ≠ [])
    (ht : ∀ c ∈ t, sep c = false) (hrest : EndsToken sep rest) :
    tokens sep (t ++ rest) = t :: tokens sep rest := by
  have hsingle : tokens sep t = [t] := by
    rw [tokens, List.splitOnP_eq_singleton ht]
    simp [hne]
  cases rest with
  | nil => rw [List.append_nil, hsingle, tokens_eq_nil (s := []) (by simp)]
  | cons c rest =>
    have hc : sep c = true := hrest c rfl
    rw [tokens_append_cons hc, hsingle, ← tokens_blank (b := [c]) (by simpa using hc) rest]
    rfl

/-- The run without separators that a text begins with. -/
theorem exists_run (sep : Char → Bool) (s : List Char) :
    ∃ w rest, s = w ++ rest ∧ (∀ c ∈ w, sep c = false) ∧ EndsToken sep rest := by
  refine ⟨s.takeWhile (fun c => !sep c), s.dropWhile (fun c => !sep c),
    List.takeWhile_append_dropWhile.symm, fun c hc => ?_, fun c hc => ?_⟩
  · simpa using List.mem_takeWhile_imp hc
  · have := List.head?_dropWhile_not (fun c => !sep c) s
    rw [Option.mem_def.mp hc] at this
    simpa using this

/-- The search for the end of a run finds it, or nothing at the end of the text. -/
theorem findFirstOf_run {sep : Char → Bool} (a : List Char) {w rest : List Char}
    (hw : ∀ c ∈ w, sep c = false) (hrest : EndsToken sep rest) :
    (findFirstOf sep (a ++ (w ++ rest)) a.length).getD (a ++ (w ++ rest)).length
      = (a ++ w).length := by
  cases rest with
  | nil => rw [List.append_nil, findFirstOf_append_none a hw, Option.getD_none]
  | cons c rest =>
    rw [findFirstOf_append a hw (hrest c rfl), Option.getD_some, List.length_append]

/-- **The first token of a text** that does not only consist of separators. -/
theorem exists_token {sep : Char → Bool} {s : List Char} (h : ¬ ∀ c ∈ s, sep c = true) :
    ∃ b t rest, s = b ++ (t ++ rest) ∧ (∀ c ∈ b, sep c = true) ∧ t ≠ [] ∧
      (∀ c ∈ t, sep c = false) ∧ EndsToken sep rest := by
  -- the separators in front, and what is left of the text
  obtain ⟨b, r, rfl, hb, hr⟩ := exists_run (fun c => !sep c) s
  obtain ⟨t, rest, rfl, ht, hrest⟩ := exists_run sep r
  have hblank : ∀ c ∈ b, sep c = true := fun c hc => by simpa using hb c hc
  refine ⟨b, t, rest, rfl, hblank, ?_, ht, hrest⟩
  rintro rfl
  cases rest with
  | nil => exact h fun c hc => hblank c (by simpa using hc)
  | cons c rest =>
    have hsep : sep c = true := hrest c rfl
    have hnot : sep c = false := by simpa using hr c rfl
    rw [hsep] at hnot
    cases hnot

/-! ### Searches in a C string -/

/-- A C search for a character that is not there. -/
theorem strchr_eq_none_iff {s : List Char} {c : Char} : strchr s c = none ↔ c ∉ s := by
  constructor
  · intro h hc
    have := List.findIdx?_eq_none_iff.mp (Option.map_eq_none_iff.mp h) c hc
    simp at this
  · intro h
    rw [strchr, List.findIdx?_eq_none_iff.mpr, Option.map_none]
    intro x hx
    simpa using fun hxc : x = c => h (hxc ▸ hx)

theorem mem_iff_strchr_isSome {s : List Char} {c : Char} :
    c ∈ s ↔ (strchr s c).isSome = true := by
  rw [← Option.ne_none_iff_isSome, ne_eq, strchr_eq_none_iff, not_not]

/-- A C search passes over a beginning without the character. -/
theorem strchr_append {a s : List Char} {c : Char} (ha : c ∉ a) :
    strchr (a ++ s) c = strchr s c := by
  induction a with
  | nil => rfl
  | cons x a ih =>
    obtain ⟨hx, ha⟩ : c ≠ x ∧ c ∉ a := by simpa using ha
    rw [← ih ha]
    simp [strchr, List.findIdx?_cons, Ne.symm hx, Function.comp_def]

end Str
end HomeAutomation
