import Mathlib.Data.List.ReduceOption
import Mathlib.Data.List.Perm.Basic

/-!
# Tables of slots

A table is a list of slots, each of them free or taken.  What comes is put into the
first free slot, and what goes is taken from the first slot that is not free, or from a
slot that is known.

## Main definitions

* `contents` — what the slots hold, in their order.
* `put`, `take` — the first free slot is taken, the first taken slot is freed.
* `Packed` — no free slot lies before one that is taken.

## Main results

* `contents_take` — what is taken is the first of the contents.
* `contents_put_perm`, `contents_put_of_packed` — what is put is among the contents;
  it is the last of them when the slots are packed.
* `put_eq_none_iff` — there is no room exactly when every slot is taken.
* `contents_set_none` — a slot is freed.
-/

namespace HomeAutomation
namespace Slots

variable {α : Type*}

/-- What the slots hold, in their order. -/
def contents (slots : List (Option α)) : List α := slots.reduceOption

/-- The first free slot is taken. -/
def put (a : α) : List (Option α) → Option (List (Option α))
  | [] => none
  | none :: slots => some (some a :: slots)
  | some b :: slots => (put a slots).map (some b :: ·)

/-- The first slot that is not free is freed. -/
def take : List (Option α) → Option (α × List (Option α))
  | [] => none
  | none :: slots => (take slots).map fun r => (r.1, none :: r.2)
  | some a :: slots => some (a, none :: slots)

/-- No free slot lies before one that is taken. -/
def Packed : List (Option α) → Prop
  | [] => True
  | none :: slots => contents slots = []
  | some _ :: slots => Packed slots

@[simp] theorem contents_nil : contents ([] : List (Option α)) = [] := rfl

@[simp] theorem contents_none_cons (slots : List (Option α)) :
    contents (none :: slots) = contents slots := rfl

@[simp] theorem contents_some_cons (a : α) (slots : List (Option α)) :
    contents (some a :: slots) = a :: contents slots := rfl

theorem mem_contents {a : α} {slots : List (Option α)} : a ∈ contents slots ↔ some a ∈ slots :=
  List.reduceOption_mem_iff

/-! ### Putting -/

theorem length_put {a : α} : ∀ {slots slots' : List (Option α)}, put a slots = some slots' →
    slots'.length = slots.length := by
  intro slots
  induction slots with
  | nil => intro slots' h; cases h
  | cons b slots ih =>
    intro slots' h
    cases b with
    | none =>
      cases h
      rfl
    | some b =>
      obtain ⟨slots₁, h₁, rfl⟩ := Option.map_eq_some_iff.mp h
      rw [List.length_cons, List.length_cons, ih h₁]

/-- **There is no room exactly when every slot is taken.** -/
theorem put_eq_none_iff {a : α} {slots : List (Option α)} :
    put a slots = none ↔ (contents slots).length = slots.length := by
  induction slots with
  | nil => exact iff_of_true rfl rfl
  | cons b slots ih =>
    cases b with
    | none =>
      have hle : (contents slots).length ≤ slots.length := List.reduceOption_length_le slots
      refine iff_of_false nofun fun h => ?_
      rw [contents_none_cons, List.length_cons] at h
      omega
    | some b =>
      rw [put, Option.map_eq_none_iff, ih, contents_some_cons, List.length_cons, List.length_cons]
      omega

theorem put_isSome_iff {a : α} {slots : List (Option α)} :
    (put a slots).isSome = true ↔ none ∈ slots := by
  induction slots with
  | nil => simp [put]
  | cons b slots ih =>
    cases b with
    | none => simp [put]
    | some b => simpa [put] using ih

/-- **What is put is among the contents**, and they are the same otherwise. -/
theorem contents_put_perm {a : α} : ∀ {slots slots' : List (Option α)},
    put a slots = some slots' → (contents slots').Perm (a :: contents slots) := by
  intro slots
  induction slots with
  | nil => intro slots' h; cases h
  | cons b slots ih =>
    intro slots' h
    cases b with
    | none =>
      cases h
      exact .refl _
    | some b =>
      obtain ⟨slots₁, h₁, rfl⟩ := Option.map_eq_some_iff.mp h
      exact ((ih h₁).cons b).trans (List.Perm.swap a b _)

/-- **What is put into packed slots is the last of the contents.** -/
theorem contents_put_of_packed {a : α} : ∀ {slots slots' : List (Option α)}, Packed slots →
    put a slots = some slots' → contents slots' = contents slots ++ [a] := by
  intro slots
  induction slots with
  | nil => intro slots' _ h; cases h
  | cons b slots ih =>
    intro slots' hpacked h
    cases b with
    | none =>
      cases h
      -- behind a free slot nothing is held
      have hempty : contents slots = [] := hpacked
      rw [contents_some_cons, contents_none_cons, hempty, List.nil_append]
    | some b =>
      obtain ⟨slots₁, h₁, rfl⟩ := Option.map_eq_some_iff.mp h
      rw [contents_some_cons, contents_some_cons, ih hpacked h₁, List.cons_append]

/-! ### Taking -/

/-- **What is taken is the first of the contents.** -/
theorem contents_take : ∀ {slots : List (Option α)} {r : α × List (Option α)},
    take slots = some r → contents slots = r.1 :: contents r.2 := by
  intro slots
  induction slots with
  | nil => intro r h; cases h
  | cons b slots ih =>
    intro r h
    cases b with
    | none =>
      obtain ⟨r₁, h₁, rfl⟩ := Option.map_eq_some_iff.mp h
      have hslots := ih h₁
      exact hslots
    | some b =>
      cases h
      rfl

/-- A slot that is taken is freed. -/
theorem contents_set_none {a : α} : ∀ {slots : List (Option α)} {i : ℕ},
    slots[i]? = some (some a) → (contents slots).Perm (a :: contents (slots.set i none)) := by
  intro slots
  induction slots with
  | nil => intro i h; simp at h
  | cons b slots ih =>
    intro i h
    cases i with
    | zero =>
      obtain rfl : b = some a := by simpa using h
      exact .refl _
    | succ i =>
      rw [List.getElem?_cons_succ] at h
      cases b with
      | none => exact ih h
      | some b => exact ((ih h).cons b).trans (List.Perm.swap a b _)

end Slots
end HomeAutomation
