import HomeAutomation.Lib.OrderedMap
import HomeAutomation.Lib.Run

/-!
# Runs of many systems side by side

A map holds the states of several systems, one under each key, and every event goes to one
of them.  The systems do not touch each other, so what becomes of one of them is what its
own events make of it, in whatever order the events of the others come between.

## Main definitions

* `keyed step` — the step of the map: the event goes to the system under its key.
* `eventsOf k es` — the events of a run that go to the system under `k`.
* `Runs step m es k` — what becomes of that system in them.

## Main results

* `find_exec_keyed` — what becomes of every system.
* `exists_exec_keyed_iff` — a run of the map comes to its end exactly when the runs of the
  systems it goes to do.
-/

namespace HomeAutomation
namespace Run

variable {K S E : Type*} [LinearOrder K] (step : S → E → Option S)

/-- The event goes to the system under its key. -/
def keyed (m : OrderedMap K S) (e : K × E) : Option (OrderedMap K S) :=
  (m.find e.1).bind fun s => (step s e.2).map (m.insert e.1)

/-- The events for the system under `k`, in their order. -/
def eventsOf (k : K) (es : List (K × E)) : List E :=
  (es.filter fun e => e.1 = k).map Prod.snd

theorem eventsOf_cons_self (e : K × E) (es : List (K × E)) :
    eventsOf e.1 (e :: es) = e.2 :: eventsOf e.1 es := by
  simp [eventsOf]

theorem eventsOf_cons_other {e : K × E} {k : K} (h : e.1 ≠ k) (es : List (K × E)) :
    eventsOf k (e :: es) = eventsOf k es := by
  simp [eventsOf, h]

variable {step}

theorem keyed_eq_some_iff {m m' : OrderedMap K S} {e : K × E} :
    keyed step m e = some m' ↔
      ∃ s s', m.find e.1 = some s ∧ step s e.2 = some s' ∧ m.insert e.1 s' = m' := by
  simp only [keyed, Option.bind_eq_some_iff, Option.map_eq_some_iff]
  constructor
  · rintro ⟨s, hfind, s', hstep, hinsert⟩
    exact ⟨s, s', hfind, hstep, hinsert⟩
  · rintro ⟨s, s', hfind, hstep, hinsert⟩
    exact ⟨s, hfind, s', hstep, hinsert⟩

/-- What becomes of the system under `k` in its events of the run. -/
def Runs (step : S → E → Option S) (m : OrderedMap K S) (es : List (K × E)) (k : K) : Option S :=
  (m.find k).bind fun s => exec step s (eventsOf k es)

/-- **One step**: what the systems have before them is what they have behind it. -/
theorem runs_cons {m m' : OrderedMap K S} {e : K × E} (h : keyed step m e = some m')
    (es : List (K × E)) (k : K) : Runs step m (e :: es) k = Runs step m' es k := by
  obtain ⟨s, s', hfind, hstep, rfl⟩ := keyed_eq_some_iff.mp h
  unfold Runs
  rw [OrderedMap.find_insert]
  by_cases hk : k = e.1
  · rw [hk, if_pos rfl, hfind, eventsOf_cons_self, Option.bind_some, exec, hstep]
  · rw [if_neg hk, eventsOf_cons_other (Ne.symm hk)]

/-- **What becomes of every system** in a run that comes to its end. -/
theorem find_exec_keyed : ∀ {es : List (K × E)} {m m' : OrderedMap K S},
    exec (keyed step) m es = some m' → ∀ k, m'.find k = Runs step m es k := by
  intro es
  induction es with
  | nil =>
    intro m m' h k
    cases h
    unfold Runs
    cases m.find k with
    | none => rfl
    | some s => rfl
  | cons e es ih =>
    intro m m' h k
    obtain ⟨m₁, hstep, hrun⟩ := Option.bind_eq_some_iff.mp h
    rw [ih hrun k, runs_cons hstep]

/-- No event adds a system or removes one. -/
theorem isSome_find_exec : ∀ {es : List (K × E)} {m m' : OrderedMap K S},
    exec (keyed step) m es = some m' → ∀ k, (m'.find k).isSome = (m.find k).isSome := by
  intro es
  induction es with
  | nil =>
    intro m m' h k
    cases h
    rfl
  | cons e es ih =>
    intro m m' h k
    obtain ⟨m₁, hstep, hrun⟩ := Option.bind_eq_some_iff.mp h
    obtain ⟨s, s', hfind, -, rfl⟩ := keyed_eq_some_iff.mp hstep
    rw [ih hrun k, OrderedMap.find_insert]
    by_cases hk : k = e.1
    · rw [if_pos hk, hk, hfind]
      rfl
    · rw [if_neg hk]

/-- **A run comes to its end exactly when those of its systems do.** -/
theorem exists_exec_keyed_iff : ∀ {es : List (K × E)} {m : OrderedMap K S},
    (∃ m', exec (keyed step) m es = some m') ↔ ∀ e ∈ es, ∃ s, Runs step m es e.1 = some s := by
  intro es
  induction es with
  | nil => exact fun {m} => iff_of_true ⟨m, rfl⟩ fun e he => absurd he List.not_mem_nil
  | cons e es ih =>
    intro m
    constructor
    · rintro ⟨m', h⟩ e' he'
      obtain ⟨m₁, hstep, hrun⟩ := Option.bind_eq_some_iff.mp h
      rw [runs_cons hstep]
      obtain rfl | he' := List.mem_cons.mp he'
      · -- the system is there behind its step, and no event removes it
        obtain ⟨s, s', -, -, rfl⟩ := keyed_eq_some_iff.mp hstep
        rw [← find_exec_keyed hrun]
        exact Option.isSome_iff_exists.mp ((isSome_find_exec hrun e'.1).trans (by simp))
      · exact ih.mp ⟨m', hrun⟩ e' he'
    · intro h
      obtain ⟨s, hs⟩ := h e List.mem_cons_self
      obtain ⟨s₀, hfind, hrun⟩ := Option.bind_eq_some_iff.mp hs
      rw [eventsOf_cons_self] at hrun
      obtain ⟨s₁, hstep, -⟩ := Option.bind_eq_some_iff.mp hrun
      have hkeyed : keyed step m e = some (m.insert e.1 s₁) :=
        keyed_eq_some_iff.mpr ⟨s₀, s₁, hfind, hstep, rfl⟩
      obtain ⟨m', hm'⟩ := ih.mpr fun e' he' => by
        rw [← runs_cons hkeyed]
        exact h e' (List.mem_cons_of_mem e he')
      exact ⟨m', by rw [exec, hkeyed]; exact hm'⟩

end Run
end HomeAutomation
