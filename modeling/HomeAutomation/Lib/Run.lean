import Mathlib.Data.List.Basic

/-!
# Runs of a partial step function

A system is a function `step : S → E → Option S` from a state and an event to
the next state; `none` means that the system does not come back from the event.
A run is a list of events, and stops where `step` does.

## Main definitions

* `Always step P s es` — `P` holds in every state the run `es` from `s` reaches,
  `s` included.
* `Along step C s es` — every event of the run is met in a state that satisfies
  the condition `C` for it.
* `Reachable step init s` — some run from an initial state reaches `s`.
* `trace step s es`, `last step s es` — the steps of a run, and the state it comes to.
* `lastWrite writes steps` — the last value that the steps of a run write.

## Main results

* `always_of_along` — an invariant that every admissible step keeps holds
  throughout a run of admissible steps.
* `always_iff_along` — if moreover every inadmissible step breaks the property,
  the property holds throughout exactly the runs of admissible steps.
* `Reachable.invariant` — the rule for reachable states.
* `trace_rule` — what every step of a run satisfies.
* `always_iff_trace` — the exact-condition rule where a step may not come back.
* `trace_conserves` — what goes into a queue comes out of it in order, or is still
  in it.
* `foldl_rule` — what is counted along a run.
* `forall_steps_iff` — the exact-condition rule for steps, given what was counted before.
* `trace_split` — behind any of its steps a run is a run from there.
* `read_last` — a register holds what a run wrote to it last.
-/

namespace HomeAutomation
namespace Run

variable {S E : Type*} (step : S → E → Option S)

/-- `P` holds in every state that the run reaches. -/
def Always (P : S → Prop) : S → List E → Prop
  | s, [] => P s
  | s, e :: es => P s ∧ ∀ s', step s e = some s' → Always P s' es

/-- Every event of the run is met in a state that satisfies `C` for it. -/
def Along (C : S → E → Prop) : S → List E → Prop
  | _, [] => True
  | s, e :: es => C s e ∧ ∀ s', step s e = some s' → Along C s' es

/-- The state after a run, if the run comes to its end. -/
def exec : S → List E → Option S
  | s, [] => some s
  | s, e :: es => (step s e).bind fun s' => exec s' es

variable {step}

/-- A run is the one that follows another. -/
theorem exec_append (s : S) (es fs : List E) :
    exec step s (es ++ fs) = (exec step s es).bind fun s' => exec step s' fs := by
  induction es generalizing s with
  | nil => rfl
  | cons e es ih =>
    rw [List.cons_append, exec, exec]
    cases step s e with
    | none => rfl
    | some s' => exact ih s'

/-- Behind events that keep an invariant, every event is met in a state that has it. -/
theorem along_of_invariant {Inv : S → Prop} {C : E → Prop}
    (hstep : ∀ s e s', Inv s → C e → step s e = some s' → Inv s') :
    ∀ (es : List E) (s : S), Inv s → (∀ e ∈ es, C e) →
      Along step (fun s e => Inv s ∧ C e) s es := by
  intro es
  induction es with
  | nil => exact fun _ _ _ => trivial
  | cons e es ih =>
    intro s hs h
    have he := h e List.mem_cons_self
    exact ⟨⟨hs, he⟩, fun s' hs' =>
      ih s' (hstep s e s' hs he hs') fun e he => h e (List.mem_cons_of_mem _ he)⟩

theorem Always.head {P : S → Prop} {s : S} {es : List E} (h : Always step P s es) : P s := by
  cases es with
  | nil => exact h
  | cons e es => exact h.1

theorem Always.mono {P Q : S → Prop} (hPQ : ∀ s, P s → Q s) : ∀ {es : List E} {s : S},
    Always step P s es → Always step Q s es := by
  intro es
  induction es with
  | nil => exact fun {s} h => hPQ s h
  | cons e es ih => exact fun {s} h => ⟨hPQ s h.1, fun s' hs' => ih (h.2 s' hs')⟩

/-- A condition on the events alone. -/
theorem along_of_forall {C : E → Prop} : ∀ {es : List E} {s : S}, (∀ e ∈ es, C e) →
    Along step (fun _ e => C e) s es := by
  intro es
  induction es with
  | nil => exact fun _ => trivial
  | cons e es ih =>
    intro s h
    exact ⟨h e List.mem_cons_self, fun _ _ => ih fun e he => h e (List.mem_cons_of_mem _ he)⟩

/-- **The invariant rule for runs.** -/
theorem always_of_along {C : S → E → Prop} {Inv P : S → Prop}
    (hstep : ∀ s e s', Inv s → C s e → step s e = some s' → Inv s')
    (hP : ∀ s, Inv s → P s) :
    ∀ (es : List E) (s : S), Inv s → Along step C s es → Always step P s es := by
  intro es
  induction es with
  | nil => intro s hs _; exact hP s hs
  | cons e es ih =>
    intro s hs h
    exact ⟨hP s hs, fun s' hs' => ih s' (hstep s e s' hs h.1 hs') (h.2 s' hs')⟩

/-- The rule for an invariant that every step keeps. -/
theorem always_of_step {Inv : S → Prop} (hstep : ∀ s e s', Inv s → step s e = some s' → Inv s') :
    ∀ (es : List E) (s : S), Inv s → Always step Inv s es := by
  intro es
  induction es with
  | nil => intro s hs; exact hs
  | cons e es ih => exact fun s hs => ⟨hs, fun s' hs' => ih s' (hstep s e s' hs hs')⟩

/-- **The exact-condition rule for runs**: a property that every admissible step
keeps, and that no inadmissible step leaves standing, holds throughout exactly
the runs of admissible steps. -/
theorem always_iff_along {C : S → E → Prop} {I P : S → Prop}
    (hstep : ∀ s e s', I s → C s e → step s e = some s' → I s')
    (hP : ∀ s, I s → P s)
    (hbad : ∀ s e, I s → ¬ C s e → ∃ s', step s e = some s' ∧ ¬ P s') :
    ∀ (es : List E) (s : S), I s → (Always step P s es ↔ Along step C s es) := by
  intro es
  induction es with
  | nil => intro s hs; exact iff_of_true (hP s hs) trivial
  | cons e es ih =>
    intro s hs
    constructor
    · rintro ⟨-, h⟩
      have hC : C s e := by
        by_contra hC
        obtain ⟨s', hs', hn⟩ := hbad s e hs hC
        exact hn (h s' hs').head
      exact ⟨hC, fun s' hs' => (ih s' (hstep s e s' hs hC hs')).mp (h s' hs')⟩
    · exact fun h => always_of_along hstep hP (e :: es) s hs h

/-- A run that comes to its end ends in a state of which the property holds. -/
theorem Always.exec {P : S → Prop} : ∀ {es : List E} {s s' : S},
    Always step P s es → exec step s es = some s' → P s' := by
  intro es
  induction es with
  | nil =>
    intro s s' h hs'
    cases hs'
    exact h
  | cons e es ih =>
    intro s s' h hs'
    obtain ⟨t, ht, hs'⟩ := Option.bind_eq_some_iff.mp hs'
    exact ih (h.2 t ht) hs'

/-! ### Reachable states -/

variable (step) in
/-- The states some run from an initial state reaches. -/
inductive Reachable (init : S → Prop) : S → Prop
  | init {s : S} : init s → Reachable init s
  | step {s s' : S} (e : E) : Reachable init s → step s e = some s' → Reachable init s'

/-- **The invariant rule for reachable states.** -/
theorem Reachable.invariant {init Inv : S → Prop} (hinit : ∀ s, init s → Inv s)
    (hstep : ∀ s e s', Inv s → step s e = some s' → Inv s') {s : S}
    (h : Reachable step init s) : Inv s := by
  induction h with
  | init hs => exact hinit _ hs
  | step e _ hs ih => exact hstep _ e _ ih hs

/-- A run from an initial state ends in a reachable state. -/
theorem reachable_of_exec {init : S → Prop} : ∀ {es : List E} {s s' : S}, init s →
    exec step s es = some s' → Reachable step init s' := by
  intro es s s' hs hexec
  have hgen : ∀ (es : List E) (t : S), Reachable step init t → exec step t es = some s' →
      Reachable step init s' := by
    intro es
    induction es with
    | nil =>
      intro t ht h
      cases h
      exact ht
    | cons e es ih =>
      intro t ht h
      obtain ⟨t', ht', h⟩ := Option.bind_eq_some_iff.mp h
      exact ih t' (.step e ht ht') h
  exact hgen es s (.init hs) hexec

/-! ### Traces -/

variable (step) in
/-- The steps of a run: the state before, the event, and the state after. -/
def trace : S → List E → List (S × E × S)
  | _, [] => []
  | s, e :: es =>
    match step s e with
    | none => []
    | some s' => (s, e, s') :: trace s' es

variable (step) in
/-- The state that a run comes to. -/
def last : S → List E → S
  | s, [] => s
  | s, e :: es =>
    match step s e with
    | none => s
    | some s' => last s' es

/-- **The rule for the steps of a run.** -/
theorem trace_rule {Inv : S → Prop} {R : S → E → S → Prop}
    (hstep : ∀ s e s', Inv s → step s e = some s' → Inv s' ∧ R s e s') :
    ∀ (es : List E) (s : S), Inv s → ∀ t ∈ trace step s es, R t.1 t.2.1 t.2.2 := by
  intro es
  induction es with
  | nil => intro s _ t ht; cases ht
  | cons e es ih =>
    intro s hs t ht
    rw [trace] at ht
    split at ht
    · cases ht
    · next s' hs' =>
      obtain ⟨hinv, hR⟩ := hstep s e s' hs hs'
      rcases List.mem_cons.mp ht with rfl | ht
      · exact hR
      · exact ih s' hinv t ht

/-- The steps of a run start where the property holds. -/
theorem Always.trace {P : S → Prop} : ∀ {es : List E} {s : S}, Always step P s es →
    ∀ t ∈ trace step s es, P t.1 ∧ step t.1 t.2.1 = some t.2.2 := by
  intro es
  induction es with
  | nil => intro s _ t ht; cases ht
  | cons e es ih =>
    intro s h t ht
    rw [Run.trace] at ht
    split at ht
    · cases ht
    · next s' hs' =>
      obtain rfl | ht := List.mem_cons.mp ht
      · exact ⟨h.1, hs'⟩
      · exact ih (h.2 s' hs') t ht

/-- **The exact-condition rule for steps that may not come back**: a property that every
admissible step keeps, and no other one, holds throughout exactly the runs whose steps
are admissible. -/
theorem always_iff_trace {C : S → E → Prop} {I P : S → Prop}
    (hstep : ∀ s e s', I s → C s e → step s e = some s' → I s')
    (hP : ∀ s, I s → P s)
    (hbad : ∀ s e s', I s → ¬ C s e → step s e = some s' → ¬ P s') :
    ∀ (es : List E) (s : S), I s →
      (Always step P s es ↔ ∀ t ∈ trace step s es, C t.1 t.2.1) := by
  intro es
  induction es with
  | nil =>
    intro s hs
    exact iff_of_true (hP s hs) nofun
  | cons e es ih =>
    intro s hs
    rw [Run.trace]
    cases hresult : step s e with
    -- the run stands still
    | none => exact iff_of_true ⟨hP s hs, fun s' hs' => nomatch hresult.symm.trans hs'⟩ nofun
    | some s' =>
      rw [List.forall_mem_cons]
      constructor
      · rintro ⟨-, h⟩
        -- a step without the condition breaks the property at once
        have hC : C s e := by
          by_contra hC
          exact hbad s e s' hs hC hresult (h s' hresult).head
        exact ⟨hC, (ih s' (hstep s e s' hs hC hresult)).mp (h s' hresult)⟩
      · rintro ⟨hC, h⟩
        refine ⟨hP s hs, fun s'' hs'' => ?_⟩
        cases hresult.symm.trans hs''
        exact (ih s' (hstep s e s' hs hC hresult)).mpr h

/-- **The rule for queues**: what is held and what comes in is what goes out and what
is held at the end, in order. -/
theorem trace_conserves {α : Type*} {Inv : S → Prop} (held : S → List α)
    (comes goes : S → E → List α)
    (hstep : ∀ s e s', Inv s → step s e = some s' →
      Inv s' ∧ held s ++ comes s e = goes s e ++ held s') :
    ∀ (es : List E) (s : S), Inv s →
      held s ++ (trace step s es).flatMap (fun t => comes t.1 t.2.1)
        = (trace step s es).flatMap (fun t => goes t.1 t.2.1) ++ held (last step s es) := by
  intro es
  induction es with
  | nil => intro s _; simp [trace, last]
  | cons e es ih =>
    intro s hs
    rw [trace, last]
    split
    · simp
    · next s' hs' =>
      obtain ⟨hinv, hqueue⟩ := hstep s e s' hs hs'
      rw [List.flatMap_cons, List.flatMap_cons, ← List.append_assoc, hqueue, List.append_assoc,
        ih s' hinv, List.append_assoc]

/-- **The rule for what is counted along a run**: what a state and a count have in common,
when every step keeps it. -/
theorem foldl_rule {γ : Type*} {J : S → γ → Prop} (count : γ → S × E × S → γ)
    (hstep : ∀ s e s' k, J s k → step s e = some s' → J s' (count k (s, e, s'))) :
    ∀ {es : List E} {s s' : S} {k : γ}, J s k → exec step s es = some s' →
      J s' ((trace step s es).foldl count k) := by
  intro es
  induction es with
  | nil =>
    intro s s' k hs h
    cases h
    exact hs
  | cons e es ih =>
    intro s s' k hs h
    obtain ⟨t, ht, h⟩ := Option.bind_eq_some_iff.mp h
    rw [trace, ht]
    exact ih (hstep s e t k hs ht) h

/-- Behind any of its steps a run goes on as a run from there. -/
theorem trace_split : ∀ {es : List E} {s : S} {before after : List (S × E × S)} {t : S × E × S},
    trace step s es = before ++ t :: after →
      ∃ es', trace step t.2.2 es' = after ∧ last step t.2.2 es' = last step s es := by
  intro es
  induction es with
  | nil =>
    intro s before after t h
    simp [trace] at h
  | cons e es ih =>
    intro s before after t h
    rw [trace] at h
    rw [last]
    split at h
    -- the run stands still, and its trace is empty
    · simp at h
    · next s' hs' =>
      cases before with
      | nil =>
        cases h
        exact ⟨es, rfl, rfl⟩
      | cons t' before =>
        obtain ⟨es', htrace, hlast⟩ := ih (List.cons.inj h).2
        exact ⟨es', htrace, hlast⟩

/-! ### Steps and what came before them -/

/-- The splits of a list at one of its members, by its head and its tail. -/
theorem forall_split_cons {α : Type*} {R : List α → α → Prop} {a : α} {l : List α} :
    (∀ before t after, a :: l = before ++ t :: after → R before t) ↔
      R [] a ∧ ∀ before t after, l = before ++ t :: after → R (a :: before) t := by
  constructor
  · intro h
    exact ⟨h [] a l rfl, fun before t after hl => h (a :: before) t after (by rw [hl]; rfl)⟩
  · rintro ⟨hhead, htail⟩ before t after hl
    cases before with
    | nil =>
      cases hl
      exact hhead
    | cons b before =>
      cases hl
      exact htail before t after rfl

/-- **The exact-condition rule for steps with a history**: a property of a step, given what
was counted before it, holds of all steps of a run exactly when its condition does, if the
two are equivalent wherever an invariant of state and count holds, and the invariant is kept
by the steps that meet the condition. -/
theorem forall_steps_iff {γ : Type*} (count : γ → S × E × S → γ) {J : S → γ → Prop}
    {P C : γ → S × E × S → Prop}
    (hstep : ∀ s e s' k, J s k → step s e = some s' →
      (P k (s, e, s') ↔ C k (s, e, s')) ∧ (C k (s, e, s') → J s' (count k (s, e, s')))) :
    ∀ (es : List E) (s : S) (k : γ), J s k →
      ((∀ before t after, trace step s es = before ++ t :: after → P (before.foldl count k) t) ↔
        ∀ before t after, trace step s es = before ++ t :: after →
          C (before.foldl count k) t) := by
  intro es
  induction es with
  | nil =>
    intro s k _
    have hnone : ∀ before t after, trace step s [] ≠ before ++ t :: after := by
      intro before t after h
      simp [trace] at h
    exact iff_of_true (fun _ _ _ h => absurd h (hnone _ _ _)) fun _ _ _ h => absurd h (hnone _ _ _)
  | cons e es ih =>
    intro s k hs
    rw [trace]
    cases hresult : step s e with
    | none =>
      have hnone : ∀ (before : List (S × E × S)) t after, [] ≠ before ++ t :: after := by simp
      exact iff_of_true (fun _ _ _ h => absurd h (hnone _ _ _)) fun _ _ _ h =>
        absurd h (hnone _ _ _)
    | some s' =>
      obtain ⟨hiff, hkeep⟩ := hstep s e s' k hs hresult
      simp only [forall_split_cons (R := fun before t => P (before.foldl count k) t),
        forall_split_cons (R := fun before t => C (before.foldl count k) t), List.foldl_cons]
      constructor
      -- the first step is taken with the condition, and the invariant holds behind it
      · rintro ⟨hhead, htail⟩
        have hC := hiff.mp hhead
        exact ⟨hC, (ih s' _ (hkeep hC)).mp htail⟩
      · rintro ⟨hC, htail⟩
        exact ⟨hiff.mpr hC, (ih s' _ (hkeep hC)).mpr htail⟩

/-! ### Registers -/

/-- The last value that the steps of a run write. -/
def lastWrite {V : Type*} (writes : S → E → Option V) (steps : List (S × E × S)) : Option V :=
  steps.reverse.findSome? fun t => writes t.1 t.2.1

theorem lastWrite_cons {V : Type*} (writes : S → E → Option V) (t : S × E × S)
    (steps : List (S × E × S)) :
    lastWrite writes (t :: steps) = (lastWrite writes steps).or (writes t.1 t.2.1) := by
  rw [lastWrite, List.reverse_cons, List.findSome?_append]
  simp [lastWrite]

/-- **The rule for registers**: if every admissible step leaves in a register what it
writes to it, or else what was there, a run of admissible steps leaves there what it
wrote last, or else what was there at its start. -/
theorem read_last {V : Type*} {C : S → E → Prop} (read : S → V) {writes : S → E → Option V}
    (hstep : ∀ s e s', C s e → step s e = some s' → read s' = (writes s e).getD (read s)) :
    ∀ (es : List E) (s : S), Along step C s es →
      read (last step s es) = (lastWrite writes (trace step s es)).getD (read s) := by
  intro es
  induction es with
  | nil => intro s _; rfl
  | cons e es ih =>
    intro s h
    rw [last, trace]
    split
    · rfl
    · next s' hs' =>
      rw [ih s' (h.2 s' hs'), lastWrite_cons, hstep s e s' h.1 hs']
      cases lastWrite writes (trace step s' es) with
      | none => rfl
      | some v => rfl

/-- A run that comes to its end comes to its last state. -/
theorem last_of_exec : ∀ {es : List E} {s s' : S}, exec step s es = some s' →
    last step s es = s' := by
  intro es
  induction es with
  | nil =>
    intro s s' h
    cases h
    rfl
  | cons e es ih =>
    intro s s' h
    obtain ⟨t, ht, h⟩ := Option.bind_eq_some_iff.mp h
    rw [last, ht]
    exact ih h

end Run
end HomeAutomation
