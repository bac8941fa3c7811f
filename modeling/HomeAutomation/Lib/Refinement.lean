import HomeAutomation.Lib.Run

/-!
# Refinement of runs, and queues

A system refines another when every step of the first is answered by a run of the
second that shows the same observations.  The rule for runs is that the observations
of a whole run are then a run of the second system too.

The second system is often a queue: its events are the values that go in and the
values that come out, and a value can come out only when it is at the head.

## Main definitions

* `observations step obs s es` — what is observed of a run.
* `Fifo.step` — the queue; `QueueEvent.puts`, `QueueEvent.takes` — what goes in and
  comes out.

## Main results

* `exec_observations` — **the refinement rule for runs.**
* `Fifo.append_puts` — what went in is what came out and what is still in.
* `Fifo.takes_prefix` — from an empty queue, what came out is the beginning of what
  went in.
-/

namespace HomeAutomation
namespace Run

variable {S E Q F : Type*} {step : S → E → Option S} {astep : Q → F → Option Q}

variable (step) in
/-- What is observed of a run, if `obs` is what is observed of a step. -/
def observations (obs : S → E → List F) : S → List E → List F
  | _, [] => []
  | s, e :: es =>
    match step s e with
    | none => []
    | some s' => obs s e ++ observations obs s' es

theorem observations_cons {obs : S → E → List F} {s s' : S} {e : E} (h : step s e = some s')
    (es : List E) : observations step obs s (e :: es) = obs s e ++ observations step obs s' es := by
  rw [observations, h]

/-- What is observed of a run and of the one that follows it. -/
theorem observations_append {obs : S → E → List F} : ∀ {es : List E} {s s' : S} (fs : List E),
    exec step s es = some s' →
    observations step obs s (es ++ fs) = observations step obs s es ++ observations step obs s' fs := by
  intro es
  induction es with
  | nil =>
    intro s s' fs h
    cases h
    rfl
  | cons e es ih =>
    intro s s' fs h
    rcases Option.bind_eq_some_iff.mp h with ⟨t, ht, h⟩
    rw [List.cons_append, observations_cons ht, observations_cons ht, ih fs h, List.append_assoc]

/-- **The refinement rule for runs**: if each admissible step is answered by a run that
shows what is observed of it, so is each run of admissible steps. -/
theorem exec_observations {obs : S → E → List F} {R : S → Q → Prop} {C : S → E → Prop}
    (hstep : ∀ s e s' q, R s q → C s e → step s e = some s' →
      ∃ q', exec astep q (obs s e) = some q' ∧ R s' q') :
    ∀ (es : List E) (s : S) (q : Q), R s q → (∀ t ∈ trace step s es, C t.1 t.2.1) →
      ∃ q', exec astep q (observations step obs s es) = some q' ∧ R (last step s es) q' := by
  intro es
  induction es with
  | nil => exact fun s q h _ => ⟨q, rfl, h⟩
  | cons e es ih =>
    intro s q h hes
    unfold observations last
    unfold trace at hes
    cases hs : step s e with
    -- the run stands still, and so does the abstract one
    | none => exact ⟨q, rfl, h⟩
    | some s' =>
      rw [hs] at hes
      rcases List.forall_mem_cons.mp hes with ⟨he, hes⟩
      rcases hstep s e s' q h he hs with ⟨q₁, hq₁, h₁⟩
      rcases ih s' q₁ h₁ hes with ⟨q₂, hq₂, h₂⟩
      refine ⟨q₂, ?_, h₂⟩
      rw [exec_append, hq₁]
      exact hq₂

/-- The events of the steps of a run are events of the run. -/
theorem mem_of_mem_trace : ∀ {es : List E} {s : S} {t : S × E × S}, t ∈ trace step s es →
    t.2.1 ∈ es := by
  intro es
  induction es with
  | nil => intro s t ht; cases ht
  | cons e es ih =>
    intro s t ht
    unfold trace at ht
    split at ht
    · cases ht
    · rcases List.mem_cons.mp ht with rfl | ht
      · exact List.mem_cons_self
      · exact List.mem_cons_of_mem _ (ih ht)

/-- The rule for the steps of a run that are admissible. -/
theorem trace_rule_of_admissible {I : S → Prop} {C : S → E → Prop} {P : S → E → S → Prop}
    (hstep : ∀ s e s', I s → C s e → step s e = some s' → I s' ∧ P s e s') :
    ∀ (es : List E) (s : S), I s → (∀ t ∈ trace step s es, C t.1 t.2.1) →
      ∀ t ∈ trace step s es, P t.1 t.2.1 t.2.2 := by
  intro es
  induction es with
  | nil => intro s _ _ t ht; cases ht
  | cons e es ih =>
    intro s hs hes t ht
    unfold trace at hes ht
    -- the run stands still, and has no step
    cases hs' : step s e with
    | none =>
      rw [hs'] at ht
      cases ht
    | some s' =>
      rw [hs'] at hes ht
      rcases List.forall_mem_cons.mp hes with ⟨he, hes⟩
      rcases hstep s e s' hs he hs' with ⟨hinv, hP⟩
      rcases List.mem_cons.mp ht with rfl | ht
      · exact hP
      · exact ih s' hinv hes t ht

end Run

/-! ### Queues -/

/-- What happens to a queue. -/
inductive QueueEvent (α : Type*)
  | put (a : α)
  | take (a : α)
  deriving DecidableEq

namespace QueueEvent

variable {α : Type*}

/-- What goes in. -/
def puts : List (QueueEvent α) → List α
  | [] => []
  | .put a :: es => a :: puts es
  | .take _ :: es => puts es

/-- What comes out. -/
def takes : List (QueueEvent α) → List α
  | [] => []
  | .put _ :: es => takes es
  | .take a :: es => a :: takes es

@[simp] theorem puts_append (es fs : List (QueueEvent α)) :
    puts (es ++ fs) = puts es ++ puts fs := by
  induction es with
  | nil => rfl
  | cons e es ih => cases e <;> simp [puts, ih]

@[simp] theorem takes_append (es fs : List (QueueEvent α)) :
    takes (es ++ fs) = takes es ++ takes fs := by
  induction es with
  | nil => rfl
  | cons e es ih => cases e <;> simp [takes, ih]

@[simp] theorem puts_map_put (l : List α) : puts (l.map .put) = l := by
  induction l with
  | nil => rfl
  | cons a l ih => simp [puts, ih]

@[simp] theorem takes_map_put (l : List α) : takes (l.map .put) = [] := by
  induction l with
  | nil => rfl
  | cons a l ih => simp [takes, ih]

@[simp] theorem puts_map_take (l : List α) : puts (l.map .take) = [] := by
  induction l with
  | nil => rfl
  | cons a l ih => simp [puts, ih]

@[simp] theorem takes_map_take (l : List α) : takes (l.map .take) = l := by
  induction l with
  | nil => rfl
  | cons a l ih => simp [takes, ih]

end QueueEvent

open QueueEvent

namespace Fifo

variable {α : Type*} [DecidableEq α]

/-- **The queue**: only its head comes out. -/
def step : List α → QueueEvent α → Option (List α)
  | q, .put a => some (q ++ [a])
  | [], .take _ => none
  | b :: q, .take a => if a = b then some q else none

@[simp] theorem step_put (q : List α) (a : α) : step q (.put a) = some (q ++ [a]) := by
  cases q <;> rfl

@[simp] theorem step_take (a : α) (q : List α) : step (a :: q) (.take a) = some q := by
  simp [step]

/-- The head of the queue, and nothing else, comes out. -/
theorem step_take_eq_some_iff {q q' : List α} {a : α} :
    step q (.take a) = some q' ↔ q = a :: q' := by
  cases q with
  | nil => simp [step]
  | cons b q =>
    by_cases hab : a = b
    · simp [step, hab]
    · simp [step, hab, Ne.symm hab]

/-- What is in front comes out in its order. -/
theorem exec_map_take (l q : List α) : Run.exec step (l ++ q) (l.map .take) = some q := by
  induction l with
  | nil => rfl
  | cons a l ih => simp [Run.exec, ih]

/-- **What went in is what came out and what is still in**, in that order. -/
theorem append_puts : ∀ {es : List (QueueEvent α)} {q q' : List α},
    Run.exec step q es = some q' → q ++ puts es = takes es ++ q' := by
  intro es
  induction es with
  | nil =>
    intro q q' h
    cases h
    simp [puts, takes]
  | cons e es ih =>
    intro q q' h
    rcases Option.bind_eq_some_iff.mp h with ⟨q₁, hq₁, h⟩
    -- the queue behind the first event
    have ih := ih h
    cases e with
    | put a =>
      rw [step_put, Option.some.injEq] at hq₁
      rw [← hq₁] at ih
      simpa [puts, takes] using ih
    | take a =>
      rw [step_take_eq_some_iff] at hq₁
      simpa [puts, takes, hq₁] using ih

/-- From an empty queue, what came out is the beginning of what went in. -/
theorem takes_prefix {es : List (QueueEvent α)} {q : List α}
    (h : Run.exec step [] es = some q) : takes es <+: puts es :=
  ⟨q, (append_puts h).symm⟩

end Fifo

end HomeAutomation
