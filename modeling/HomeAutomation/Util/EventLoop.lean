import Mathlib.Algebra.Group.Nat.Defs
import Mathlib.Data.List.Nodup
import Mathlib.Data.List.Range
import HomeAutomation.Lib.Run

/-!
# The event loop and its scopes

Handlers are enqueued and run one after the other by `handle_events`.  A handler
may be enqueued through a scope: a counter that is shared with the scope's owner,
of which the event keeps the value at the time.  The owner invalidates the scope by
incrementing the counter, and an event whose value is no longer the counter's is
skipped.

The loop takes an event from the queue, checks it, runs its handler, and goes on
when the handler has returned or its exception has been handled.  Handlers and
other threads may enqueue and invalidate at any of these points, so each point is
an event of its own here, and what a handler does is whatever happens while it
runs.

The history of a loop is kept in its state for the proofs only.  Handlers are named
by the number of the call that enqueued them.

## Main definitions

* `EventScope` — the value an event keeps of its scope.
* `EventLoop.State`, `EventLoop.step` — the loop.
* `EventLoop.Entry` — the history.
* `EventLoop.Delivered` — what holds of the history.

## Main results

* `EventLoop.valid_iff` — an event is valid exactly when its scope has not been
  invalidated since it was enqueued.
* `EventLoop.delivered_of_reachable` — the history of every loop.

## References

`common/source/util/EventLoop.cpp`, `common/include/util/EventLoop.h`.
-/

namespace HomeAutomation

/-- `EventScope`: the counter it refers to, if any, and the value it keeps.  An `int`
is given by its 32 bits. -/
structure EventScope where
  value : Option ℕ
  validValue : UInt32

namespace EventScope

/-- `EventScope()` and `EventScope(value)`. -/
def create (counters : ℕ → UInt32) (value : Option ℕ) : EventScope :=
  ⟨value, value.elim 0 counters⟩

/-- `valid`. -/
def valid (scope : EventScope) (counters : ℕ → UInt32) : Bool :=
  match scope.value with
  | none => true
  | some value => counters value = scope.validValue

end EventScope

namespace EventLoop

/-- An event of the queue. -/
structure QueuedEvent where
  /-- The handler, named by the number of the call that enqueued it. -/
  handler : ℕ
  scope : EventScope

/-- Where `handle_events` is. -/
inductive Phase
  /-- Before the queue. -/
  | idle
  /-- An event was taken from the queue and not yet checked. -/
  | taken (event : QueuedEvent)
  /-- A handler runs. -/
  | running (handler : ℕ)

/-- An entry of the history. -/
inductive Entry
  | enqueued (handler : ℕ) (scope : Option ℕ)
  | invalidated (scope : ℕ)
  | executed (handler : ℕ)
  | skipped (handler : ℕ)
  deriving DecidableEq

/-- The members of `EventLoop`, and the counters of the scopes. -/
structure State where
  /-- `exception_handler_` is set; it does not throw. -/
  exceptionHandler : Bool
  counters : ℕ → UInt32
  queue : List QueuedEvent
  phase : Phase
  /-- The number of calls of `enqueue` so far. -/
  issued : ℕ
  history : List Entry

/-- What happens to a loop. -/
inductive Event
  /-- A call of `enqueue`, through a scope or without. -/
  | enqueue (scope : Option ℕ)
  /-- A call of `invalidate`. -/
  | invalidate (scope : ℕ)
  /-- `handle_events` takes the first event of the queue. -/
  | take
  /-- It checks the event, and runs its handler or skips it. -/
  | check
  /-- The handler returns or throws. -/
  | finish (thrown : Bool)

/-- A loop as it is constructed. -/
def create (exceptionHandler : Bool) : State := ⟨exceptionHandler, fun _ => 0, [], .idle, 0, []⟩

/-- `++(*scope_)`. -/
def increment (counters : ℕ → UInt32) (scope : ℕ) : ℕ → UInt32 :=
  fun c => if c = scope then counters c + 1 else counters c

/-- `enqueue`. -/
def enqueue (s : State) (scope : Option ℕ) : State :=
  { s with
    issued := s.issued + 1
    queue := s.queue ++ [⟨s.issued + 1, .create s.counters scope⟩]
    history := s.history ++ [.enqueued (s.issued + 1) scope] }

/-- `invalidate`. -/
def invalidate (s : State) (scope : ℕ) : State :=
  { s with
    counters := increment s.counters scope
    history := s.history ++ [.invalidated scope] }

/-- `handle_events` takes the first event of the queue. -/
def take (s : State) : Option State :=
  match s.phase, s.queue with
  | .idle, event :: queue => some { s with phase := .taken event, queue := queue }
  | _, _ => none

/-- `handle_events` checks the event it has taken, and runs its handler or skips it. -/
def check (s : State) : Option State :=
  match s.phase with
  | .taken event =>
    if event.scope.valid s.counters then some { s with
      phase := .running event.handler
      history := s.history ++ [.executed event.handler] }
    else some { s with phase := .idle, history := s.history ++ [.skipped event.handler] }
  | _ => none

/-- The handler returns or throws.  An exception without a handler for it ends the
program. -/
def finish (s : State) (thrown : Bool) : Option State :=
  match s.phase with
  | .running _ => if thrown && !s.exceptionHandler then none else some { s with phase := .idle }
  | _ => none

/-- **One event of the loop**; `none` when it cannot happen, or ends the program. -/
def step (s : State) : Event → Option State
  | .enqueue scope => some (enqueue s scope)
  | .invalidate scope => some (invalidate s scope)
  | .take => take s
  | .check => check s
  | .finish thrown => finish s thrown

theorem take_cases {s s' : State} (h : take s = some s') :
    ∃ event queue, s.phase = .idle ∧ s.queue = event :: queue ∧
      s' = { s with phase := .taken event, queue := queue } := by
  unfold take at h
  split at h
  · next event queue hphase hqueue =>
    cases h
    exact ⟨event, queue, hphase, hqueue, rfl⟩
  · cases h

theorem check_cases {s s' : State} (h : check s = some s') :
    ∃ event, s.phase = .taken event ∧
      ((event.scope.valid s.counters = true ∧ s' = { s with
        phase := .running event.handler, history := s.history ++ [.executed event.handler] }) ∨
      (event.scope.valid s.counters = false ∧ s' = { s with
        phase := .idle, history := s.history ++ [.skipped event.handler] })) := by
  unfold check at h
  split at h
  · next event hphase =>
    refine ⟨event, hphase, ?_⟩
    split at h
    · next hvalid =>
      cases h
      exact Or.inl ⟨hvalid, rfl⟩
    · next hvalid =>
      cases h
      exact Or.inr ⟨by simpa using hvalid, rfl⟩
  · cases h

theorem finish_cases {s s' : State} {thrown : Bool} (h : finish s thrown = some s') :
    ∃ handler, s.phase = .running handler ∧ s' = { s with phase := .idle } := by
  unfold finish at h
  split at h
  · next handler hphase =>
    split at h
    · cases h
    · cases h
      exact ⟨handler, hphase, rfl⟩
  · cases h

/-! ### The history -/

/-- The handler that an entry enqueues. -/
def Entry.enqueuedHandler : Entry → Option ℕ
  | .enqueued handler _ => some handler
  | _ => none

/-- The handler that an entry executes. -/
def Entry.executedHandler : Entry → Option ℕ
  | .executed handler => some handler
  | _ => none

/-- The handler whose turn it is in an entry. -/
def Entry.turnHandler : Entry → Option ℕ
  | .executed handler => some handler
  | .skipped handler => some handler
  | _ => none

/-- The handlers that were enqueued, in order. -/
def enqueuedIn (history : List Entry) : List ℕ := history.filterMap Entry.enqueuedHandler

/-- The handlers that were executed, in order. -/
def executedIn (history : List Entry) : List ℕ := history.filterMap Entry.executedHandler

/-- The handlers that had their turn, in order. -/
def turnsIn (history : List Entry) : List ℕ := history.filterMap Entry.turnHandler

/-- The events whose turn is to come. -/
def pending (s : State) : List QueuedEvent :=
  match s.phase with
  | .taken event => event :: s.queue
  | _ => s.queue

/-- No scope was invalidated `2 ^ 32` times. -/
def Bounded (history : List Entry) : Prop :=
  ∀ scope, history.count (.invalidated scope) < 2 ^ 32

/-- **What holds of the history of a loop.** -/
structure Delivered (s : State) : Prop where
  /-- Handlers are numbered in the order in which they are enqueued. -/
  numbered : enqueuedIn s.history = List.range' 1 s.issued
  /-- Handlers are executed in the order in which they are enqueued, at most once. -/
  ordered : (executedIn s.history).Pairwise (· < ·)
  /-- No handler is executed whose scope was invalidated since it was enqueued. -/
  not_stale : ∀ before between after handler scope,
    s.history
        = before ++ .enqueued handler (some scope) :: (between ++ .executed handler :: after) →
      .invalidated scope ∉ between
  /-- Only a handler whose scope was invalidated since it was enqueued is skipped at
  its turn. -/
  served : ∀ before between after handler scope,
    s.history = before ++ .enqueued handler scope :: (between ++ .skipped handler :: after) →
      ∃ c, scope = some c ∧ .invalidated c ∈ between
  /-- Every handler has its turn in order, or it is still to come. -/
  turns : enqueuedIn s.history = turnsIn s.history ++ (pending s).map QueuedEvent.handler
  /-- The loop goes on when a handler returns, and when it throws. -/
  continues : ∀ handler, s.phase = .running handler →
    ∀ thrown, step s (.finish thrown) = some { s with phase := .idle }

/-! ### Splitting the history -/

/-- A list with distinct marks has one place for each mark. -/
theorem split_unique {α β : Type*} {f : α → Option β} {k : β} : ∀ {a a' b b' : List α} {x x' : α},
    ((a ++ x :: b).filterMap f).Nodup → a ++ x :: b = a' ++ x' :: b' → f x = some k →
      f x' = some k → a = a' ∧ x = x' ∧ b = b' := by
  intro a
  induction a with
  | nil =>
    intro a' b b' x x' hnodup h hx hx'
    cases a' with
    | nil =>
      cases h
      exact ⟨rfl, rfl, rfl⟩
    -- a second entry of this number stands behind the first
    | cons y a' =>
      cases h
      rw [List.nil_append, List.filterMap_cons_some hx, List.nodup_cons] at hnodup
      exact absurd (List.mem_filterMap.mpr ⟨x', by simp, hx'⟩) hnodup.1
  | cons y a ih =>
    intro a' b b' x x' hnodup h hx hx'
    cases a' with
    | nil =>
      -- or in front of it
      cases h
      rw [List.cons_append, List.filterMap_cons_some hx', List.nodup_cons] at hnodup
      exact absurd (List.mem_filterMap.mpr ⟨x, by simp, hx⟩) hnodup.1
    | cons y' a' =>
      obtain ⟨rfl, htail⟩ := List.cons.inj h
      have hnodup' : ((a ++ x :: b).filterMap f).Nodup :=
        hnodup.sublist ((List.sublist_cons_self y _).filterMap f)
      obtain ⟨rfl, rfl, rfl⟩ := ih hnodup' htail hx hx'
      exact ⟨rfl, rfl, rfl⟩

/-- An entry of a longer history is its last one or one of the shorter history. -/
theorem split_append {h a b c : List Entry} {x y z : Entry}
    (heq : h ++ [x] = a ++ y :: (b ++ z :: c)) :
    (x = z ∧ h = a ++ y :: b) ∨ ∃ c', h = a ++ y :: (b ++ z :: c') := by
  rcases List.eq_nil_or_concat c with rfl | ⟨c', w, rfl⟩
  · have : h ++ [x] = (a ++ y :: b) ++ [z] := by simpa using heq
    obtain ⟨hh, hx⟩ := List.append_inj' this rfl
    exact Or.inl ⟨(List.singleton_inj.mp hx), hh⟩
  · have : h ++ [x] = (a ++ y :: (b ++ z :: c')) ++ [w] := by simpa using heq
    exact Or.inr ⟨c', (List.append_inj' this rfl).1⟩

/-! ### The invariant -/

/-- The counters that a history leads to. -/
def countersOf (history : List Entry) (scope : ℕ) : UInt32 :=
  .ofNat (history.count (.invalidated scope))

/-- **The state agrees with its history.** -/
structure Coherent (s : State) : Prop where
  counters : ∀ c, s.counters c = countersOf s.history c
  numbered : enqueuedIn s.history = List.range' 1 s.issued
  turns : enqueuedIn s.history = turnsIn s.history ++ (pending s).map QueuedEvent.handler
  /-- An event keeps the value that its scope's counter had when it was enqueued. -/
  snapshot : ∀ e ∈ pending s, ∃ before after scope,
    s.history = before ++ .enqueued e.handler scope :: after ∧
      e.scope = EventScope.create (countersOf before) scope

theorem countersOf_append (history : List Entry) (x : Entry) (hx : ∀ c, x ≠ .invalidated c) :
    countersOf (history ++ [x]) = countersOf history := by
  funext c
  rw [countersOf, countersOf, List.count_append, List.count_singleton, if_neg (by simpa using hx c),
    Nat.add_zero]

theorem countersOf_invalidated (history : List Entry) (scope : ℕ) :
    countersOf (history ++ [.invalidated scope]) = increment (countersOf history) scope := by
  funext c
  rw [countersOf, List.count_append, List.count_singleton, increment, countersOf]
  by_cases hc : c = scope
  · subst hc
    simp [UInt32.ofNat_add]
  · have hne : ¬ scope = c := fun h => hc h.symm
    simp [hc, hne]

/-- An event's place in the history stays when the history grows. -/
theorem snapshot_append {history : List Entry} {e : QueuedEvent} (x : Entry)
    (h : ∃ before after scope, history = before ++ .enqueued e.handler scope :: after ∧
      e.scope = EventScope.create (countersOf before) scope) :
    ∃ before after scope, history ++ [x] = before ++ .enqueued e.handler scope :: after ∧
      e.scope = EventScope.create (countersOf before) scope := by
  obtain ⟨before, after, scope, rfl, hscope⟩ := h
  exact ⟨before, after ++ [x], scope, by simp, hscope⟩

theorem pending_enqueue (s : State) (scope : Option ℕ) :
    pending (enqueue s scope)
      = pending s ++ [⟨s.issued + 1, EventScope.create s.counters scope⟩] := by
  unfold pending enqueue
  cases s.phase <;> rfl

theorem Coherent.enqueue {s : State} (hs : Coherent s) (scope : Option ℕ) :
    Coherent (enqueue s scope) := by
  refine ⟨?_, ?_, ?_, ?_⟩
  -- no counter has changed
  · intro c
    rw [show (EventLoop.enqueue s scope).history
      = s.history ++ [.enqueued (s.issued + 1) scope] from rfl,
      countersOf_append _ _ fun c => by simp]
    exact hs.counters c
  -- the new event has the next number
  · show enqueuedIn (s.history ++ [.enqueued (s.issued + 1) scope]) = List.range' 1 (s.issued + 1)
    rw [enqueuedIn, List.filterMap_append, ← enqueuedIn, hs.numbered, List.range'_concat]
    simp [Entry.enqueuedHandler, Nat.add_comm]
  -- it waits behind all others
  · rw [pending_enqueue, List.map_append, ← List.append_assoc]
    show enqueuedIn (s.history ++ [.enqueued (s.issued + 1) scope])
      = turnsIn (s.history ++ [.enqueued (s.issued + 1) scope]) ++ _ ++ _
    rw [enqueuedIn, turnsIn, List.filterMap_append, List.filterMap_append, ← enqueuedIn, ← turnsIn,
      hs.turns]
    simp [Entry.enqueuedHandler, Entry.turnHandler]
  -- and it has the counters as they are now
  · intro e he
    rw [pending_enqueue, List.mem_append, List.mem_singleton] at he
    rcases he with he | rfl
    · exact snapshot_append _ (hs.snapshot e he)
    · refine ⟨s.history, [], scope, rfl, ?_⟩
      rw [← funext hs.counters]

theorem Coherent.invalidate {s : State} (hs : Coherent s) (scope : ℕ) :
    Coherent (invalidate s scope) := by
  refine ⟨?_, ?_, ?_, fun e he => snapshot_append _ (hs.snapshot e he)⟩
  · intro c
    show increment s.counters scope c = countersOf (s.history ++ [.invalidated scope]) c
    rw [countersOf_invalidated, funext hs.counters]
  · show enqueuedIn (s.history ++ [.invalidated scope]) = List.range' 1 s.issued
    rw [enqueuedIn, List.filterMap_append, ← enqueuedIn, hs.numbered]
    simp [Entry.enqueuedHandler]
  · show enqueuedIn (s.history ++ [.invalidated scope])
      = turnsIn (s.history ++ [.invalidated scope]) ++ (pending s).map QueuedEvent.handler
    rw [enqueuedIn, turnsIn, List.filterMap_append, List.filterMap_append, ← enqueuedIn, ← turnsIn,
      hs.turns]
    exact (List.append_nil _).trans (by rw [List.append_assoc]; rfl)

/-- The turn of an event: it is executed or skipped, and no longer pending. -/
theorem Coherent.turn {s : State} (hs : Coherent s) {e : QueuedEvent} (hphase : s.phase = .taken e)
    {x : Entry} (hx : x = .executed e.handler ∨ x = .skipped e.handler) {phase : Phase}
    (hnext : ∀ e, phase ≠ .taken e) :
    Coherent { s with phase := phase, history := s.history ++ [x] } := by
  -- the event that was taken has its turn
  have hbefore : pending s = e :: s.queue := by rw [pending, hphase]
  have hafter : pending { s with phase := phase, history := s.history ++ [x] } = s.queue := by
    unfold pending
    cases phase with
    | taken e => exact absurd rfl (hnext e)
    | idle => rfl
    | running handler => rfl
  -- whether it is run or passed over, it is the turn of its own number
  have hnot : x.enqueuedHandler = none := by rcases hx with rfl | rfl <;> rfl
  have hturn : x.turnHandler = some e.handler := by rcases hx with rfl | rfl <;> rfl
  have hinvalidated : ∀ c, x ≠ .invalidated c := by rcases hx with rfl | rfl <;> simp
  refine ⟨?_, ?_, ?_, ?_⟩
  · intro c
    show s.counters c = countersOf (s.history ++ [x]) c
    rw [countersOf_append _ _ hinvalidated]
    exact hs.counters c
  · show enqueuedIn (s.history ++ [x]) = List.range' 1 s.issued
    rw [enqueuedIn, List.filterMap_append, ← enqueuedIn, hs.numbered]
    simp [hnot]
  -- the turn moves from those that wait to those that are done
  · rw [hafter]
    show enqueuedIn (s.history ++ [x]) = turnsIn (s.history ++ [x]) ++ _
    rw [enqueuedIn, turnsIn, List.filterMap_append, List.filterMap_append, ← enqueuedIn, ← turnsIn,
      hs.turns, hbefore]
    simp [hnot, hturn]
  · intro e' he'
    rw [hafter] at he'
    exact snapshot_append _ (hs.snapshot e' (by rw [hbefore]; exact List.mem_cons_of_mem _ he'))

/-- A step that leaves the history and the pending events alone. -/
theorem Coherent.same {s s' : State} (hs : Coherent s) (hcounters : s'.counters = s.counters)
    (hissued : s'.issued = s.issued) (hhistory : s'.history = s.history)
    (hpending : pending s' = pending s) : Coherent s' := by
  refine ⟨?_, ?_, ?_, ?_⟩
  · rw [hcounters, hhistory]
    exact hs.counters
  · rw [hissued, hhistory]
    exact hs.numbered
  · rw [hhistory, hpending]
    exact hs.turns
  · rw [hhistory, hpending]
    exact hs.snapshot

/-- **One step**: the state goes on agreeing with its history. -/
theorem Coherent.step {s s' : State} (hs : Coherent s) {e : Event}
    (h : EventLoop.step s e = some s') : Coherent s' := by
  cases e with
  | enqueue scope =>
    cases h
    exact hs.enqueue scope
  | invalidate scope =>
    cases h
    exact hs.invalidate scope
  | take =>
    obtain ⟨event, queue, hphase, hqueue, rfl⟩ := take_cases h
    exact hs.same rfl rfl rfl (by rw [pending, pending, hphase, hqueue])
  | check =>
    obtain ⟨event, hphase, ⟨-, rfl⟩ | ⟨-, rfl⟩⟩ := check_cases h
    · exact hs.turn hphase (Or.inl rfl) fun e => by simp
    · exact hs.turn hphase (Or.inr rfl) fun e => by simp
  | finish thrown =>
    obtain ⟨handler, hphase, rfl⟩ := finish_cases h
    exact hs.same rfl rfl rfl (by rw [pending, pending, hphase])

/-! ### Delivery -/

theorem Coherent.nodup {s : State} (hs : Coherent s) :
    (s.history.filterMap Entry.enqueuedHandler).Nodup := by
  have hnumbered : s.history.filterMap Entry.enqueuedHandler = List.range' 1 s.issued := hs.numbered
  rw [hnumbered]
  exact List.nodup_range'

/-- Counters below the range tell counts apart. -/
theorem ofNat_eq_ofNat_iff {n m : ℕ} (hn : n < 2 ^ 32) (hm : m < 2 ^ 32) :
    UInt32.ofNat n = UInt32.ofNat m ↔ n = m := by
  constructor
  · intro h
    have := congrArg UInt32.toNat h
    rwa [UInt32.toNat_ofNat_of_lt' hn, UInt32.toNat_ofNat_of_lt' hm] at this
  · exact fun h => h ▸ rfl

/-- **An event is valid exactly when its scope has not been invalidated since it was
enqueued.** -/
theorem valid_iff {s : State} (hs : Coherent s) (hbound : Bounded s.history) {e : QueuedEvent}
    (hphase : s.phase = .taken e) {before after : List Entry} {scope : Option ℕ}
    (hsplit : s.history = before ++ .enqueued e.handler scope :: after) :
    e.scope.valid s.counters = true ↔ ∀ c, scope = some c → .invalidated c ∉ after := by
  have hmem : e ∈ pending s := by
    rw [pending, hphase]
    exact List.mem_cons_self
  -- the entry of the event is the one that its scope was made at
  obtain ⟨before', after', scope', hsplit', hscope⟩ := hs.snapshot e hmem
  have hnodup : ((before ++ .enqueued e.handler scope :: after).filterMap
      Entry.enqueuedHandler).Nodup := hsplit ▸ hs.nodup
  obtain ⟨rfl, hentry, rfl⟩ := split_unique hnodup (hsplit.symm.trans hsplit') rfl rfl
  cases hentry
  rw [hscope, EventScope.valid, EventScope.create]
  cases scope with
  | none => simp
  | some c =>
    -- the invalidations before the event and behind it
    have hcount : s.history.count (.invalidated c)
        = before.count (.invalidated c) + after.count (.invalidated c) := by
      rw [hsplit, List.count_append, List.count_cons_of_ne (by simp)]
    have hlt := hbound c
    -- the counters have not wrapped, so they tell whether there was one behind it
    have hcompare : (countersOf s.history c = countersOf before c) ↔ .invalidated c ∉ after := by
      rw [countersOf, countersOf, ofNat_eq_ofNat_iff hlt (by omega), hcount, ← List.count_eq_zero]
      omega
    simp only [Option.some.injEq, forall_eq']
    rw [← hcompare, ← hs.counters c]
    exact decide_eq_true_iff

/-- The two facts about the turns in a history. -/
structure Sound (history : List Entry) : Prop where
  not_stale : ∀ before between after handler scope,
    history = before ++ .enqueued handler (some scope) :: (between ++ .executed handler :: after) →
      .invalidated scope ∉ between
  served : ∀ before between after handler scope,
    history = before ++ .enqueued handler scope :: (between ++ .skipped handler :: after) →
      ∃ c, scope = some c ∧ .invalidated c ∈ between

/-- An entry that is no turn adds nothing to the facts. -/
theorem Sound.append {history : List Entry} (h : Sound history) {x : Entry}
    (hx : x.turnHandler = none) : Sound (history ++ [x]) := by
  refine ⟨fun before between after handler scope heq => ?_,
    fun before between after handler scope heq => ?_⟩
  · obtain ⟨rfl, -⟩ | ⟨after', hsplit⟩ := split_append heq
    · cases hx
    · exact h.not_stale before between after' handler scope hsplit
  · obtain ⟨rfl, -⟩ | ⟨after', hsplit⟩ := split_append heq
    · cases hx
    · exact h.served before between after' handler scope hsplit

theorem Bounded.of_append {history : List Entry} {x : Entry} (h : Bounded (history ++ [x])) :
    Bounded history := by
  intro c
  have := h c
  rw [List.count_append] at this
  omega

/-- **A turn**: what `check` does is right. -/
theorem Sound.check {s s' : State} (hs : Coherent s) (hsound : Sound s.history)
    (hbound : Bounded s.history) (h : check s = some s') : Sound s'.history := by
  obtain ⟨event, hphase, ⟨hvalid, rfl⟩ | ⟨hvalid, rfl⟩⟩ := check_cases h
  -- the event is valid, and its handler runs
  · refine ⟨fun before between after handler scope heq => ?_,
      fun before between after handler scope heq => ?_⟩
    -- the entry of this turn, or one of the turns before
    · obtain ⟨hentry, hsplit⟩ | ⟨after', hsplit⟩ := split_append heq
      · cases hentry
        exact (valid_iff hs hbound hphase hsplit).mp hvalid scope rfl
      · exact hsound.not_stale before between after' handler scope hsplit
    · obtain ⟨hentry, -⟩ | ⟨after', hsplit⟩ := split_append heq
      · cases hentry
      · exact hsound.served before between after' handler scope hsplit
  -- the event is stale, and is passed over
  · refine ⟨fun before between after handler scope heq => ?_,
      fun before between after handler scope heq => ?_⟩
    · obtain ⟨hentry, -⟩ | ⟨after', hsplit⟩ := split_append heq
      · cases hentry
      · exact hsound.not_stale before between after' handler scope hsplit
    · obtain ⟨hentry, hsplit⟩ | ⟨after', hsplit⟩ := split_append heq
      · cases hentry
        by_contra hnone
        -- otherwise it would have been valid
        have hall : ∀ c, scope = some c → .invalidated c ∉ between := by
          intro c hc hmem
          exact hnone ⟨c, hc, hmem⟩
        rw [(valid_iff hs hbound hphase hsplit).mpr hall] at hvalid
        cases hvalid
      · exact hsound.served before between after' handler scope hsplit

/-- The invariant of a loop with an exception handler. -/
structure Invariant (s : State) : Prop where
  coherent : Coherent s
  exceptionHandler : s.exceptionHandler = true
  sound : Bounded s.history → Sound s.history

theorem Invariant.step {s s' : State} (hs : Invariant s) {e : Event}
    (h : EventLoop.step s e = some s') : Invariant s' := by
  refine ⟨hs.coherent.step h, ?_, ?_⟩
  -- the handler of exceptions is never taken away
  · cases e with
    | enqueue scope =>
      cases h
      exact hs.exceptionHandler
    | invalidate scope =>
      cases h
      exact hs.exceptionHandler
    | take =>
      obtain ⟨event, queue, -, -, rfl⟩ := take_cases h
      exact hs.exceptionHandler
    | check =>
      obtain ⟨event, -, ⟨-, rfl⟩ | ⟨-, rfl⟩⟩ := check_cases h
      · exact hs.exceptionHandler
      · exact hs.exceptionHandler
    | finish thrown =>
      obtain ⟨handler, -, rfl⟩ := finish_cases h
      exact hs.exceptionHandler
  -- the checks are sound for the history so far
  · cases e with
    | enqueue scope =>
      cases h
      exact fun hbound => (hs.sound (Bounded.of_append hbound)).append rfl
    | invalidate scope =>
      cases h
      exact fun hbound => (hs.sound (Bounded.of_append hbound)).append rfl
    | take =>
      obtain ⟨event, queue, -, -, rfl⟩ := take_cases h
      exact hs.sound
    | check =>
      intro hbound
      -- the entry of the turn invalidates nothing
      have hbefore : Bounded s.history := by
        obtain ⟨event, -, ⟨-, rfl⟩ | ⟨-, rfl⟩⟩ := check_cases h
        · exact Bounded.of_append hbound
        · exact Bounded.of_append hbound
      exact Sound.check hs.coherent (hs.sound hbefore) hbefore h
    | finish thrown =>
      obtain ⟨handler, -, rfl⟩ := finish_cases h
      exact hs.sound

theorem invariant_create : Invariant (create true) := by
  refine ⟨⟨fun _ => rfl, rfl, rfl, fun e he => absurd he List.not_mem_nil⟩, rfl, fun _ => ⟨?_, ?_⟩⟩
  · intro before between after handler scope h
    simp [create] at h
  · intro before between after handler scope h
    simp [create] at h

/-- **The history of every loop with an exception handler**: handlers are executed in
the order in which they are enqueued, at most once, and exactly those whose scope has
not been invalidated since. -/
theorem delivered_of_reachable {s : State} (h : Run.Reachable step (· = create true) s)
    (hbound : Bounded s.history) : Delivered s := by
  have hinv : Invariant s := h.invariant (fun s hs => hs ▸ invariant_create)
    fun s e s' hs hstep => hs.step hstep
  have hcoherent := hinv.coherent
  have hsound := hinv.sound hbound
  refine ⟨hcoherent.numbered, ?_, hsound.not_stale, hsound.served, hcoherent.turns, ?_⟩
  -- what was executed is a part of the turns, in their order
  · have hsub : (executedIn s.history).Sublist (turnsIn s.history) := by
      unfold executedIn turnsIn
      induction s.history with
      | nil => exact List.Sublist.refl _
      | cons x l ih =>
        cases x with
        | executed handler => exact ih.cons_cons handler
        | skipped handler => exact ih.cons handler
        | _ => exact ih
    -- the turns have the numbers of their events, one after the other
    have hsorted : (turnsIn s.history ++ (pending s).map QueuedEvent.handler).Pairwise (· < ·) := by
      rw [← hcoherent.turns, hcoherent.numbered]
      exact List.pairwise_lt_range'
    exact (List.pairwise_append.mp hsorted).1.sublist hsub
  · intro handler hphase thrown
    show finish s thrown = _
    simp [finish, hphase, hinv.exceptionHandler]

/-- A handler is enqueued through a scope, a second one without, and the scope is
invalidated before their turns; the second one throws. -/
theorem delivered_invalidated : ∃ s, Run.Reachable step (· = create true) s ∧
    s.history = [.enqueued 1 (some 0), .enqueued 2 none, .invalidated 0, .skipped 1, .executed 2] ∧
    Delivered s := by
  have hrun : ∃ s, Run.exec step (create true) [.enqueue (some 0), .enqueue none, .invalidate 0,
      .take, .check, .take, .check, .finish true] = some s ∧ s.history = [.enqueued 1 (some 0),
        .enqueued 2 none, .invalidated 0, .skipped 1, .executed 2] := ⟨_, rfl, rfl⟩
  obtain ⟨s, hexec, hhistory⟩ := hrun
  have hreachable : Run.Reachable step (· = create true) s := Run.reachable_of_exec rfl hexec
  refine ⟨s, hreachable, hhistory, delivered_of_reachable hreachable fun c => ?_⟩
  rw [hhistory]
  exact lt_of_le_of_lt List.count_le_length (by decide)

end EventLoop
end HomeAutomation
