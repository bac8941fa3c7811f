import HomeAutomation.Client.Dispatcher
import HomeAutomation.Lib.Run
import Mathlib.Data.List.Nodup

/-!
# How queries complete

A reply carries no query number: it goes to the first pending query of its device
and address.  A timeout is told apart by the number bound to the timer.  Queries
are numbered in the order they are issued and the list of pending queries keeps
that order, so the first match is the oldest; and while fewer than `2 ^ 32` queries
were issued, the numbers bound to timers are all different.

## Main definitions

* `invoked` — the queries whose handlers were invoked.
* `Explained` — an invocation has the cause it should have.
* `Tracked` — the invariant that ties records, timers and invocations together.

## Main results

* `good_handle` — every event keeps the invariant.
* `query_completion` — each handler is invoked at most once, for its own reply or
  its own timeout, and a reply is given to the oldest query it answers.

## References

`common/source/client/Dispatcher.cpp`.
-/

namespace HomeAutomation
namespace ObservedDispatcher

open Dispatcher

/-! ### The invariant -/

/-- The queries whose handlers were invoked. -/
def invoked (log : List Invocation) : List ℕ := log.filterMap Invocation.queryHandler

/-- **An invocation has the cause it should have**: a reply for the query, or the
query's own timer. -/
def Explained : Invocation → Prop
  | .query record (some command) _ =>
    command.type = .reply ∧ record.query.device = command.device ∧
      record.query.address = command.address
  | .query record none cause => cause = .timer record.handler
  | .filter _ _ => True
  | .unknown _ => True

/-- **The invariant** that ties records, timers and invocations together. -/
structure Tracked (d : Dispatcher) (log : List Invocation) : Prop where
  last : d.lastQueryId = d.issued % 2 ^ 32
  record : ∀ r ∈ d.queries, r.uniqueId = r.handler % 2 ^ 32 ∧ r.handler ≤ d.issued
  timer : ∀ t ∈ d.timers, t.uniqueId = t.handler % 2 ^ 32 ∧ t.handler ≤ d.issued
  sorted : d.queries.Pairwise fun r r' => r.handler < r'.handler
  once : (invoked log).Nodup
  past : ∀ n ∈ invoked log, n ≤ d.issued ∧ ∀ r ∈ d.queries, r.handler ≠ n

/-- Dropping records and timers keeps the invariant. -/
theorem Tracked.mono {d d' : Dispatcher} {log : List Invocation} (h : Tracked d log)
    (hissued : d'.issued = d.issued) (hlast : d'.lastQueryId = d.lastQueryId)
    (hqueries : d'.queries.Sublist d.queries) (htimers : ∀ t ∈ d'.timers, t ∈ d.timers) :
    Tracked d' log where
  last := by rw [hlast, hissued, h.last]
  record r hr := by
    rw [hissued]
    exact h.record r (hqueries.subset hr)
  timer t ht := by
    rw [hissued]
    exact h.timer t (htimers t ht)
  sorted := h.sorted.sublist hqueries
  once := h.once
  past n hn := by
    rw [hissued]
    exact ⟨(h.past n hn).1, fun r hr => (h.past n hn).2 r (hqueries.subset hr)⟩

theorem Tracked.nodup {d : Dispatcher} {log : List Invocation} (h : Tracked d log) :
    d.queries.Nodup := by
  refine h.sorted.imp fun {r r'} hlt heq => ?_
  rw [heq] at hlt
  exact Nat.lt_irrefl _ hlt

/-- A pending query is known by its number. -/
theorem Tracked.eq_of_handler_eq {d : Dispatcher} {log : List Invocation} (h : Tracked d log)
    {r r' : QueryRecord} (hr : r ∈ d.queries) (hr' : r' ∈ d.queries)
    (heq : r.handler = r'.handler) : r = r' := by
  have hnodup : (d.queries.map QueryRecord.handler).Nodup :=
    List.pairwise_map.mpr (h.sorted.imp fun hlt => Nat.ne_of_lt hlt)
  exact List.inj_on_of_nodup_map hnodup hr hr' heq

/-! ### Calls of the client -/

/-- The next unique id is the number of the next query, cut to its width. -/
theorem Tracked.next_uniqueId {d : Dispatcher} {log : List Invocation} (h : Tracked d log) :
    (d.lastQueryId + 1) % 2 ^ 32 = (d.issued + 1) % 2 ^ 32 := by
  rw [h.last, Nat.mod_add_mod]

theorem tracked_register {d : Dispatcher} {log : List Invocation} (h : Tracked d log)
    (query : DeviceCommand) (timeout : Bool) : Tracked (d.register query timeout) log where
  last := h.next_uniqueId
  record r hr := by
    rcases List.mem_append.mp hr with hr | hr
    · exact ⟨(h.record r hr).1, Nat.le_succ_of_le (h.record r hr).2⟩
    · rw [List.mem_singleton.mp hr]
      exact ⟨h.next_uniqueId, Nat.le_refl _⟩
  timer t ht := by
    have hold : ∀ t ∈ d.timers, t.uniqueId = t.handler % 2 ^ 32 ∧ t.handler ≤ d.issued + 1 :=
      fun t ht => ⟨(h.timer t ht).1, Nat.le_succ_of_le (h.timer t ht).2⟩
    cases timeout with
    | false => exact hold t ht
    | true =>
      rcases List.mem_append.mp ht with ht | ht
      · exact hold t ht
      · rw [List.mem_singleton.mp ht]
        exact ⟨h.next_uniqueId, Nat.le_refl _⟩
  sorted := by
    refine List.pairwise_append.mpr ⟨h.sorted, List.pairwise_singleton _ _, fun r hr r' hr' => ?_⟩
    rw [List.mem_singleton.mp hr']
    exact Nat.lt_succ_of_le (h.record r hr).2
  once := h.once
  past n hn := by
    obtain ⟨hle, hne⟩ := h.past n hn
    refine ⟨Nat.le_succ_of_le hle, fun r hr => ?_⟩
    rcases List.mem_append.mp hr with hr | hr
    · exact hne r hr
    · rw [List.mem_singleton.mp hr]
      exact Nat.ne_of_gt (Nat.lt_succ_of_le hle)

theorem tracked_stop {d : Dispatcher} {log : List Invocation} (h : Tracked d log) :
    Tracked d.stop log := by
  unfold stop
  split
  · exact h
  · exact h.mono rfl rfl (List.nil_sublist _) fun _ ht => ht

theorem tracked_start {d : Dispatcher} {log : List Invocation} (h : Tracked d log)
    (connects : Bool) : Tracked (d.start connects) log := by
  unfold start
  split
  · exact h
  · split
    · exact (tracked_stop h).mono rfl rfl (List.Sublist.refl _) fun _ ht => ht
    · exact h.mono rfl rfl (List.Sublist.refl _) fun _ ht => ht

theorem issued_stop (d : Dispatcher) : d.stop.issued = d.issued := by
  unfold stop
  split <;> rfl

theorem issued_start (d : Dispatcher) (connects : Bool) : (d.start connects).issued = d.issued := by
  unfold start
  split
  · rfl
  · split
    · exact issued_stop d
    · rfl

/-- One call keeps the invariant and never takes a number back. -/
theorem tracked_call {d d' : Dispatcher} {log : List Invocation} (h : Tracked d log) {c : Call}
    (hc : d.call c = .ok d') : Tracked d' log ∧ d.issued ≤ d'.issued := by
  cases call_outcome hc with
  | started connects =>
    exact ⟨tracked_start h connects, Nat.le_of_eq (issued_start d connects).symm⟩
  | stopped => exact ⟨tracked_stop h, Nat.le_of_eq (issued_stop d).symm⟩
  | registered query timeout => exact ⟨tracked_register h query timeout, Nat.le_succ _⟩
  | kept hstop hstart hissued hlast hqueries htimers =>
    refine ⟨h.mono hissued hlast (hqueries ▸ List.Sublist.refl _) (htimers ▸ fun _ ht => ht), ?_⟩
    exact Nat.le_of_eq hissued.symm

/-! ### Invocations -/

/-- No other pending query has the number of the one that is closed. -/
theorem Tracked.handler_ne {d : Dispatcher} {log : List Invocation} (h : Tracked d log)
    {record r : QueryRecord} (hr : record ∈ d.queries)
    (hrest : r ∈ (d.closeQuery record).queries) : r.handler ≠ record.handler := by
  intro heq
  obtain ⟨hne, hmem⟩ := h.nodup.mem_erase_iff.mp hrest
  exact hne (h.eq_of_handler_eq hmem hr heq)

/-- Closing a query cancels its own timer only. -/
theorem timers_closeQuery (d : Dispatcher) {record : QueryRecord} {handler : ℕ}
    (hne : handler ≠ record.handler) :
    (d.closeQuery record).timers.filter (fun t => t.handler = handler)
      = d.timers.filter fun t => t.handler = handler := by
  unfold closeQuery
  dsimp only
  split
  · rw [List.filter_filter]
    refine List.filter_congr fun t _ => ?_
    -- a timer of the other number is none of those that are cancelled
    by_cases ht : t.handler = handler
    · simp [ht, hne]
    · simp [ht]
  · rfl

/-- Closing a pending query and invoking its handler. -/
theorem tracked_closeQuery {d : Dispatcher} {log : List Invocation} (h : Tracked d log)
    {record : QueryRecord} (hr : record ∈ d.queries) (response : Option DeviceCommand)
    (cause : Cause) :
    Tracked (d.closeQuery record) (log ++ [.query record response cause]) := by
  have hmono : Tracked (d.closeQuery record) log := by
    refine h.mono rfl rfl (List.erase_sublist) fun t ht => ?_
    unfold closeQuery at ht
    dsimp only at ht
    split at ht
    · exact (List.mem_filter.mp ht).1
    · exact ht
  have hinvoked : invoked (log ++ [.query record response cause])
      = invoked log ++ [record.handler] := by
    simp [invoked, Invocation.queryHandler]
  refine ⟨hmono.last, hmono.record, hmono.timer, hmono.sorted, ?_, ?_⟩
  · rw [hinvoked]
    refine List.nodup_append.mpr ⟨h.once, List.nodup_singleton _, fun n hn m hm => ?_⟩
    rw [List.mem_singleton.mp hm]
    exact ((h.past n hn).2 record hr).symm
  · intro n hn
    rw [hinvoked] at hn
    rcases List.mem_append.mp hn with hn | hn
    · exact hmono.past n hn
    · rw [List.mem_singleton.mp hn]
      exact ⟨(h.record record hr).2, fun r hrest => h.handler_ne hr hrest⟩

/-- What a handler of an event leaves before the calls of the invoked handler: the
invariant holds with the invocation recorded, and while numbers are unique the
invocation has the cause it should have. -/
structure Sound (d : Dispatcher) (log : List Invocation) (r : Dispatcher × Option Invocation) :
    Prop where
  tracked : Tracked r.1 (log ++ r.2.toList)
  issued : r.1.issued = d.issued
  explained : d.issued < 2 ^ 32 → ∀ i ∈ r.2, Explained i

theorem Sound.none {d : Dispatcher} {log : List Invocation} (h : Tracked d log) :
    Sound d log (d, Option.none) :=
  ⟨by simpa using h, rfl, fun _ i hi => nomatch hi⟩

/-- An invocation of a handler that is no query's. -/
theorem Tracked.append {d : Dispatcher} {log : List Invocation} (h : Tracked d log) {i : Invocation}
    (hi : i.queryHandler = Option.none) : Tracked d (log ++ [i]) := by
  have hinvoked : invoked (log ++ [i]) = invoked log := by
    simp [invoked, hi]
  exact ⟨h.last, h.record, h.timer, h.sorted, hinvoked ▸ h.once, hinvoked ▸ h.past⟩

theorem sound_unknown {d : Dispatcher} {log : List Invocation} (h : Tracked d log)
    (command : DeviceCommand) : Sound d log (d.unknown command) := by
  unfold unknown
  split
  · exact ⟨h.append rfl, rfl, fun _ i hi => by cases hi; trivial⟩
  · exact Sound.none h

theorem sound_handleDeviceCommand {d : Dispatcher} {log : List Invocation} (h : Tracked d log)
    (command : DeviceCommand) : Sound d log (d.handleDeviceCommand command) := by
  unfold handleDeviceCommand
  split
  · next htype =>
    split
    · exact sound_unknown h command
    · next record hfind =>
      have hmem := List.mem_of_find?_eq_some hfind
      have hanswered := List.find?_some hfind
      rw [isAnswered, Bool.and_eq_true, decide_eq_true_eq, decide_eq_true_eq] at hanswered
      refine ⟨tracked_closeQuery h hmem (some command) .reply, rfl, fun _ i hi => ?_⟩
      cases hi
      exact ⟨htype, hanswered⟩
  · split
    · exact sound_unknown h command
    · next record hfind =>
      have hfilters : Tracked { d with
          filters := if record.filter.isOneTime then d.filters.erase record else d.filters } log :=
        h.mono rfl rfl (List.Sublist.refl _) fun _ ht => ht
      refine ⟨hfilters.append (i := .filter record command) rfl, rfl, fun _ i hi => ?_⟩
      cases hi
      trivial

/-- **A timer that fires finds its own query or none.** -/
theorem sound_fire {d : Dispatcher} {log : List Invocation} (h : Tracked d log) (handler : ℕ) :
    Sound d log (fire d handler) := by
  unfold fire
  split
  · exact Sound.none h
  · next t ht =>
    have htimer := h.timer t (List.mem_of_find?_eq_some ht)
    have h' : Tracked { d with timers := d.timers.erase t } log :=
      h.mono rfl rfl (List.Sublist.refl _) fun _ hu => List.mem_of_mem_erase hu
    unfold onQueryTimeout
    split
    · exact ⟨by simpa using h', rfl, fun _ i hi => nomatch hi⟩
    · next record hfind =>
      have hmem := List.mem_of_find?_eq_some hfind
      have hid : record.uniqueId = t.uniqueId := by simpa using List.find?_some hfind
      have hrecord := h.record record hmem
      refine ⟨tracked_closeQuery h' hmem none (.timer t.handler), rfl, fun hfew i hi => ?_⟩
      cases hi
      -- equal residues of numbers below the modulus
      have heq : t.handler = record.handler := by
        have hmod : record.handler % 2 ^ 32 = t.handler % 2 ^ 32 := by
          rw [← hrecord.1, ← htimer.1, hid]
        rw [Nat.mod_eq_of_lt (by omega), Nat.mod_eq_of_lt (by omega)] at hmod
        exact hmod.symm
      show Cause.timer t.handler = Cause.timer record.handler
      rw [heq]

/-- **What a packet does**: nothing but an event is reported, or it is a command of a
device. -/
theorem onPacket_cases {d : Dispatcher} {p : Option Packet} {r : Dispatcher × Option Invocation}
    (hp : d.onPacket p = .ok r) :
    r = (d, Option.none) ∨ ∃ command, r = d.handleDeviceCommand command := by
  have hreport : ∀ {r : Dispatcher × Option Invocation},
      (d.reportEvent >>= fun _ => Except.ok (d, Option.none)) = .ok r → r = (d, Option.none) := by
    intro r hr
    obtain ⟨-, -, hr⟩ := bind_eq_ok_iff.mp hr
    cases hr
    rfl
  cases p with
  | none => exact Or.inl (hreport hp)
  | some packet =>
    cases packet with
    | message m => cases hp
    | deviceInit m => cases hp
    | serviceCommand command =>
      unfold onPacket at hp
      dsimp only at hp
      split at hp
      · cases hp
        exact Or.inl rfl
      · split at hp
        · exact Or.inl (hreport hp)
        · split at hp
          · obtain ⟨deviceCommand, -, hp⟩ := bind_eq_ok_iff.mp hp
            cases hp
            exact Or.inr ⟨deviceCommand, rfl⟩
          · exact Or.inl (hreport hp)

theorem sound_onPacket {d : Dispatcher} {log : List Invocation} (h : Tracked d log)
    {p : Option Packet} {r : Dispatcher × Option Invocation} (hp : d.onPacket p = .ok r) :
    Sound d log r := by
  rcases onPacket_cases hp with rfl | ⟨command, rfl⟩
  · exact Sound.none h
  · exact sound_handleDeviceCommand h command

/-! ### Every event -/

/-- The invariant of a run. -/
structure Good (o : ObservedDispatcher) : Prop where
  tracked : Tracked o.dispatcher o.log
  explained : o.dispatcher.issued < 2 ^ 32 → ∀ i ∈ o.log, Explained i

/-- **The rule for events**: what every call keeps, and what a packet and a timer keep
with the invocation recorded, every event keeps, with the calls of the invoked handler. -/
theorem handle_rule {P : Dispatcher → List Invocation → Prop}
    (hcall : ∀ d d' log c, P d log → d.call c = .ok d' → P d' log)
    (hpacket : ∀ d log p r, P d log → d.onPacket p = .ok r → P r.1 (log ++ r.2.toList))
    (hfire : ∀ d log handler, P d log → P (fire d handler).1 (log ++ (fire d handler).2.toList))
    {o o' : ObservedDispatcher} {e : DispatcherEvent} (ho : P o.dispatcher o.log)
    (h : o.handle e = .ok o') : P o'.dispatcher o'.log := by
  have hcalls : ∀ (cs : List Call) {d d' : Dispatcher} {log : List Invocation}, P d log →
      d.calls cs = .ok d' → P d' log := by
    intro cs
    induction cs with
    | nil =>
      intro d d' log hd hc
      cases hc
      exact hd
    | cons c cs ih =>
      intro d d' log hd hc
      obtain ⟨d₁, hfirst, hrest⟩ := bind_eq_ok_iff.mp hc
      exact ih (hcall d d₁ log c hd hfirst) hrest
  -- the calls of the invoked handler come after the invocation
  have hinvoke : ∀ {r : Dispatcher × Option Invocation} {reaction : List Call},
      P r.1 (o.log ++ r.2.toList) → invoke o.log r reaction = .ok o' → P o'.dispatcher o'.log := by
    rintro ⟨d, i⟩ reaction hr h
    unfold invoke at h
    cases i with
    | none =>
      cases h
      simpa using hr
    | some i =>
      obtain ⟨d', hreaction, h⟩ := bind_eq_ok_iff.mp h
      cases h
      exact hcalls reaction hr hreaction
  cases e with
  | call c =>
    obtain ⟨d, hc, h⟩ := bind_eq_ok_iff.mp h
    cases h
    exact hcall _ _ _ c ho hc
  | packet p reaction =>
    obtain ⟨r, hp, h⟩ := bind_eq_ok_iff.mp h
    exact hinvoke (hpacket _ _ p r ho hp) h
  | timeout handler reaction => exact hinvoke (hfire _ _ handler ho) h

/-- What the handler of an event leaves is good. -/
theorem Sound.good {d : Dispatcher} {log : List Invocation} {r : Dispatcher × Option Invocation}
    (hr : Sound d log r) (hd : Good ⟨d, log⟩) : Good ⟨r.1, log ++ r.2.toList⟩ := by
  refine ⟨hr.tracked, fun hfew i hi => ?_⟩
  have hissued : d.issued < 2 ^ 32 := by
    rw [← hr.issued]
    exact hfew
  rcases List.mem_append.mp hi with hi | hi
  · exact hd.explained hissued i hi
  · exact hr.explained hissued i (by simpa using hi)

/-- **One step**: every event keeps the invariant. -/
theorem good_handle {o o' : ObservedDispatcher} {e : DispatcherEvent} (ho : Good o)
    (h : o.handle e = .ok o') : Good o' := by
  refine handle_rule (P := fun d log => Good ⟨d, log⟩) ?_ ?_ ?_ ho h
  · intro d d' log c hd hc
    obtain ⟨htracked, hle⟩ := tracked_call hd.tracked hc
    exact ⟨htracked, fun hfew => hd.explained (hle.trans_lt hfew)⟩
  · exact fun d log p r hd hp => (sound_onPacket hd.tracked hp).good hd
  · exact fun d log handler hd => (sound_fire hd.tracked handler).good hd

theorem good_create : Good create where
  tracked := by
    refine ⟨rfl, ?_, ?_, List.Pairwise.nil, List.nodup_nil, ?_⟩
    · exact fun r hr => absurd hr List.not_mem_nil
    · exact fun t ht => absurd ht List.not_mem_nil
    · exact fun n hn => absurd hn List.not_mem_nil
  explained := fun _ i hi => absurd hi List.not_mem_nil

/-- The rule for the states of a run. -/
theorem reachable_rule {P : ObservedDispatcher → Prop} (hcreate : P create)
    (hstep : ∀ o o' e, P o → o.handle e = .ok o' → P o') {o : ObservedDispatcher}
    (h : Run.Reachable step (· = create) o) : P o := by
  refine h.invariant ?_ ?_
  · rintro _ rfl
    exact hcreate
  · intro o e o' ho h
    rw [step] at h
    cases hhandle : o.handle e with
    | error f =>
      rw [hhandle] at h
      cases h
    | ok o'' =>
      rw [hhandle] at h
      cases h
      exact hstep o o' e ho hhandle

/-- Every state of a run. -/
theorem good_of_reachable {o : ObservedDispatcher} (h : Run.Reachable step (· = create) o) :
    Good o :=
  reachable_rule good_create (fun _ _ _ ho hhandle => good_handle ho hhandle) h

/-! ### Replies -/

/-- **The reply goes to the oldest pending query it answers**, and every other pending
query stays, with its timer. -/
structure ServesOldest (d : Dispatcher) (command : DeviceCommand)
    (r : Dispatcher × Option Invocation) : Prop where
  served : ∃ before record after, d.queries = before ++ record :: after ∧
    isAnswered command record = true ∧
    (∀ q ∈ d.queries, isAnswered command q = true → record.handler ≤ q.handler) ∧
    r.1.queries = before ++ after ∧ r.2 = some (.query record (some command) .reply) ∧
    ∀ q ∈ before ++ after, (r.1.timers.filter fun t => t.handler = q.handler)
      = d.timers.filter fun t => t.handler = q.handler

/-- The reply answers no pending query, and they all stay. -/
structure ServesNone (d : Dispatcher) (command : DeviceCommand)
    (r : Dispatcher × Option Invocation) : Prop where
  unanswered : ∀ q ∈ d.queries, isAnswered command q = false
  outcome : r = d.unknown command

theorem handleDeviceCommand_reply {d : Dispatcher} {log : List Invocation} (h : Tracked d log)
    {command : DeviceCommand} (htype : command.type = .reply) :
    ServesOldest d command (d.handleDeviceCommand command) ∨
      ServesNone d command (d.handleDeviceCommand command) := by
  unfold handleDeviceCommand
  rw [if_pos htype]
  split
  · next hfind =>
    right
    refine ⟨fun q hq => ?_, rfl⟩
    simpa using List.find?_eq_none.mp hfind q hq
  · next record hfind =>
    left
    obtain ⟨hanswered, before, after, hqueries, hbefore⟩ :=
      List.find?_eq_some_iff_append.mp hfind
    have hnot : ∀ q ∈ before, isAnswered command q = false := by
      intro q hq
      simpa using hbefore q hq
    have hout : record ∉ before := by
      intro hmem
      rw [hnot record hmem] at hanswered
      cases hanswered
    have hbehind : (d.closeQuery record).queries = before ++ after := by
      unfold closeQuery
      dsimp only
      rw [hqueries, List.erase_append_right _ hout, List.erase_cons_head]
    refine ⟨before, record, after, hqueries, hanswered, fun q hq hqa => ?_, hbehind, rfl,
      fun q hq => ?_⟩
    · -- an answered query stands at the served one or behind it, and those are younger
      rw [hqueries] at hq
      have hsorted := h.sorted
      rw [hqueries] at hsorted
      rcases List.mem_append.mp hq with hq | hq
      · rw [hnot q hq] at hqa
        cases hqa
      · rcases List.mem_cons.mp hq with rfl | hq
        · exact Nat.le_refl _
        · exact Nat.le_of_lt ((List.pairwise_cons.mp (List.pairwise_append.mp hsorted).2.1).1 q hq)
    · rw [← hbehind] at hq
      exact timers_closeQuery d (h.handler_ne (List.mem_of_find?_eq_some hfind) hq)

/-- The event of a reply, before the calls of the handler it is given to. -/
theorem handle_reply (o : ObservedDispatcher) {service : ServiceCommand} {command : DeviceCommand}
    (h : DeviceCommand.default.setFromServiceCommand service = .ok command)
    (htype : command.type = .reply) (reaction : List Call) :
    o.handle (.packet (some (.serviceCommand service)) reaction)
      = invoke o.log (o.dispatcher.handleDeviceCommand command) reaction := by
  have haction : service.action = "reply".toList := by
    rw [DeviceCommand.action_of_setFromServiceCommand h, htype]
    rfl
  have hpacket : o.dispatcher.onPacket (some (.serviceCommand service))
      = .ok (o.dispatcher.handleDeviceCommand command) := by
    unfold onPacket
    dsimp only
    rw [haction, if_neg (by decide), if_neg (by decide), if_pos (Or.inr rfl), h]
    rfl
  rw [handle, hpacket]
  rfl

/-- **How queries complete.**  In every state of a run with fewer than `2 ^ 32` queries,
no query's handler was invoked twice, every invocation has the query's own reply or
the query's own timeout for its cause, and a reply that arrives goes to the oldest
pending query it answers. -/
theorem query_completion {o : ObservedDispatcher} (h : Run.Reachable step (· = create) o)
    (hfew : o.dispatcher.issued < 2 ^ 32) :
    (invoked o.log).Nodup ∧ (∀ i ∈ o.log, Explained i) ∧
      ∀ service command reaction,
        DeviceCommand.default.setFromServiceCommand service = .ok command →
        command.type = .reply →
        ∃ r, o.handle (.packet (some (.serviceCommand service)) reaction)
            = invoke o.log r reaction ∧
          (ServesOldest o.dispatcher command r ∨ ServesNone o.dispatcher command r) := by
  have hgood := good_of_reachable h
  refine ⟨hgood.tracked.once, hgood.explained hfew, fun service command reaction hset htype => ?_⟩
  exact ⟨_, handle_reply o hset htype reaction, handleDeviceCommand_reply hgood.tracked htype⟩

/-- A client that has asked the sample device once and got its answer. -/
def answeredOnce : ObservedDispatcher :=
  ⟨{ Dispatcher.create with connection := true, lastQueryId := 1, issued := 1 },
    [.query ⟨⟨"lamp".toList, .query, 0x0102, []⟩, 1, 1, true⟩
      (some ⟨"lamp".toList, .reply, 0x0102, [0x2a]⟩) .reply]⟩

/-- The handler of the one query was invoked once, with a reply for it. -/
theorem query_completion_answeredOnce :
    (invoked answeredOnce.log).Nodup ∧ ∀ i ∈ answeredOnce.log, Explained i := by
  have hreach : Run.Reachable step (· = create) answeredOnce := by
    refine .step (.packet (some (.serviceCommand ⟨"reply".toList,
      ((OrderedMap.empty.insert "device".toList "lamp".toList).insert "address".toList
        "0102".toList).insert "data".toList "2a".toList⟩)) [])
      (.step (.call (.sendQuery ⟨"lamp".toList, .query, 0x0102, []⟩ true true))
        (.step (.call (.start true)) (.init rfl) rfl) rfl) ?_
    rfl
  have hall := query_completion hreach (by decide)
  exact ⟨hall.1, hall.2.1⟩

end ObservedDispatcher
end HomeAutomation
