import HomeAutomation.Client.QueryCompletion

/-!
# What becomes of the timers of queries

A `Timeout` is owned by the record of its query and must be stopped before it is
destroyed: its destructor verifies that.  Records go in three ways.  A reply and a
timeout go through `close_query`, which stops the timer first; `stop` clears the list.

A state inside a handler is a state of a run, too: the one of the same event with the
calls the handler has made so far.

## Main definitions

* `Running` — the timer of a query is armed.
* `Clean` — a step destroys no timer that is armed.
* `Quiet` — the dispatcher is stopped, or no pending query has its timer armed.
* `Armed` — every pending query with a finite timeout has its timer armed.

## Main results

* `clean_onPacket`, `clean_fire`, `clean_call_iff` — the three ways.
* `armed_of_reachable` — the timers of the pending queries.
* `stop_releases_iff` — when `stop` may be called.

## References

`common/source/client/Dispatcher.cpp`, `common/source/util/EventLoop.cpp`.
-/

namespace HomeAutomation
namespace Dispatcher

/-- The record has a timeout, and it is started. -/
def Running (d : Dispatcher) (r : QueryRecord) : Prop :=
  r.timeout = true ∧ ∃ t ∈ d.timers, t.handler = r.handler

/-- **No timeout that is destroyed on the way from `d` to `d'` is started**: the records
that go leave no armed timer behind. -/
def Clean (d d' : Dispatcher) : Prop := ∀ r ∈ d.queries, r ∉ d'.queries → ¬ d'.Running r

/-- There is nothing to stop, or no timer runs. -/
def Quiet (d : Dispatcher) : Prop := d.connection = false ∨ ∀ r ∈ d.queries, ¬ d.Running r

/-- Every pending query with a finite timeout has its timer armed. -/
def Armed (d : Dispatcher) : Prop := ∀ r ∈ d.queries, r.timeout = true → d.Running r

/-! ### Records that go -/

/-- A step that keeps the records. -/
theorem clean_of_subset {d d' : Dispatcher} (h : ∀ r ∈ d.queries, r ∈ d'.queries) : Clean d d' :=
  fun r hr hgone => absurd (h r hr) hgone

/-- **`close_query` stops the timer first.** -/
theorem clean_closeQuery (d : Dispatcher) (record : QueryRecord) :
    Clean d (d.closeQuery record) := by
  rintro r hr hgone ⟨htimeout, t, ht, hhandler⟩
  obtain rfl : r = record := by
    by_contra hne
    exact hgone ((List.mem_erase_of_ne hne).mpr hr)
  simp only [closeQuery, htimeout, if_true, List.mem_filter] at ht
  simp [hhandler] at ht

theorem clean_handleDeviceCommand (d : Dispatcher) (command : DeviceCommand) :
    Clean d (d.handleDeviceCommand command).1 := by
  unfold handleDeviceCommand unknown
  split
  · split
    · exact clean_of_subset fun _ hr => hr
    · exact clean_closeQuery d _
  · split
    · exact clean_of_subset fun _ hr => hr
    · exact clean_of_subset fun _ hr => hr

/-- **A packet destroys no armed timer.** -/
theorem clean_onPacket {d : Dispatcher} {p : Option Packet} {r : Dispatcher × Option Invocation}
    (h : d.onPacket p = .ok r) : Clean d r.1 := by
  rcases ObservedDispatcher.onPacket_cases h with rfl | ⟨command, rfl⟩
  · exact clean_of_subset fun _ hr => hr
  · exact clean_handleDeviceCommand d command

/-- **Neither does a timer that fires.** -/
theorem clean_fire (d : Dispatcher) (handler : ℕ) :
    Clean d (ObservedDispatcher.fire d handler).1 := by
  unfold ObservedDispatcher.fire
  split
  · exact clean_of_subset fun _ hr => hr
  · next t ht =>
    unfold onQueryTimeout
    split
    · exact clean_of_subset fun _ hr => hr
    · exact fun r hr => clean_closeQuery { d with timers := d.timers.erase t } _ r hr

/-- **What `stop` does to the timers**: it destroys them all as they are. -/
theorem clean_stop_iff (d : Dispatcher) : Clean d d.stop ↔ d.Quiet := by
  unfold Dispatcher.stop Quiet
  split
  · next h =>
    exact iff_of_true (clean_of_subset fun _ hr => hr) (Or.inl (by simpa using h))
  · next h =>
    have hconnection : ¬ d.connection = false := by simpa using h
    rw [or_iff_right hconnection]
    exact forall₂_congr fun r hr => by simp [Running]

/-- The calls that stop the dispatcher. -/
def Call.Stops : Call → Prop
  | .stop => True
  | .start connects => connects = true
  | _ => False

/-- A call that does not stop the dispatcher keeps its records. -/
theorem queries_of_call {d d' : Dispatcher} {c : Call} (hc : ¬ c.Stops) (h : d.call c = .ok d') :
    ∀ r ∈ d.queries, r ∈ d'.queries := by
  cases call_outcome h with
  | started connects =>
    cases connects with
    | false => exact fun _ hr => hr
    | true => exact absurd rfl hc
  | stopped => exact absurd trivial hc
  | registered => exact fun _ hr => List.mem_append_left _ hr
  | kept hstop hstart hissued hlast hqueries => exact fun _ hr => hqueries ▸ hr

/-- A start that connects stops the dispatcher first, if it was started before. -/
theorem clean_start_iff (d : Dispatcher) : Clean d (d.start true) ↔ d.Quiet := by
  rw [← clean_stop_iff]
  unfold Dispatcher.start
  split
  · cases ‹_›
  · split
    · exact Iff.rfl
    · next hconnection =>
      have hstop : d.stop = d := by rw [Dispatcher.stop, if_pos (by simpa using hconnection)]
      rw [hstop]
      exact Iff.rfl

/-- **A call destroys an armed timer exactly when it stops the dispatcher while one
runs.** -/
theorem clean_call_iff {d d' : Dispatcher} {c : Call} (h : d.call c = .ok d') :
    Clean d d' ↔ (c.Stops → d.Quiet) := by
  by_cases hc : c.Stops
  · rw [forall_prop_of_true hc]
    cases c with
    | start connects =>
      obtain rfl : connects = true := hc
      cases h
      exact clean_start_iff d
    | stop =>
      cases h
      exact clean_stop_iff d
    | setEventHandler | setUnknownHandler | addFilter | send | sendQuery => exact absurd hc id
  · exact iff_of_true (clean_of_subset (queries_of_call hc h)) fun hstops => absurd hstops hc

/-! ### The timers of pending queries -/

open ObservedDispatcher in
/-- The invariant: while the unique ids of the queries are unique, the pending queries
have their timers. -/
def ArmedRun (d : Dispatcher) (log : List Invocation) : Prop :=
  Good ⟨d, log⟩ ∧ (d.issued < 2 ^ 32 → d.Armed)

/-- A timer that is not taken away stays. -/
theorem Running.mono {d d' : Dispatcher} {r : QueryRecord} (h : d.Running r)
    (hkept : ∀ t ∈ d.timers, t.handler = r.handler → t ∈ d'.timers) : d'.Running r := by
  obtain ⟨htimeout, t, ht, hhandler⟩ := h
  exact ⟨htimeout, t, hkept t ht hhandler, hhandler⟩

/-- Closing a query takes the timer of no other one. -/
theorem armed_closeQuery {d : Dispatcher} {log : List Invocation}
    (h : ObservedDispatcher.Tracked d log) {record : QueryRecord} (hrecord : record ∈ d.queries)
    (hd : ∀ r ∈ d.queries, r ≠ record → r.timeout = true → d.Running r) :
    (d.closeQuery record).Armed := by
  intro r hr htimeout
  obtain ⟨hne, hmem⟩ := h.nodup.mem_erase_iff.mp hr
  have hnumber : r.handler ≠ record.handler := fun heq => hne (h.eq_of_handler_eq hmem hrecord heq)
  refine (hd r hmem hne htimeout).mono fun t ht hhandler => ?_
  unfold closeQuery
  dsimp only
  split
  · exact List.mem_filter.mpr ⟨ht, by simpa [hhandler] using hnumber⟩
  · exact ht

theorem armed_handleDeviceCommand {d : Dispatcher} {log : List Invocation}
    (h : ObservedDispatcher.Tracked d log) (hd : d.Armed) (command : DeviceCommand) :
    (d.handleDeviceCommand command).1.Armed := by
  unfold handleDeviceCommand unknown
  split
  · split
    · exact hd
    · next record hfind =>
      exact armed_closeQuery h (List.mem_of_find?_eq_some hfind) fun r hr _ => hd r hr
  · split <;> exact hd

/-- **A timer that fires is the one of the query it closes.** -/
theorem armed_fire {d : Dispatcher} {log : List Invocation} (h : ObservedDispatcher.Tracked d log)
    (hfew : d.issued < 2 ^ 32) (hd : d.Armed) (handler : ℕ) :
    (ObservedDispatcher.fire d handler).1.Armed := by
  unfold ObservedDispatcher.fire
  split
  · exact hd
  · next t ht =>
    have htimer := h.timer t (List.mem_of_find?_eq_some ht)
    -- the numbers are below the modulus, so the unique id tells the query
    have hnumber : ∀ r ∈ d.queries, r.uniqueId = t.uniqueId ↔ t.handler = r.handler := by
      intro r hr
      have hrecord := h.record r hr
      rw [hrecord.1, htimer.1, Nat.mod_eq_of_lt (by omega), Nat.mod_eq_of_lt (by omega)]
      exact eq_comm
    -- the timer that fired is none of another query
    have hothers : ∀ r ∈ d.queries, r.uniqueId ≠ t.uniqueId → r.timeout = true →
        Running { d with timers := d.timers.erase t } r := by
      intro r hr hid htimeout
      refine (hd r hr htimeout).mono fun u hu hhandler => ?_
      refine (List.mem_erase_of_ne ?_).mpr hu
      rintro rfl
      exact hid ((hnumber r hr).mpr hhandler)
    unfold onQueryTimeout
    split
    -- the query of this timer has been answered before
    · next hfind =>
      intro r hr htimeout
      exact hothers r hr (by simpa using List.find?_eq_none.mp hfind r hr) htimeout
    -- the query is closed, and the timers of the others stay
    · next record hfind =>
      have hmem := List.mem_of_find?_eq_some hfind
      have hid : record.uniqueId = t.uniqueId := by simpa using List.find?_some hfind
      have h' : ObservedDispatcher.Tracked { d with timers := d.timers.erase t } log :=
        h.mono rfl rfl (List.Sublist.refl _) fun _ hu => List.mem_of_mem_erase hu
      refine armed_closeQuery h' hmem fun r hr hne htimeout =>
        hothers r hr (fun hid' => ?_) htimeout
      exact hne (h.eq_of_handler_eq hr hmem
        (((hnumber r hr).mp hid').symm.trans ((hnumber record hmem).mp hid)))

theorem armed_register {d : Dispatcher} (hd : d.Armed) (query : DeviceCommand) (timeout : Bool) :
    (d.register query timeout).Armed := by
  intro r hr htimeout
  rcases List.mem_append.mp hr with hr | hr
  · refine (hd r hr htimeout).mono fun t ht _ => ?_
    unfold register
    dsimp only
    split
    · exact List.mem_append_left _ ht
    · exact ht
  · obtain rfl := List.mem_singleton.mp hr
    refine ⟨htimeout, ⟨d.issued + 1, (d.lastQueryId + 1) % 2 ^ 32⟩, ?_, rfl⟩
    unfold register
    dsimp only at htimeout ⊢
    rw [if_pos htimeout]
    exact List.mem_append_right _ (List.mem_singleton_self _)

theorem armed_stop {d : Dispatcher} (hd : d.Armed) : d.stop.Armed := by
  unfold Dispatcher.stop
  split
  · exact hd
  · exact fun r hr => absurd hr List.not_mem_nil

theorem armed_call {d d' : Dispatcher} {c : Call} (hd : d.Armed) (h : d.call c = .ok d') :
    d'.Armed := by
  cases call_outcome h with
  | started connects =>
    unfold Dispatcher.start
    split
    · exact hd
    · split
      · exact armed_stop hd
      · exact hd
  | stopped => exact armed_stop hd
  | registered query timeout => exact armed_register hd query timeout
  | kept hstop hstart hissued hlast hqueries htimers =>
    intro r hr htimeout
    rw [hqueries] at hr
    exact (hd r hr htimeout).mono fun t ht _ => htimers ▸ ht

open ObservedDispatcher

/-- **Every pending query with a finite timeout has its timer armed**, in every state of
a run with fewer than `2 ^ 32` queries. -/
theorem armed_of_reachable {o : ObservedDispatcher}
    (h : Run.Reachable ObservedDispatcher.step (· = ObservedDispatcher.create) o)
    (hfew : o.dispatcher.issued < 2 ^ 32) : o.dispatcher.Armed := by
  have hrun : ArmedRun o.dispatcher o.log := by
    refine reachable_rule (P := fun o => ArmedRun o.dispatcher o.log) ?_ ?_ h
    -- no query is pending at first
    · exact ⟨good_create, fun _ r hr => absurd hr List.not_mem_nil⟩
    · refine fun o o' e ho => handle_rule ?_ ?_ ?_ ho
      -- a call of the client
      · rintro d d' log c ⟨hgood, harmed⟩ hc
        obtain ⟨htracked, hle⟩ := tracked_call hgood.tracked hc
        exact ⟨⟨htracked, fun hfew => hgood.explained (hle.trans_lt hfew)⟩,
          fun hfew => armed_call (harmed (hle.trans_lt hfew)) hc⟩
      -- a packet, with the invocation it leads to
      · rintro d log p r ⟨hgood, harmed⟩ hp
        have hsound := sound_onPacket hgood.tracked hp
        refine ⟨hsound.good hgood, fun hfew => ?_⟩
        rw [hsound.issued] at hfew
        rcases onPacket_cases hp with rfl | ⟨command, rfl⟩
        · exact harmed hfew
        · exact armed_handleDeviceCommand hgood.tracked (harmed hfew) command
      -- a timer that fires
      · rintro d log handler ⟨hgood, harmed⟩
        have hsound := sound_fire hgood.tracked handler
        refine ⟨hsound.good hgood, fun hfew => ?_⟩
        rw [hsound.issued] at hfew
        exact armed_fire hgood.tracked hfew (harmed hfew) handler
  exact hrun.2 hfew

/-- While the unique ids are unique, no timer runs exactly when no pending query has a
finite timeout. -/
theorem quiet_iff {o : ObservedDispatcher}
    (h : Run.Reachable ObservedDispatcher.step (· = ObservedDispatcher.create) o)
    (hfew : o.dispatcher.issued < 2 ^ 32) : o.dispatcher.Quiet ↔
      o.dispatcher.connection = false ∨ ∀ r ∈ o.dispatcher.queries, r.timeout = false := by
  have harmed := armed_of_reachable h hfew
  refine or_congr_right (forall₂_congr fun r hr => ?_)
  constructor
  · intro hquiet
    by_contra htimeout
    exact hquiet (harmed r hr (by simpa using htimeout))
  · rintro htimeout ⟨hfinite, -⟩
    rw [htimeout] at hfinite
    cases hfinite

/-- **When `stop` may be called.**  In every state of a run, replies and timeouts destroy
no armed timer, and a call of the client destroys one exactly when it stops the
dispatcher, also to start it again, while a pending query has its timer armed; and with
fewer than `2 ^ 32` queries these are the pending queries with a finite timeout. -/
theorem stop_releases_iff {o : ObservedDispatcher}
    (h : Run.Reachable ObservedDispatcher.step (· = ObservedDispatcher.create) o) :
    (∀ c d', o.dispatcher.call c = .ok d' →
      (o.dispatcher.Clean d' ↔ (c.Stops → o.dispatcher.Quiet))) ∧
    (∀ p r, o.dispatcher.onPacket p = .ok r → o.dispatcher.Clean r.1) ∧
    (∀ handler, o.dispatcher.Clean (fire o.dispatcher handler).1) ∧
    (o.dispatcher.issued < 2 ^ 32 → (o.dispatcher.Quiet ↔
      o.dispatcher.connection = false ∨ ∀ r ∈ o.dispatcher.queries, r.timeout = false)) :=
  ⟨fun _ _ hc => clean_call_iff hc, fun _ _ hp => clean_onPacket hp, clean_fire o.dispatcher,
    quiet_iff h⟩

/-- A client that is started and has sent a query, with a finite timeout or without. -/
def waiting (timeout : Bool) : ObservedDispatcher :=
  ⟨(Dispatcher.create.start true).register ⟨"lamp".toList, .query, 0x0102, []⟩ timeout, []⟩

theorem waiting_reachable (timeout : Bool) :
    Run.Reachable ObservedDispatcher.step (· = ObservedDispatcher.create) (waiting timeout) :=
  .step (.call (.sendQuery ⟨"lamp".toList, .query, 0x0102, []⟩ timeout true))
    (.step (.call (.start true)) (.init rfl) rfl) rfl

/-- Without a timeout the client may be stopped. -/
theorem stop_releases_waiting :
    (waiting false).dispatcher.Clean (waiting false).dispatcher.stop := by
  obtain ⟨hcall, -, -, hquiet⟩ := stop_releases_iff (waiting_reachable false)
  exact (hcall .stop _ rfl).mpr fun _ => (hquiet (by decide)).mpr (Or.inr (by decide))

/-- **A client that is stopped while it waits destroys an armed timer.** -/
theorem stop_destroys_armed_timer :
    Run.Reachable ObservedDispatcher.step (· = ObservedDispatcher.create) (waiting true) ∧
      ¬ (waiting true).dispatcher.Clean (waiting true).dispatcher.stop := by
  refine ⟨waiting_reachable true, fun hclean => ?_⟩
  refine hclean ⟨⟨"lamp".toList, .query, 0x0102, []⟩, 1, 1, true⟩ (by decide) (by decide) ?_
  exact ⟨rfl, ⟨1, 1⟩, by decide, rfl⟩

end Dispatcher
end HomeAutomation
