import HomeAutomation.Proto.WriteSide
import HomeAutomation.Router.Changes

/-!
# The queue of messages to devices

`handle_send` accepts a message and puts it into the queue; a tick of the send timer
takes the first message out and hands it to the connection of its network.  The
two happen in different events, with losses, restarts and other clients' commands
in between.

The history of a run is read off its steps: what was accepted, which message had
its turn, what was then put into which write buffer, and which reply filters were
installed.  A message has one turn, in the order of acceptance; what becomes of it
there is up to its network.

The timer is started when a message enters an empty queue and after a turn that
leaves messages behind.  `stop` stops it and keeps the queue, so a router started
again with messages in its queue never looks at them.

## Main definitions

* `handsOver`, `putInto` — what a step does to the connections of the networks.
* `acceptedIn`, `turnsIn`, `handedOver`, `writtenTo`, `installedIn` — the history of a run.
* `QueueHistory` — what holds of the history.
* `TimerFollowsQueue` — the timer runs exactly while there are messages.
* `StartsEmpty` — the router is not started with messages in its queue.

## Main results

* `queue_history` — the history of every run.
* `always_timerFollowsQueue_iff` — the runs in which the timer follows the queue.

## References

`router/Router.cpp`.
-/

namespace HomeAutomation
namespace Router
namespace State

variable {config : Config}

/-! ### One step of the queue -/

theorem turn_idle {s : State} (h : s.started = false ∨ s.sendQueue = []) :
    turn s .sendTick = [] := by
  rw [turn]
  split
  · next hcond =>
    rcases h with hstarted | hqueue
    · rw [hstarted] at hcond
      cases hcond.1
    · rw [hqueue]
      rfl
  · rfl

theorem turn_head {s : State} (hstarted : s.started = true) (htimer : s.sendTimer = true)
    {record : SendRecord} {queue : List SendRecord} (hqueue : s.sendQueue = record :: queue) :
    turn s .sendTick = [record] := by
  rw [turn, if_pos ⟨hstarted, htimer⟩, hqueue]
  rfl

/-- **One step**: what is in the queue and what is accepted is what has its turn and
what is in the queue then. -/
theorem sendQueue_of_change {s s' : State} {e : Event} (h : Change config s e s') :
    s.sendQueue ++ accepted config s e = turn s e ++ s'.sendQueue := by
  cases h with
  | quiet haccepted hturn h => rw [haccepted, hturn, h.sendQueue, List.append_nil, List.nil_append]
  | queued record _ haccepted hturn _ h =>
    rw [haccepted, hturn, h.sendQueue]
    rfl
  | idle hidle =>
    rw [turn_idle hidle]
    exact List.append_nil _
  | turned record queue t sent hstarted htimer hqueue hsend =>
    -- the first message has its turn
    obtain ⟨networks, connected, timeout, p, rfl, -⟩ := sendQueued_frame hsend
    rw [turn_head hstarted htimer hqueue, hqueue]
    exact List.append_nil _
  | lost i _ h =>
    obtain ⟨networks, connected, timeout, p, rfl⟩ := disconnectNetwork_frame h
    exact List.append_nil _
  | reconnected connects =>
    obtain ⟨networks, connected, timeout, h⟩ :=
      onReconnectTimeout_frame { s with reconnectTimeout := false } connects
    rw [h]
    exact List.append_nil _
  | startFailed => exact List.append_nil _
  | started listens connects bindings =>
    obtain ⟨networks, connected, timeout, h⟩ :=
      connectNetworks_frame { s with bindings := bindings } connects
    rw [h]
    exact List.append_nil _
  | stopped hstarted h =>
    obtain ⟨-, -, rfl⟩ := stop_cases hstarted h
    exact List.append_nil _

/-- Every query in the queue carries a filter for its reply. -/
def QueueAnswerable (s : State) : Prop := ∀ r ∈ s.sendQueue, Answerable r

theorem queueAnswerable_of_change {s s' : State} {e : Event} (hs : s.QueueAnswerable)
    (h : Change config s e s') : s'.QueueAnswerable := by
  have haccepted : ∀ r ∈ accepted config s e, Answerable r := by
    intro r hr
    cases h with
    | quiet haccepted _ _ =>
      rw [haccepted] at hr
      cases hr
    | queued record _ haccepted _ hrecord _ =>
      rw [haccepted, List.mem_singleton] at hr
      exact hr ▸ hrecord
    | _ => cases hr
  intro r hr
  have hmem : r ∈ s.sendQueue ++ accepted config s e := by
    rw [sendQueue_of_change h]
    exact List.mem_append_right _ hr
  exact (List.mem_append.mp hmem).elim (hs r) (haccepted r)

/-! ### Handing over -/

/-- A connection takes a line: it is put behind what the write buffer holds, and the write
listener runs.  A connection that has seen an error stays as it is. -/
def takesLine (c : SocketConnection) (line : Text) (c' : SocketConnection) : Bool :=
  if c.gotError then c' = c
  else c' = { c with writeBuffer := c.writeBuffer ++ line, writeListener := true }

/-- The line of a queued message. -/
def recordLine (record : SendRecord) : Text := SocketConnection.lineOf (.message record.message)

theorem recordLine_ne_nil (record : SendRecord) : recordLine record ≠ [] := by
  simp [recordLine, SocketConnection.lineOf, Packet.convertToString]

/-- **A message is handed over in a step**: the connection of its network takes its line. -/
def handsOver (s : State) (record : SendRecord) (s' : State) : Bool :=
  match s.connectionOf record.network, s'.connectionOf record.network with
  | some c, some c' => takesLine c (recordLine record) c'
  | _, _ => false

/-- The connection of a network has seen an error, of which the router does not know yet. -/
def hasFailed (s : State) (i : ℕ) : Bool := (s.connectionOf i).any SocketConnection.gotError

/-- What the connection of a network has to write. -/
def unwritten (s : State) (i : ℕ) : Text := (s.connectionOf i).elim [] SocketConnection.writeBuffer

/-- **What a step puts into the write buffer of a network**, behind what was there. -/
def putInto (s s' : State) (i : ℕ) : List Text :=
  match s'.connectionOf i with
  | none => []
  | some c' =>
    if c'.writeBuffer = s.unwritten i then []
    else [c'.writeBuffer.drop (s.unwritten i).length]

theorem putInto_of_eq {s s' : State} {i : ℕ} (h : s'.connectionOf i = s.connectionOf i) :
    putInto s s' i = [] := by
  rw [putInto, unwritten, ← h]
  split
  · rfl
  · next c hc =>
    rw [hc]
    exact if_pos rfl

theorem putInto_of_none {s s' : State} {i : ℕ} (h : s'.connectionOf i = none) :
    putInto s s' i = [] := by
  rw [putInto, h]

/-- The connections behind the replacement of a record. -/
theorem connectionOf_of_set {s t : State} {i : ℕ} {n r : NetworkRecord}
    (hn : s.networks[i]? = some n) (h : t.networks = s.networks.set i r) :
    t.connectionOf i = r.connection ∧ ∀ j ≠ i, t.connectionOf j = s.connectionOf j := by
  have hi : i < s.networks.length := (List.getElem?_eq_some_iff.mp hn).1
  constructor
  · rw [connectionOf, h, List.getElem?_set, if_pos rfl, if_pos hi]
    rfl
  · intro j hj
    rw [connectionOf, connectionOf, h, List.getElem?_set, if_neg (Ne.symm hj)]

/-- **What a turn does to the connections of the networks**: the one that takes the message
has its line, the one that overflows is gone, and all others are as they were. -/
inductive Turned (s : State) (record : SendRecord) (t : State) : Bool → Prop
  | taken {c c' : SocketConnection} (hc : s.connectionOf record.network = some c)
      (hc' : t.connectionOf record.network = some c')
      (htakes : takesLine c (recordLine record) c' = true)
      (hothers : ∀ i ≠ record.network, t.connectionOf i = s.connectionOf i) :
      Turned s record t true
  | dropped (hgone : t.connectionOf record.network = none)
      (hothers : ∀ i ≠ record.network, t.connectionOf i = s.connectionOf i) :
      Turned s record t false

/-- `send` takes the line of a packet, or it throws. -/
theorem takesLine_of_send {c c' : SocketConnection} {record : SendRecord}
    (h : c.send (.message record.message) = .ok (.ok c')) :
    takesLine c (recordLine record) c' = true := by
  rw [takesLine]
  rcases SocketConnection.send_accepted h with ⟨herror, hsame⟩ | ⟨herror, -, -, hline⟩
  · rw [if_pos herror]
    exact decide_eq_true hsame
  · rw [if_neg (by simp [herror])]
    exact decide_eq_true hline

theorem turned_of_sendQueued {s t : State} {record : SendRecord} {sent : Bool}
    (h : s.sendQueued record = .ok (t, sent)) : Turned s record t sent := by
  cases handedOver_of_sendQueued h with
  | down hn hc => exact .dropped (by simp [connectionOf, hn, hc]) fun _ _ => rfl
  | overflowed hn hc hsend hlost =>
    -- `disconnect_network` replaces the record of the network by one without a connection
    obtain ⟨r, c, hr, -, ht⟩ := disconnectNetwork_cases hlost
    have hset := connectionOf_of_set (t := t) hr (by rw [ht, updateReconnectTimer_eq])
    exact .dropped hset.1 hset.2
  | @taken n c c' hn hc hsend =>
    have hset := connectionOf_of_set (t := { s with
      networks := s.networks.set record.network { n with connection := some c' } }) hn rfl
    exact .taken (by simp [connectionOf, hn, hc]) hset.1 (takesLine_of_send hsend) hset.2

/-- A message is handed over at its turn exactly when it is sent. -/
theorem Turned.handsOver_eq {s t : State} {record : SendRecord} {sent : Bool}
    (h : Turned s record t sent) : handsOver s record t = sent := by
  rw [handsOver]
  cases h with
  | taken hc hc' htakes _ =>
    rw [hc, hc']
    exact htakes
  | dropped hgone _ =>
    rw [hgone]
    split
    · next h => cases h
    · rfl

/-- **What a turn puts into the write buffers**: the line of its message into that of its
network, unless the message is dropped or the connection has failed. -/
theorem Turned.putInto_eq {s t : State} {record : SendRecord} {sent : Bool}
    (h : Turned s record t sent) (i : ℕ) : putInto s t i
      = if sent = true ∧ record.network = i ∧ s.hasFailed i = false then [recordLine record]
        else [] := by
  cases h with
  | @taken c c' hc hc' htakes hothers =>
    by_cases hi : record.network = i
    -- the network of the message
    · subst hi
      rw [takesLine] at htakes
      have hfailed : s.hasFailed record.network = c.gotError := by rw [hasFailed, hc]; rfl
      have hunwritten : s.unwritten record.network = c.writeBuffer := by rw [unwritten, hc]; rfl
      rw [hfailed, putInto, hc', hunwritten]
      dsimp only
      cases herror : c.gotError with
      | true =>
        -- `send` returns at once
        rw [if_pos herror] at htakes
        rw [of_decide_eq_true htakes, if_pos rfl, if_neg (by simp)]
      | false =>
        -- the line is what is new in the buffer
        rw [if_neg (by simp [herror])] at htakes
        rw [of_decide_eq_true htakes, if_neg (by simp [recordLine_ne_nil]),
          if_pos ⟨rfl, rfl, rfl⟩, List.drop_left]
    -- no other connection is touched
    · rw [putInto_of_eq (hothers i (Ne.symm hi)), if_neg fun h => hi h.2.1]
  | dropped hgone hothers =>
    rw [if_neg fun h => Bool.false_ne_true h.1]
    -- `disconnect_network` has taken the connection away, if there was one
    by_cases hi : record.network = i
    · exact putInto_of_none (hi ▸ hgone)
    · exact putInto_of_eq (hothers i (Ne.symm hi))

/-! ### Reply filters -/

theorem append_diff_self {α : Type*} [DecidableEq α] (l m : List α) :
    (l ++ m).diff l = m := by
  induction l with
  | nil => rfl
  | cons a l ih => rw [List.cons_append, List.diff_cons, List.erase_cons_head, ih]

/-- The reply filters that a step installs: those there are more of than before. -/
def installed (s s' : State) : List FilterRecord := s'.replyFilters.diff s.replyFilters

theorem installed_of_sublist {s s' : State} (h : s'.replyFilters.Sublist s.replyFilters) :
    installed s s' = [] := by
  have hself : s.replyFilters.diff s.replyFilters = [] := by
    simpa using append_diff_self s.replyFilters []
  have hsub : (s'.replyFilters.diff s.replyFilters).Sublist [] := hself ▸ h.diff_right
  exact List.sublist_nil.mp hsub

/-- A query that was sent has the filter for its reply appended. -/
theorem replyFilters_finishSend {record : SendRecord} {s : State}
    (hfilter : record.responseFilter.isReply = true) (hrequest : record.type = .request) :
    (finishSend record s true).replyFilters = s.replyFilters ++ [record.responseFilter] := by
  unfold finishSend replyFilters
  dsimp only
  rw [if_pos ⟨hrequest, rfl⟩, List.filter_append, List.filter_cons_of_pos hfilter, List.filter_nil]

/-- **One step**: a reply filter is installed for a query that is handed over, and for
nothing else. -/
theorem installed_of_change {s s' : State} {e : Event} (hs : s.QueueAnswerable)
    (h : Change config s e s') :
    installed s s' = ((turn s e).filter fun r => handsOver s r s' && (r.type = .request)).map
      SendRecord.responseFilter := by
  -- filters that are taken away install none
  have hkept : ∀ p : FilterRecord → Bool,
      ((s.filters.filter p).filter FilterRecord.isReply).Sublist s.replyFilters :=
    fun p => List.filter_sublist.filter _
  cases h with
  | quiet _ hturn h =>
    rw [hturn]
    exact installed_of_sublist h.replies
  | queued record _ _ hturn _ h =>
    rw [hturn]
    exact installed_of_sublist h.replies
  | idle hidle =>
    rw [turn_idle hidle]
    exact installed_of_sublist (List.Sublist.refl _)
  | turned record queue t sent hstarted htimer hqueue hsend =>
    have hsent : handsOver s record (finishSend record t sent) = sent :=
      (turned_of_sendQueued hsend).handsOver_eq
    rw [turn_head hstarted htimer hqueue, List.filter_singleton, hsent, Bool.cond_eq_ite]
    obtain ⟨networks, connected, timeout, p, rfl, hp⟩ := sendQueued_frame hsend
    by_cases hreply : record.type = .request ∧ sent = true
    -- the filters stay as they are, and the one for the reply comes behind them
    · obtain ⟨hrequest, rfl⟩ := hreply
      have hall : s.filters.filter p = s.filters := List.filter_eq_self.mpr fun f _ => hp rfl f
      have hfilter : record.responseFilter.isReply = true :=
        hs record (by rw [hqueue]; exact List.mem_cons_self) hrequest
      rw [installed, replyFilters_finishSend hfilter hrequest, hall, if_pos (by simp [hrequest])]
      exact append_diff_self s.replyFilters _
    -- otherwise the turn at most takes filters away
    · rw [if_neg (by
        rw [Bool.and_eq_true, decide_eq_true_eq]
        exact fun h => hreply h.symm)]
      refine installed_of_sublist ?_
      unfold finishSend replyFilters
      dsimp only
      rw [if_neg hreply]
      exact hkept p
  | lost i _ h =>
    obtain ⟨networks, connected, timeout, p, rfl⟩ := disconnectNetwork_frame h
    exact installed_of_sublist (hkept p)
  | reconnected connects =>
    obtain ⟨networks, connected, timeout, h⟩ :=
      onReconnectTimeout_frame { s with reconnectTimeout := false } connects
    rw [h]
    exact installed_of_sublist (List.Sublist.refl _)
  | startFailed => exact installed_of_sublist (List.Sublist.refl _)
  | started listens connects bindings =>
    obtain ⟨networks, connected, timeout, h⟩ :=
      connectNetworks_frame { s with bindings := bindings } connects
    rw [h]
    exact installed_of_sublist (List.Sublist.refl _)
  | stopped hstarted h =>
    obtain ⟨-, -, rfl⟩ := stop_cases hstarted h
    exact installed_of_sublist (List.nil_sublist _)

/-! ### The history of a run -/

/-- The steps of a run. -/
def steps (config : Config) (s : State) (es : List Event) : List (State × Event × State) :=
  Run.trace (step config) s es

/-- The messages that `handle_send` accepts, in order. -/
def acceptedIn (config : Config) (s : State) (es : List Event) : List SendRecord :=
  (steps config s es).flatMap fun t => accepted config t.1 t.2.1

/-- A turn: the message, and the states before and behind it. -/
structure Turn where
  before : State
  record : SendRecord
  behind : State

/-- The connection of its network has taken the message. -/
def Turn.handsOver (t : Turn) : Bool := State.handsOver t.before t.record t.behind

/-- The turns that messages have, in order. -/
def turnsIn (config : Config) (s : State) (es : List Event) : List Turn :=
  (steps config s es).flatMap fun t => (turn t.1 t.2.1).map fun r => ⟨t.1, r, t.2.2⟩

/-- The messages that `on_send_timer` hands to a connection, in order. -/
def handedOver (config : Config) (s : State) (es : List Event) : List SendRecord :=
  ((turnsIn config s es).filter Turn.handsOver).map Turn.record

/-- What a step puts into the write buffer of a network, if it is a tick of the send timer. -/
def writes (s : State) (e : Event) (s' : State) (i : ℕ) : List Text :=
  match e with
  | .sendTick => putInto s s' i
  | _ => []

/-- What the ticks of the send timer put into the write buffer of a network, in order. -/
def writtenTo (config : Config) (s : State) (es : List Event) (i : ℕ) : List Text :=
  (steps config s es).flatMap fun t => writes t.1 t.2.1 t.2.2 i

/-- The lines that a network should have been given: those of the messages for it that were
handed over, but for a connection that has failed. -/
def linesFor (config : Config) (s : State) (es : List Event) (i : ℕ) : List Text :=
  (((turnsIn config s es).filter Turn.handsOver).filter fun t =>
    t.record.network = i && !t.before.hasFailed i).map fun t => recordLine t.record

/-- The reply filters that are installed, in order. -/
def installedIn (config : Config) (s : State) (es : List Event) : List FilterRecord :=
  (steps config s es).flatMap fun t => installed t.1 t.2.2

/-- **What holds of the history of the queue.** -/
structure QueueHistory (config : Config) (s : State) (es : List Event) : Prop where
  /-- The `k`-th accepted message has the `k`-th turn and no other, or it is still in
  the queue. -/
  turns : acceptedIn config s es
    = (turnsIn config s es).map Turn.record ++ (Run.last (step config) s es).sendQueue
  /-- Messages are handed over in the order of their acceptance. -/
  ordered : (handedOver config s es).Sublist (acceptedIn config s es)
  /-- The ticks put into the write buffers the lines of these messages, and nothing else. -/
  written : ∀ i, writtenTo config s es i = linesFor config s es i
  /-- A message whose turn passes without being handed over found its network down or
  its connection full. -/
  dropped : ∀ t ∈ turnsIn config s es, t.handsOver = false →
    t.before.NetworkDown t.record ∨ t.before.Overflows t.record
  /-- A reply filter is installed for each query that is handed over, and for nothing
  else. -/
  replies : installedIn config s es
    = ((handedOver config s es).filter fun r => r.type = .request).map SendRecord.responseFilter

/-- What is handed over in each step. -/
theorem handedOver_eq (s : State) (es : List Event) : handedOver config s es
    = (steps config s es).flatMap fun t =>
      (turn t.1 t.2.1).filter fun r => State.handsOver t.1 r t.2.2 := by
  simp [handedOver, turnsIn, List.filter_flatMap, List.map_flatMap, List.filter_map,
    Function.comp_def, Turn.handsOver]

/-- The lines of each step. -/
theorem linesFor_eq (s : State) (es : List Event) (i : ℕ) : linesFor config s es i
    = (steps config s es).flatMap fun t =>
      ((turn t.1 t.2.1).filter fun r =>
        (r.network = i && !t.1.hasFailed i) && State.handsOver t.1 r t.2.2).map recordLine := by
  simp [linesFor, turnsIn, List.filter_flatMap, List.map_flatMap, List.filter_map,
    Function.comp_def, Turn.handsOver]

theorem queueAnswerable_create {s : State} (h : create config = .ok s) : s.QueueAnswerable := by
  rw [eq_of_create h]
  intro r hr
  cases hr

/-- A turn that passes without the message being handed over. -/
theorem dropped_of_change {s s' : State} {e : Event} (h : Change config s e s') :
    ∀ r ∈ turn s e, handsOver s r s' = false → s.NetworkDown r ∨ s.Overflows r := by
  intro r hr hnot
  cases h with
  | quiet _ hturn _ =>
    rw [hturn] at hr
    cases hr
  | queued _ _ _ hturn _ _ =>
    rw [hturn] at hr
    cases hr
  | idle hidle =>
    rw [turn_idle hidle] at hr
    cases hr
  | turned record queue t sent hstarted htimer hqueue hsend =>
    rw [turn_head hstarted htimer hqueue, List.mem_singleton] at hr
    subst hr
    have hsent : handsOver s r (finishSend r t sent) = sent :=
      (turned_of_sendQueued hsend).handsOver_eq
    -- its network is down, its connection is full, or the connection takes it
    rcases sendQueued_cases hsend with ⟨hdown, -, -⟩ | ⟨hfull, -, -⟩ | ⟨n, c', -, -, -, htrue⟩
    · exact Or.inl hdown
    · exact Or.inr hfull
    · rw [hsent, htrue] at hnot
      cases hnot
  | _ => cases hr

/-- **One step**: a tick puts into the write buffers the line of the message that it hands
over, and nothing else. -/
theorem putInto_of_sendTick {s s' : State} (h : s.handle config .sendTick = .ok s') (i : ℕ) :
    putInto s s' i = ((turn s .sendTick).filter fun r =>
      (r.network = i && !s.hasFailed i) && handsOver s r s').map recordLine := by
  rw [handle] at h
  split at h
  · next htimer =>
    rcases onSendTimer_cases h with
      ⟨hidle, hs⟩ | ⟨record, queue, t, sent, hstarted, hqueue, hsend, rfl⟩
    -- there is nothing to do, and no connection is touched
    · rw [turn_idle (s := s) hidle, hs]
      exact putInto_of_eq rfl
    · have hturned := turned_of_sendQueued hsend
      have hsent : handsOver s record (finishSend record t sent) = sent := hturned.handsOver_eq
      have hput : putInto s (finishSend record t sent) i
          = if sent = true ∧ record.network = i ∧ s.hasFailed i = false then [recordLine record]
            else [] := hturned.putInto_eq i
      have hturn : turn s .sendTick = [record] := turn_head (s := s) hstarted htimer hqueue
      rw [hput, hturn, List.filter_singleton, hsent, Bool.cond_eq_ite]
      by_cases hline : sent = true ∧ record.network = i ∧ s.hasFailed i = false
      · rw [if_pos hline]
        simp [hline]
      · rw [if_neg hline, if_neg, List.map_nil]
        simpa [and_comm, and_assoc] using hline
  · next htimer =>
    -- the timer is not running
    cases h
    rw [turn, if_neg fun hturn => htimer hturn.2]
    exact putInto_of_eq rfl

theorem writes_of_step {s s' : State} {e : Event} (h : step config s e = some s') (i : ℕ) :
    writes s e s' i = ((turn s e).filter fun r =>
      (r.network = i && !s.hasFailed i) && handsOver s r s').map recordLine := by
  cases e with
  | sendTick => exact putInto_of_sendTick (step_eq_some_iff.mp h) i
  | _ => rfl

theorem step_of_mem_steps {s : State} {es : List Event} {t : State × Event × State}
    (h : t ∈ steps config s es) : step config t.1 t.2.1 = some t.2.2 := by
  have hstep : ∀ s e s', True → step config s e = some s' → True ∧ step config s e = some s' :=
    fun _ _ _ _ hs => ⟨trivial, hs⟩
  exact Run.trace_rule hstep es s trivial t h

theorem change_of_mem_steps {s : State} {es : List Event} {t : State × Event × State}
    (h : t ∈ steps config s es) : Change config t.1 t.2.1 t.2.2 :=
  change_of_handle (step_eq_some_iff.mp (step_of_mem_steps h))

/-- **The history of every run**: messages have their turns in the order of their
acceptance, each at most once, and a query's reply filter is installed exactly when
the query is handed over. -/
theorem queue_history {s : State} (h : create config = .ok s) (es : List Event) :
    QueueHistory config s es := by
  -- every query in the queue carries its filter, along the run
  have hchange : ∀ s e s', QueueAnswerable s → step config s e = some s' →
      QueueAnswerable s' ∧ Change config s e s' := by
    intro s e s' hs hstep
    have := change_of_handle (step_eq_some_iff.mp hstep)
    exact ⟨queueAnswerable_of_change hs this, this⟩
  have hanswerable : ∀ t ∈ steps config s es, QueueAnswerable t.1 :=
    Run.trace_rule (R := fun s _ _ => QueueAnswerable s)
      (fun s e s' hs hstep => ⟨(hchange s e s' hs hstep).1, hs⟩) es s (queueAnswerable_create h)
  have hempty : s.sendQueue = [] := by rw [eq_of_create h]
  have hrecords : (turnsIn config s es).map Turn.record
      = (steps config s es).flatMap fun t => turn t.1 t.2.1 := by
    simp [turnsIn, List.map_flatMap, Function.comp_def]
  -- what was accepted has had its turn, or is still in the queue
  have hturns : acceptedIn config s es
      = (turnsIn config s es).map Turn.record ++ (Run.last (step config) s es).sendQueue := by
    have hconserve := Run.trace_conserves sendQueue (accepted config) turn
      (fun s e s' hs hstep =>
        ⟨(hchange s e s' hs hstep).1, sendQueue_of_change (hchange s e s' hs hstep).2⟩) es s
      (queueAnswerable_create h)
    rw [hempty, List.nil_append] at hconserve
    rw [hrecords]
    exact hconserve
  refine ⟨hturns, ?_, fun i => ?_, ?_, ?_⟩
  -- what is handed over is a part of the turns, in their order
  · rw [hturns]
    exact (List.filter_sublist.map _).trans (List.sublist_append_left _ _)
  -- line by line, from what each step writes
  · rw [linesFor_eq, writtenTo]
    exact List.flatMap_congr fun t ht => writes_of_step (step_of_mem_steps ht) i
  · intro t ht hnot
    obtain ⟨step, hstep, hr⟩ := List.mem_flatMap.mp ht
    obtain ⟨r, hmem, rfl⟩ := List.mem_map.mp hr
    exact dropped_of_change (change_of_mem_steps hstep) r hmem hnot
  -- filter by filter, from what each step installs
  · have hone : ∀ t ∈ steps config s es, installed t.1 t.2.2
        = ((turn t.1 t.2.1).filter fun r =>
          State.handsOver t.1 r t.2.2 && (r.type = .request)).map SendRecord.responseFilter :=
      fun t ht => installed_of_change (hanswerable t ht) (change_of_mem_steps ht)
    rw [installedIn, List.flatMap_congr hone, handedOver_eq]
    simp [List.filter_flatMap, List.map_flatMap, Bool.and_comm]

/-- A client connects and sends a query. -/
def queryRun : List Event :=
  [.start (fun _ => true) (fun _ => true), .accept,
    .clientPacket 1 (some (.serviceCommand sampleQuery)) true]

/-- The query of the sample client is handed over at the first tick. -/
theorem queue_history_query : ∃ s, create sampleConfig = .ok s ∧
    (handedOver sampleConfig s (queryRun ++ [.sendTick])).length = 1 ∧
    writtenTo sampleConfig s (queryRun ++ [.sendTick]) 0
      = ["dev:05  addr:0102  ?\r\n".toList] ∧
    QueueHistory sampleConfig s (queryRun ++ [.sendTick]) :=
  ⟨_, rfl, rfl, by decide, queue_history rfl _⟩

/-! ### The timer -/

/-- **The timer runs exactly while a started router has messages in its queue.** -/
def TimerFollowsQueue (s : State) : Prop :=
  s.started = true → (s.sendTimer = true ↔ s.sendQueue ≠ [])

/-- The timer of a router that is not started is off. -/
def TimerInvariant (s : State) : Prop :=
  s.TimerFollowsQueue ∧ (s.started = false → s.sendTimer = false)

/-- `start` comes to its end: no listen call fails, and no server is left of an
earlier start. -/
def CanStart (s : State) (listens : ℕ → Bool) : Prop :=
  ∀ i r, s.bindings[i]? = some r → listens i = true ∧ r.server = false

/-- **The router is not started with messages in its queue.** -/
def StartsEmpty (s : State) : Event → Prop
  | .start listens _ => s.started = true ∨ s.sendQueue = [] ∨ ¬ s.CanStart listens
  | _ => True

/-- The loop of `start_bindings` comes to its end exactly when no listen call fails and
no server is left. -/
theorem startBindings_eq_true_iff {listens : ℕ → Bool} : ∀ {bindings : List BindingRecord} {k : ℕ},
    (∃ bindings', startBindings listens k bindings = .ok (bindings', true)) ↔
      ∀ i r, bindings[i]? = some r → listens (k + i) = true ∧ r.server = false := by
  intro bindings
  induction bindings with
  | nil => intro k; exact iff_of_true ⟨_, rfl⟩ fun i r h => by simp at h
  | cons b bindings ih =>
    intro k
    -- the first binding, and the others one index further
    have hshift : (∀ i r, (b :: bindings)[i]? = some r → listens (k + i) = true ∧ r.server = false)
        ↔ (listens k = true ∧ b.server = false) ∧
          ∀ i r, bindings[i]? = some r → listens (k + 1 + i) = true ∧ r.server = false := by
      constructor
      · intro h
        refine ⟨h 0 b rfl, fun i r hr => ?_⟩
        have := h (i + 1) r hr
        rwa [Nat.add_comm i 1, ← Nat.add_assoc] at this
      · rintro ⟨hb, h⟩ i r hr
        cases i with
        | zero =>
          cases hr
          exact hb
        | succ i =>
          have := h i r hr
          rwa [Nat.add_assoc, Nat.add_comm 1 i] at this
    rw [hshift, ← ih, startBindings]
    cases hlisten : listens k with
    | false =>
      -- the listen call fails
      refine iff_of_false ?_ fun h => by cases h.1.1
      rintro ⟨bindings', h⟩
      cases h
    | true =>
      cases hserver : b.server with
      | true =>
        -- a server is left of an earlier start, and the assertion fails
        refine iff_of_false ?_ fun h => by cases h.1.2
        rintro ⟨bindings', h⟩
        cases h
      | false =>
        -- the server listens, and the loop goes on
        constructor
        · rintro ⟨bindings', h⟩
          obtain ⟨⟨rest, done⟩, hrest, h⟩ := bind_eq_ok_iff.mp h
          cases h
          exact ⟨⟨rfl, rfl⟩, rest, hrest⟩
        · rintro ⟨-, rest, hrest⟩
          exact ⟨{ b with server := true } :: rest, by simp [hrest]⟩

theorem canStart_iff {s : State} {listens : ℕ → Bool} :
    s.CanStart listens ↔ ∃ bindings, startBindings listens 0 s.bindings = .ok (bindings, true) := by
  rw [startBindings_eq_true_iff]
  simp only [CanStart, Nat.zero_add]

/-- A message that is queued has the timer run. -/
theorem sendTimer_enqueue {s : State} (hfollows : s.sendTimer = true ↔ s.sendQueue ≠ [])
    (record : SendRecord) : (s.enqueue record).sendTimer = true := by
  unfold enqueue
  dsimp only
  split
  · rfl
  · next hne => exact hfollows.mpr (by simpa using hne)

/-- **One step**: the timer follows the queue unless the router is started with
messages in it. -/
theorem timerInvariant_of_change {s s' : State} {e : Event} (hs : s.TimerInvariant)
    (he : s.StartsEmpty e) (h : Change config s e s') : s'.TimerInvariant := by
  obtain ⟨hfollows, hstopped⟩ := hs
  cases h with
  | quiet _ _ h =>
    unfold TimerInvariant TimerFollowsQueue
    rw [h.started, h.sendTimer, h.sendQueue]
    exact ⟨hfollows, hstopped⟩
  | queued record hstarted _ _ _ h =>
    -- a message that enters an empty queue starts the timer
    unfold TimerInvariant TimerFollowsQueue
    rw [h.started, h.sendTimer, h.sendQueue]
    have htimer := sendTimer_enqueue (hfollows hstarted) record
    have hne : (s.enqueue record).sendQueue ≠ [] := by simp [enqueue]
    refine ⟨fun _ => iff_of_true htimer hne, fun hnot => ?_⟩
    rw [show (s.enqueue record).started = s.started from rfl, hstarted] at hnot
    cases hnot
  | idle hidle =>
    -- the timer has run out, and there is nothing for it to do
    refine ⟨fun hstarted => iff_of_false Bool.false_ne_true (not_not.mpr ?_), fun _ => rfl⟩
    refine hidle.resolve_left ?_
    rw [show s.started = true from hstarted]
    exact Bool.noConfusion
  | turned record queue t sent hstarted _ _ hsend =>
    obtain ⟨networks, connected, timeout, p, rfl, -⟩ := sendQueued_frame hsend
    unfold TimerInvariant TimerFollowsQueue finishSend
    dsimp only
    rw [hstarted]
    -- the timer is started again exactly when messages are left
    refine ⟨fun _ => ?_, fun h => by cases h⟩
    cases queue with
    | nil => simp
    | cons r rs => simp
  | lost i _ h =>
    obtain ⟨networks, connected, timeout, p, rfl⟩ := disconnectNetwork_frame h
    exact ⟨hfollows, hstopped⟩
  | reconnected connects =>
    obtain ⟨networks, connected, timeout, h⟩ :=
      onReconnectTimeout_frame { s with reconnectTimeout := false } connects
    rw [h]
    exact ⟨hfollows, hstopped⟩
  | startFailed => exact ⟨hfollows, hstopped⟩
  | started listens connects bindings hnot hbindings =>
    obtain ⟨networks, connected, timeout, h⟩ :=
      connectNetworks_frame { s with bindings := bindings } connects
    rw [h]
    -- by the hypothesis, since `start` comes to its end
    have hqueue : s.sendQueue = [] := by
      rcases he with hstarted | hqueue | hcannot
      · rw [hnot] at hstarted
        cases hstarted
      · exact hqueue
      · exact absurd (canStart_iff.mpr ⟨bindings, hbindings⟩) hcannot
    refine ⟨fun _ => iff_of_false ?_ (not_not.mpr hqueue), fun h => by cases h⟩
    rw [show s.sendTimer = false from hstopped hnot]
    exact Bool.false_ne_true
  | stopped hstarted h =>
    obtain ⟨-, -, rfl⟩ := stop_cases hstarted h
    exact ⟨fun h => Bool.noConfusion h, fun _ => rfl⟩

/-- A router that is started with messages in its queue has no timer for them. -/
theorem handle_start_queue (config : Config) {s : State} (hs : s.TimerInvariant)
    {listens connects : ℕ → Bool} (he : ¬ s.StartsEmpty (.start listens connects)) :
    ∃ s', s.handle config (.start listens connects) = .ok s' ∧ ¬ s'.TimerFollowsQueue := by
  obtain ⟨hnot, hqueue, hcan⟩ : s.started ≠ true ∧ s.sendQueue ≠ [] ∧ s.CanStart listens := by
    rw [StartsEmpty, not_or, not_or, not_not] at he
    exact he
  have hnot : s.started = false := by simpa using hnot
  obtain ⟨bindings, hbindings⟩ := canStart_iff.mp hcan
  obtain ⟨networks, connected, timeout, hconnect⟩ :=
    connectNetworks_frame { s with bindings := bindings } connects
  -- `start` comes to its end without a look at the queue
  have hrun : s.handle config (.start listens connects)
      = .ok { connectNetworks { s with bindings := bindings } connects with started := true } := by
    simp [handle, start, hnot, hbindings, Except.map]
    rfl
  refine ⟨_, hrun, fun h => ?_⟩
  rw [hconnect] at h
  have htimer : s.sendTimer = true := (h rfl).mpr hqueue
  rw [hs.2 hnot] at htimer
  cases htimer

theorem timerInvariant_create {s : State} (h : create config = .ok s) : s.TimerInvariant := by
  rw [eq_of_create h]
  exact ⟨fun h => Bool.noConfusion h, fun _ => rfl⟩

/-- **The timer follows the queue throughout a run exactly when the router is never
started with messages in its queue.** -/
theorem always_timerFollowsQueue_iff {s : State} (h : create config = .ok s) (es : List Event) :
    Run.Always (step config) TimerFollowsQueue s es ↔ Run.Along (step config) StartsEmpty s es := by
  refine Run.always_iff_along ?_ (fun _ hs => hs.1) ?_ es s (timerInvariant_create h)
  · intro s e s' hs he hstep
    exact timerInvariant_of_change hs he (change_of_handle (step_eq_some_iff.mp hstep))
  · intro s e hs he
    cases e with
    | start listens connects =>
      obtain ⟨s', hs', hn⟩ := handle_start_queue config hs he
      exact ⟨s', step_eq_some_iff.mpr hs', hn⟩
    | _ => exact absurd trivial he

/-- The timer follows the queue while a query is accepted. -/
theorem always_timerFollowsQueue_query : ∃ s, create sampleConfig = .ok s ∧
    Run.Always (step sampleConfig) TimerFollowsQueue s queryRun :=
  ⟨_, rfl, (always_timerFollowsQueue_iff rfl _).mpr
    ⟨Or.inr (Or.inl rfl), fun _ _ => ⟨trivial, fun _ _ => ⟨trivial, fun _ _ => trivial⟩⟩⟩⟩

/-- A query that is in the queue when the router is stopped is never sent after it is
started again: the timer stays off. -/
theorem restart_stalls_queue : ∃ s₀ s, create sampleConfig = .ok s₀ ∧
    Run.exec (step sampleConfig) s₀
      (queryRun ++ [.stop, .start (fun _ => true) (fun _ => true)]) = some s ∧
    ¬ s.TimerFollowsQueue := by
  have hrun : ∃ s₀ s, create sampleConfig = .ok s₀ ∧
      Run.exec (step sampleConfig) s₀
        (queryRun ++ [.stop, .start (fun _ => true) (fun _ => true)]) = some s ∧
      s.started = true ∧ s.sendTimer = false ∧ s.sendQueue ≠ [] :=
    ⟨_, _, rfl, rfl, rfl, rfl, by decide⟩
  obtain ⟨s₀, s, hcreate, hexec, hstarted, htimer, hqueue⟩ := hrun
  refine ⟨s₀, s, hcreate, hexec, fun h => ?_⟩
  rw [(h hstarted).mpr hqueue] at htimer
  cases htimer

end State
end Router
end HomeAutomation
