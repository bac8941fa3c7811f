import HomeAutomation.Lib.Run
import HomeAutomation.Proto.SocketConnection

/-!
# The end of a connection is reported once

The subscriber of a connection learns of its end by a null packet.  A run of a
connection is any sequence of the outcomes of its socket calls and of packets its
owner sends; a listener that is stopped has no events.  Beside the connection a
run keeps the packets enqueued so far and whether the end of the connection has
been seen by one of the socket calls.

`Reported` is what the subscriber may rely on.  It holds throughout a run exactly
when no `recv` of the run returns zero: the branch of `on_read_ready` for the
orderly end of the stream returns without calling `handle_error`.

## Main definitions

* `ConnectionEvent`, `Observed`, `Observed.step` — runs.
* `Reported` — the end, once seen, was reported by one null packet, the last
  packet of all, and the listeners are stopped.
* `OrderlyEnd` — a `recv` returns zero.

## Main results

* `step_live` — every step but an orderly end keeps the invariant.
* `reported_iff_no_orderlyEnd` — the exact condition.
-/

namespace HomeAutomation
namespace SocketConnection

/-- What happens to a connection. -/
inductive ConnectionEvent
  | readReady (outcome : RecvOutcome)
  | writeReady (outcomes : List SendOutcome)
  | send (packet : Packet)
  deriving DecidableEq

/-- A connection in a run. -/
structure Observed where
  conn : SocketConnection
  /-- The packets enqueued for the subscriber so far. -/
  packets : List (Option Packet)
  /-- The end of the stream or a connection error has been seen. -/
  ended : Bool

/-- The socket call of the event sees the end of the connection. -/
def seesEnd (c : SocketConnection) : ConnectionEvent → Bool
  | .readReady outcome => outcome = .connectionError || outcome = .received []
  | .writeReady outcomes => (writeLoop c.writeBuffer.length outcomes 0).2 = .connectionError
  | .send _ => false

/-- The run after a handler returned `r`. -/
def Observed.record (o : Observed) (e : ConnectionEvent) (r : SocketConnection × Effects) :
    Observed :=
  ⟨r.1, o.packets ++ r.2.packets, o.ended || o.conn.seesEnd e⟩

/-- One event of a run.  A stopped listener has no events. -/
def Observed.step (o : Observed) : ConnectionEvent → Option Observed
  | .readReady outcome =>
    some (if o.conn.readListener then
        o.record (.readReady outcome) (o.conn.onReadReady outcome)
      else o)
  | .writeReady outcomes =>
    some (if o.conn.writeListener then
        o.record (.writeReady outcomes) (o.conn.onWriteReady outcomes)
      else o)
  | .send packet =>
    match o.conn.send packet with
    | .error _ => none
    | .ok (.error _) => some o
    | .ok (.ok c) => some { o with conn := c }

/-- Only data packets. -/
def DataOnly (packets : List (Option Packet)) : Prop := ∀ p ∈ packets, p ≠ none

/-- What the subscriber may rely on: before the end it gets data only; the end is
reported by one null packet, nothing follows it, and the listeners are stopped. -/
def Reported (o : Observed) : Prop :=
  if o.ended then
    (∃ ps, DataOnly ps ∧ o.packets = ps ++ [none]) ∧
      o.conn.readListener = false ∧ o.conn.writeListener = false
  else DataOnly o.packets

/-- A `recv` on the connection returns zero: the peer ended the stream. -/
def OrderlyEnd (o : Observed) (e : ConnectionEvent) : Prop :=
  o.conn.readListener = true ∧ e = .readReady (.received [])

/-- A subscribed connection without an error. -/
structure Live (c : SocketConnection) : Prop where
  subscribed : c.subscribed = true
  reading : c.readListener = true
  ok : c.gotError = false

/-- The invariant: the error flag is what the socket calls have seen. -/
structure LiveRun (o : Observed) : Prop where
  subscribed : o.conn.subscribed = true
  error_iff : o.conn.gotError = o.ended
  reported : Reported o

/-! ### Handlers -/

theorem dataOnly_append {ps qs : List (Option Packet)} (hp : DataOnly ps) (hq : DataOnly qs) :
    DataOnly (ps ++ qs) := by
  intro p h
  rcases List.mem_append.mp h with h | h
  · exact hp p h
  · exact hq p h

theorem dataOnly_handleLine (c : SocketConnection) (line : Text) :
    DataOnly (c.handleLine line) := by
  intro p hp
  unfold handleLine packetReceived at hp
  split at hp
  · simp at hp
  · split at hp
    · simp only [List.mem_singleton] at hp
      rw [hp]
      exact Option.some_ne_none _
    · simp at hp

theorem dataOnly_flatMap_handleLine (c : SocketConnection) (lines : List Text) :
    DataOnly (lines.flatMap c.handleLine) := by
  intro p hp
  obtain ⟨line, -, hline⟩ := List.mem_flatMap.mp hp
  exact dataOnly_handleLine c line p hline

/-- What `handle_error` leaves behind, whatever is then done to the write buffer. -/
theorem handleError_packets {c : SocketConnection} (hc : c.subscribed = true) :
    c.handleError.2 = [none] := by
  simp [handleError, packetReceived, hc]

/-- `on_write_ready` on a live connection: an error is reported, anything else
leaves the flags alone. -/
theorem onWriteReady_cases (c : SocketConnection) (hc : c.subscribed = true)
    (os : List SendOutcome) :
    ((writeLoop c.writeBuffer.length os 0).2 = .connectionError ∧
        (c.onWriteReady os).2.packets = [none] ∧ (c.onWriteReady os).1.subscribed = true ∧
        (c.onWriteReady os).1.gotError = true ∧ (c.onWriteReady os).1.readListener = false ∧
        (c.onWriteReady os).1.writeListener = false) ∨
      ((writeLoop c.writeBuffer.length os 0).2 ≠ .connectionError ∧
        (c.onWriteReady os).2.packets = [] ∧ (c.onWriteReady os).1.subscribed = true ∧
        (c.onWriteReady os).1.gotError = c.gotError) := by
  unfold onWriteReady
  rcases h : writeLoop c.writeBuffer.length os 0 with ⟨pos, stop⟩
  cases stop with
  | connectionError =>
    refine Or.inl ⟨rfl, handleError_packets hc, ?_⟩
    refine ⟨?_, ?_, ?_, trimWriteBuffer_writeListener rfl pos⟩
    · rw [trimWriteBuffer_subscribed]
      exact hc
    · rw [trimWriteBuffer_gotError]
      rfl
    · rw [trimWriteBuffer_readListener]
      rfl
  | otherError => exact Or.inr ⟨WriteEnd.noConfusion, rfl, hc, rfl⟩
  | wouldBlock =>
    exact Or.inr ⟨WriteEnd.noConfusion, rfl, by rw [trimWriteBuffer_subscribed, hc],
      trimWriteBuffer_gotError c pos⟩
  | drained =>
    exact Or.inr ⟨WriteEnd.noConfusion, rfl, by rw [trimWriteBuffer_subscribed, hc],
      trimWriteBuffer_gotError c pos⟩

/-- `send` never touches the flags of the connection, and does nothing after an
error. -/
theorem send_ok {c c' : SocketConnection} {p : Packet} (h : c.send p = .ok (.ok c')) :
    c'.subscribed = c.subscribed ∧ c'.gotError = c.gotError ∧
      (c.gotError = true → c' = c) := by
  unfold send at h
  split at h
  · next hg =>
    cases h
    exact ⟨rfl, rfl, fun _ => rfl⟩
  · next hg =>
    split at h
    · cases h
    · dsimp only at h
      split at h
      · cases h
      · cases h
        exact ⟨rfl, rfl, fun ht => absurd ht hg⟩

/-! ### Steps -/

/-- Before the end nothing but data was enqueued. -/
theorem LiveRun.dataOnly {o : Observed} (h : LiveRun o) (he : o.ended = false) :
    DataOnly o.packets := by
  have := h.reported
  rwa [Reported, he, if_neg (by decide)] at this

/-- After the end both listeners are stopped. -/
theorem LiveRun.stopped {o : Observed} (h : LiveRun o) (he : o.ended = true) :
    o.conn.readListener = false ∧ o.conn.writeListener = false := by
  have := h.reported
  rw [Reported, he, if_pos rfl] at this
  exact this.2

/-- A handler that reports the end keeps the invariant. -/
theorem record_end {o : Observed} {e : ConnectionEvent} {r : SocketConnection × Effects}
    (hdata : DataOnly o.packets) (hend : o.conn.seesEnd e = true)
    (hpackets : r.2.packets = [none]) (hsub : r.1.subscribed = true)
    (herr : r.1.gotError = true) (hread : r.1.readListener = false)
    (hwrite : r.1.writeListener = false) : LiveRun (o.record e r) := by
  have hended : (o.record e r).ended = true := by simp [Observed.record, hend]
  refine ⟨hsub, by rw [hended]; exact herr, ?_⟩
  rw [Reported, if_pos hended]
  exact ⟨⟨o.packets, hdata, by simp [Observed.record, hpackets]⟩, hread, hwrite⟩

/-- A handler that sees no end keeps the invariant. -/
theorem record_data {o : Observed} {e : ConnectionEvent} {r : SocketConnection × Effects}
    (he : o.ended = false) (hdata : DataOnly o.packets) (hend : o.conn.seesEnd e = false)
    (hpackets : DataOnly r.2.packets) (hsub : r.1.subscribed = true)
    (herr : r.1.gotError = false) : LiveRun (o.record e r) := by
  have hended : (o.record e r).ended = false := by simp [Observed.record, hend, he]
  refine ⟨hsub, by rw [hended]; exact herr, ?_⟩
  rw [Reported, hended, if_neg (by decide)]
  exact dataOnly_append hdata hpackets

/-- A listener means that no end has been seen yet. -/
theorem LiveRun.running {o : Observed} (h : LiveRun o)
    (hlistener : o.conn.readListener = true ∨ o.conn.writeListener = true) :
    o.ended = false ∧ o.conn.gotError = false ∧ DataOnly o.packets := by
  have he : o.ended = false := by
    by_contra he
    obtain ⟨hread, hwrite⟩ := h.stopped (by simpa using he)
    simp [hread, hwrite] at hlistener
  exact ⟨he, by rw [h.error_iff, he], h.dataOnly he⟩

/-- A `recv` that does not return zero. -/
theorem live_readReady {o : Observed} {outcome : RecvOutcome} (h : LiveRun o)
    (hok : ¬ OrderlyEnd o (.readReady outcome)) (hread : o.conn.readListener = true) :
    LiveRun (o.record (.readReady outcome) (o.conn.onReadReady outcome)) := by
  obtain ⟨he, herr, hdata⟩ := h.running (Or.inl hread)
  cases outcome with
  | wouldBlock =>
    exact record_data he hdata (by simp [seesEnd]) (by simp [onReadReady, DataOnly])
      h.subscribed herr
  | otherError =>
    exact record_data he hdata (by simp [seesEnd]) (by simp [onReadReady, DataOnly])
      h.subscribed herr
  | connectionError =>
    exact record_end hdata (by simp [seesEnd]) (handleError_packets h.subscribed)
      h.subscribed rfl rfl rfl
  | received bytes =>
    have hne : bytes ≠ [] := by
      rintro rfl
      exact hok ⟨hread, rfl⟩
    have hlen : bytes.length ≠ 0 := fun h0 => hne (List.length_eq_zero_iff.mp h0)
    refine record_data he hdata (by simp [seesEnd, hne]) ?_ ?_ ?_
    · simp only [onReadReady, hlen, if_false]
      exact dataOnly_flatMap_handleLine _ _
    · simp only [onReadReady, hlen, if_false]
      exact h.subscribed
    · simp only [onReadReady, hlen, if_false]
      exact herr

theorem live_writeReady {o : Observed} (h : LiveRun o) (hwrite : o.conn.writeListener = true)
    (outcomes : List SendOutcome) :
    LiveRun (o.record (.writeReady outcomes) (o.conn.onWriteReady outcomes)) := by
  obtain ⟨he, herr, hdata⟩ := h.running (Or.inr hwrite)
  rcases onWriteReady_cases o.conn h.subscribed outcomes with
    ⟨hend, hp, hsub, hg, hr, hw⟩ | ⟨hend, hp, hsub, hg⟩
  · exact record_end hdata (by simp [seesEnd, hend]) hp hsub hg hr hw
  · exact record_data he hdata (by simp [seesEnd, hend]) (by simp [hp, DataOnly]) hsub
      (hg.trans herr)

/-- **Every step but an orderly end keeps the invariant.** -/
theorem step_live {o o' : Observed} {e : ConnectionEvent} (h : LiveRun o)
    (hok : ¬ OrderlyEnd o e) (hstep : o.step e = some o') : LiveRun o' := by
  cases e with
  | readReady outcome =>
    simp only [Observed.step, Option.some.injEq] at hstep
    split at hstep
    · next hread =>
      subst hstep
      exact live_readReady h hok hread
    · subst hstep
      exact h
  | writeReady outcomes =>
    simp only [Observed.step, Option.some.injEq] at hstep
    split at hstep
    · next hwrite =>
      subst hstep
      exact live_writeReady h hwrite outcomes
    · subst hstep
      exact h
  | send packet =>
    simp only [Observed.step] at hstep
    split at hstep
    · cases hstep
    · cases hstep
      exact h
    · next c hc =>
      cases hstep
      obtain ⟨hsub, hg, hsame⟩ := send_ok hc
      refine ⟨hsub.trans h.subscribed, hg.trans h.error_iff, ?_⟩
      -- after the end nothing is sent any more; before it, a send reports nothing
      by_cases he : o.ended = true
      · rw [hsame (h.error_iff.trans he)]
        exact h.reported
      · rw [Reported, if_neg he]
        exact h.dataOnly (by simpa using he)

/-- An orderly end is not reported. -/
theorem not_reported_of_orderlyEnd {o : Observed} {e : ConnectionEvent} (h : OrderlyEnd o e) :
    ∃ o', o.step e = some o' ∧ ¬ Reported o' := by
  obtain ⟨hread, rfl⟩ := h
  refine ⟨_, rfl, ?_⟩
  rw [if_pos hread, Reported, if_pos (by simp [Observed.record, seesEnd])]
  rintro ⟨-, hr, -⟩
  have : o.conn.readListener = false := hr
  rw [hread] at this
  exact absurd this (by decide)

/-- The start of a run. -/
def Observed.start (c : SocketConnection) : Observed := ⟨c, [], false⟩

theorem liveRun_start {c : SocketConnection} (hc : c.Live) : LiveRun (.start c) :=
  ⟨hc.subscribed, hc.ok, by simp [Reported, Observed.start, DataOnly]⟩

/-- **The end of a connection is reported once, unless the peer ends the stream in
good order.**  Over any run of a subscribed connection, the subscriber's view is
right in every state exactly when no `recv` of the run returns zero. -/
theorem reported_iff_no_orderlyEnd (c : SocketConnection) (hc : c.Live)
    (es : List ConnectionEvent) :
    Run.Always Observed.step Reported (.start c) es ↔
      Run.Along Observed.step (fun o e => ¬ OrderlyEnd o e) (.start c) es :=
  Run.always_iff_along (I := LiveRun) (fun _ _ _ h hok hstep => step_live h hok hstep)
    (fun _ h => h.reported) (fun _ _ _ h => not_reported_of_orderlyEnd (not_not.mp h)) es _
    (liveRun_start hc)

/-- A connection that loses its peer by an error: the condition holds and the null
packet is the last one. -/
theorem reported_after_reset :
    Run.Along Observed.step (fun o e => ¬ OrderlyEnd o e) (.start fresh.subscribe)
        [.readReady .wouldBlock, .readReady .connectionError, .readReady (.received [])] ∧
      Run.Always Observed.step Reported (.start fresh.subscribe)
        [.readReady .wouldBlock, .readReady .connectionError, .readReady (.received [])] := by
  have hcond : Run.Along Observed.step (fun o e => ¬ OrderlyEnd o e) (.start fresh.subscribe)
      [.readReady .wouldBlock, .readReady .connectionError, .readReady (.received [])] := by
    simp [Run.Along, Observed.step, OrderlyEnd, Observed.start, Observed.record, fresh, subscribe,
      unsubscribe, onReadReady, handleError]
  exact ⟨hcond, (reported_iff_no_orderlyEnd fresh.subscribe ⟨rfl, rfl, rfl⟩ _).mpr hcond⟩

/-- **A peer that ends the stream is not noticed**: the run of one `recv` that
returns zero enqueues nothing and leaves the read listener running. -/
theorem orderlyEnd_unreported :
    ¬ Run.Always Observed.step Reported (.start fresh.subscribe)
      [.readReady (.received [])] := by
  simp [Run.Always, Observed.step, Reported, Observed.start, Observed.record, seesEnd, fresh,
    subscribe, unsubscribe, onReadReady]

end SocketConnection
end HomeAutomation
