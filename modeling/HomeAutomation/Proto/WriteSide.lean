import HomeAutomation.Proto.EndOfConnection

/-!
# The write side of a connection

The lines a connection is given to send reach the socket in order: what the socket
has taken, followed by what is still in the write buffer, is what was queued.  A
run is any sequence of packets sent and of events of the socket, as in
`EndOfConnection`; each `send` call of `on_write_ready` takes any number of the
bytes it is offered, or fails.

What the socket has taken is counted on the side of the socket, call by call; the
offsets of `on_write_ready` do not occur in it.

## Main definitions

* `sendCalls`, `bytesTaken` — the `send` calls of one `on_write_ready`.
* `Outgoing`, `Outgoing.step` — runs.
* `Conserved` — nothing lost, duplicated or reordered; the buffer within its limit;
  the write listener runs while there is something to write.
* `Opened` — the connections the operations of the class lead to.

## Main results

* `sendCalls_writeLoop` — the loop of `on_write_ready` on the side of the socket.
* `step_inOrder` — every step keeps the invariant.
* `written_in_order` — every run.
-/

namespace HomeAutomation
namespace SocketConnection

/-! ### The calls of one event -/

/-- The `send` calls of one `on_write_ready`: the bytes offered, and the outcome.
Each call offers what the calls before it have left. -/
def sendCalls : Text → List SendOutcome → List (Text × SendOutcome)
  | _, [] => []
  | offered, o :: os =>
    if offered = [] then []
    else
      match o with
      | .accepted n => (offered, .accepted n) :: sendCalls (offered.drop n) os
      | o => [(offered, o)]

/-- The bytes the socket takes in some calls. -/
def bytesTaken (calls : List (Text × SendOutcome)) : Text :=
  calls.flatMap fun
    | (offered, .accepted n) => offered.take n
    | _ => []

/-- One of the calls finds the connection closed. -/
def connectionLost (calls : List (Text × SendOutcome)) : Prop :=
  ∃ offered, (offered, SendOutcome.connectionError) ∈ calls

instance (calls : List (Text × SendOutcome)) : Decidable (connectionLost calls) :=
  decidable_of_iff (∃ call ∈ calls, call.2 = .connectionError)
    ⟨fun ⟨⟨b, _⟩, h, ho⟩ => ⟨b, by cases ho; exact h⟩, fun ⟨b, h⟩ => ⟨(b, _), h, rfl⟩⟩

@[simp] theorem sendCalls_empty (os : List SendOutcome) : sendCalls [] os = [] := by
  cases os <;> simp [sendCalls]

theorem sendCalls_accepted {offered : Text} (h : offered ≠ []) (n : ℕ) (os : List SendOutcome) :
    sendCalls offered (.accepted n :: os)
      = (offered, .accepted n) :: sendCalls (offered.drop n) os := by
  rw [sendCalls, if_neg h]

@[simp] theorem bytesTaken_accepted (offered : Text) (n : ℕ)
    (calls : List (Text × SendOutcome)) :
    bytesTaken ((offered, .accepted n) :: calls) = offered.take n ++ bytesTaken calls := rfl

@[simp] theorem connectionLost_accepted (offered : Text) (n : ℕ)
    (calls : List (Text × SendOutcome)) :
    connectionLost ((offered, .accepted n) :: calls) ↔ connectionLost calls := by
  simp [connectionLost]

/-- What the loop of `on_write_ready` from offset `pos` on has come to, on the side
of the socket: the bytes up to the new offset are taken, and the loop ends as its
last call did. -/
structure LoopResult (buffer : Text) (pos : ℕ) (calls : List (Text × SendOutcome))
    (r : ℕ × WriteEnd) : Prop where
  taken : bytesTaken calls ++ buffer.drop r.1 = buffer.drop pos
  lost_iff : connectionLost calls ↔ r.2 = .connectionError
  not_thrown : r.2 ≠ .otherError

/-- **The loop of `on_write_ready` on the side of the socket.** -/
theorem sendCalls_writeLoop (buffer : Text) : ∀ (os : List SendOutcome) (pos : ℕ),
    .otherError ∉ os →
    LoopResult buffer pos (sendCalls (buffer.drop pos) os) (writeLoop buffer.length os pos) := by
  intro os
  induction os with
  | nil =>
    intro pos _
    unfold writeLoop
    refine ⟨rfl, ?_, ?_⟩
    · split <;> simp [sendCalls, connectionLost]
    · split <;> exact WriteEnd.noConfusion
  | cons o os ih =>
    intro pos hos
    unfold writeLoop
    split
    · next hpos =>
      rw [List.drop_eq_nil_of_le hpos, sendCalls_empty]
      exact ⟨by simp [bytesTaken, List.drop_eq_nil_of_le hpos], by simp [connectionLost],
        WriteEnd.noConfusion⟩
    · next hpos =>
      have hne : buffer.drop pos ≠ [] := fun h => hpos (List.drop_eq_nil_iff.mp h)
      cases o with
      | wouldBlock => exact ⟨by simp [sendCalls, hne, bytesTaken],
          by simp [sendCalls, hne, connectionLost], WriteEnd.noConfusion⟩
      | connectionError => exact ⟨by simp [sendCalls, hne, bytesTaken],
          by simp [sendCalls, hne, connectionLost], WriteEnd.noConfusion⟩
      | otherError => exact absurd List.mem_cons_self hos
      | accepted n =>
        -- the socket takes no more than it is offered
        have hdrop :
            (buffer.drop pos).drop n = buffer.drop (pos + min n (buffer.length - pos)) := by
          rw [List.drop_drop]
          rcases Nat.le_total n (buffer.length - pos) with h | h
          · rw [Nat.min_eq_left h]
          · rw [Nat.min_eq_right h, List.drop_eq_nil_of_le (by omega),
              List.drop_eq_nil_of_le (by omega)]
        obtain ⟨htaken, hlost, hnone⟩ := ih (pos + min n (buffer.length - pos))
          (fun h => hos (List.mem_cons_of_mem _ h))
        rw [sendCalls_accepted hne, hdrop]
        refine ⟨?_, ?_, hnone⟩
        · rw [bytesTaken_accepted, List.append_assoc, htaken, ← hdrop, List.take_append_drop]
        · rw [connectionLost_accepted]
          exact hlost

/-! ### Runs -/

/-- The write side of a connection in a run. -/
structure Outgoing where
  conn : SocketConnection
  /-- The bytes the socket has taken so far. -/
  taken : Text
  /-- What was to be written at the start, and the lines of the packets sent since
  then, before any connection error and not refused. -/
  queued : Text
  /-- A connection error has been seen by one of the socket calls. -/
  failed : Bool

/-- The line of a packet. -/
def lineOf (packet : Packet) : Text :=
  match packet.convertToString with
  | .error _ => []
  | .ok text => text ++ "\r\n".toList

/-- The start of a run. -/
def Outgoing.start (c : SocketConnection) : Outgoing := ⟨c, [], c.writeBuffer, c.gotError⟩

/-- One event of a run.  A stopped listener has no events; a `send` that is refused
leaves by an exception. -/
def Outgoing.step (o : Outgoing) : ConnectionEvent → Option Outgoing
  | .readReady outcome =>
    some (if o.conn.readListener then
        { o with
          conn := (o.conn.onReadReady outcome).1
          failed := o.failed || outcome = .connectionError }
      else o)
  | .writeReady outcomes =>
    some (if o.conn.writeListener then
        let calls := sendCalls o.conn.writeBuffer outcomes
        { o with
          conn := (o.conn.onWriteReady outcomes).1
          taken := o.taken ++ bytesTaken calls
          failed := o.failed || connectionLost calls }
      else o)
  | .send packet =>
    match o.conn.send packet with
    | .error _ => none
    | .ok (.error _) => some o
    | .ok (.ok c) =>
      some { o with conn := c, queued := o.queued ++ if o.failed then [] else lineOf packet }

/-- Nothing lost, duplicated or reordered. -/
structure Conserved (o : Outgoing) : Prop where
  in_order : o.taken ++ o.conn.writeBuffer = o.queued
  within_limit : o.conn.writeBuffer.length ≤ writeBufferLimit
  listening : o.failed = false → (o.conn.writeListener = true ↔ o.conn.writeBuffer ≠ [])

/-- The invariant: moreover the error flag is what the socket calls have seen. -/
structure InOrder (o : Outgoing) : Prop extends Conserved o where
  error_iff : o.conn.gotError = o.failed

/-! ### Handlers -/

theorem trimWriteBuffer_writeBuffer (c : SocketConnection) (pos : ℕ) :
    (c.trimWriteBuffer pos).writeBuffer = c.writeBuffer.drop pos := by
  unfold trimWriteBuffer
  split
  · rfl
  · next h => exact (List.drop_eq_nil_of_le (not_lt.mp h)).symm

theorem trimWriteBuffer_writeListener_iff (c : SocketConnection) (pos : ℕ) :
    (c.trimWriteBuffer pos).writeListener = true ↔
      c.writeListener = true ∧ (c.trimWriteBuffer pos).writeBuffer ≠ [] := by
  unfold trimWriteBuffer
  split
  · next h => simp [h]
  · simp

/-- **`on_write_ready` takes from the buffer what the socket has taken**, and keeps
the listener while something is left. -/
theorem onWriteReady_taken (c : SocketConnection) {os : List SendOutcome}
    (hos : .otherError ∉ os) :
    bytesTaken (sendCalls c.writeBuffer os) ++ (c.onWriteReady os).1.writeBuffer = c.writeBuffer ∧
      (c.onWriteReady os).1.gotError
        = (c.gotError || connectionLost (sendCalls c.writeBuffer os)) ∧
      (¬ connectionLost (sendCalls c.writeBuffer os) →
        ((c.onWriteReady os).1.writeListener = true ↔
          c.writeListener = true ∧ (c.onWriteReady os).1.writeBuffer ≠ [])) := by
  obtain ⟨htaken, hlost, hnone⟩ := sendCalls_writeLoop c.writeBuffer os 0 hos
  rw [List.drop_zero] at htaken hlost
  unfold onWriteReady
  generalize writeLoop c.writeBuffer.length os 0 = r at htaken hlost hnone
  obtain ⟨pos, stop⟩ := r
  cases stop with
  | otherError => exact absurd rfl hnone
  | connectionError =>
    have hl := hlost.mpr rfl
    refine ⟨?_, by simp [hl, handleError], fun h => absurd hl h⟩
    rw [trimWriteBuffer_writeBuffer]
    exact htaken
  | wouldBlock =>
    have hl := mt hlost.mp WriteEnd.noConfusion
    refine ⟨?_, by simp [hl], fun _ => trimWriteBuffer_writeListener_iff c pos⟩
    rw [trimWriteBuffer_writeBuffer]
    exact htaken
  | drained =>
    have hl := mt hlost.mp WriteEnd.noConfusion
    refine ⟨?_, by simp [hl], fun _ => trimWriteBuffer_writeListener_iff c pos⟩
    rw [trimWriteBuffer_writeBuffer]
    exact htaken

/-- `on_read_ready` leaves the write side alone, unless it finds the connection
closed. -/
theorem onReadReady_writeSide (c : SocketConnection) (outcome : RecvOutcome) :
    (c.onReadReady outcome).1.writeBuffer = c.writeBuffer ∧
      (c.onReadReady outcome).1.gotError = (c.gotError || outcome = .connectionError) ∧
      (outcome ≠ .connectionError →
        (c.onReadReady outcome).1.writeListener = c.writeListener) := by
  cases outcome with
  | wouldBlock => simp [onReadReady]
  | connectionError => simp [onReadReady, handleError]
  | otherError => simp [onReadReady]
  | received bytes =>
    by_cases hb : bytes = [] <;> simp [onReadReady, hb]

/-- A packet that is not refused: nothing happens after an error, otherwise its line
is queued. -/
theorem send_accepted {c c' : SocketConnection} {p : Packet} (h : c.send p = .ok (.ok c')) :
    c.gotError = true ∧ c' = c ∨
      c.gotError = false ∧ c.writeBuffer.length + (lineOf p).length ≤ writeBufferLimit ∧
        lineOf p ≠ [] ∧
        c' = { c with writeBuffer := c.writeBuffer ++ lineOf p, writeListener := true } := by
  by_cases hg : c.gotError = true
  · rw [send, if_pos hg] at h
    cases h
    exact Or.inl ⟨hg, rfl⟩
  · have hg : c.gotError = false := by simpa using hg
    refine Or.inr ⟨hg, ?_⟩
    unfold lineOf
    cases hp : p.convertToString with
    | error f =>
      rw [send, if_neg (by simp [hg]), hp] at h
      cases h
    | ok text =>
      rw [send_eq hg hp] at h
      split at h
      · cases h
      · next hlen =>
        cases h
        exact ⟨not_lt.mp hlen, by simp, rfl⟩

/-! ### Steps -/

theorem inOrder_readReady {o : Outgoing} (h : InOrder o) (outcome : RecvOutcome) :
    InOrder { o with
      conn := (o.conn.onReadReady outcome).1
      failed := o.failed || outcome = .connectionError } := by
  obtain ⟨hbuffer, herror, hlistener⟩ := onReadReady_writeSide o.conn outcome
  refine ⟨⟨?_, ?_, ?_⟩, ?_⟩
  · exact (congrArg (o.taken ++ ·) hbuffer).trans h.in_order
  · exact (congrArg List.length hbuffer).trans_le h.within_limit
  · intro hf
    obtain ⟨hf, hne⟩ : o.failed = false ∧ outcome ≠ .connectionError := by simpa using hf
    rw [hlistener hne, hbuffer]
    exact h.listening hf
  · rw [herror, h.error_iff]

theorem inOrder_writeReady {o : Outgoing} (h : InOrder o) {os : List SendOutcome}
    (hos : .otherError ∉ os) (hwrite : o.conn.writeListener = true) :
    InOrder { o with
      conn := (o.conn.onWriteReady os).1
      taken := o.taken ++ bytesTaken (sendCalls o.conn.writeBuffer os)
      failed := o.failed || connectionLost (sendCalls o.conn.writeBuffer os) } := by
  obtain ⟨htaken, herror, hlistener⟩ := onWriteReady_taken o.conn hos
  refine ⟨⟨?_, ?_, ?_⟩, ?_⟩
  · rw [List.append_assoc, htaken, h.in_order]
  · have hlen := congrArg List.length htaken
    rw [List.length_append] at hlen
    have := h.within_limit
    show (o.conn.onWriteReady os).1.writeBuffer.length ≤ writeBufferLimit
    omega
  · intro hf
    have hl : ¬ connectionLost (sendCalls o.conn.writeBuffer os) := by
      simp only [Bool.or_eq_false_iff, decide_eq_false_iff_not] at hf
      exact hf.2
    rw [hlistener hl]
    exact and_iff_right hwrite
  · rw [herror, h.error_iff]

theorem inOrder_send {o : Outgoing} {c : SocketConnection} {p : Packet} (h : InOrder o)
    (hsend : o.conn.send p = .ok (.ok c)) :
    InOrder { o with conn := c, queued := o.queued ++ if o.failed then [] else lineOf p } := by
  rcases send_accepted hsend with ⟨hg, rfl⟩ | ⟨hg, hlen, hne, rfl⟩
  · have hf : o.failed = true := h.error_iff.symm.trans hg
    refine ⟨⟨?_, h.within_limit, h.listening⟩, h.error_iff⟩
    rw [hf, if_pos rfl, List.append_nil]
    exact h.in_order
  · have hf : o.failed = false := h.error_iff.symm.trans hg
    refine ⟨⟨?_, ?_, ?_⟩, h.error_iff⟩
    · rw [hf, if_neg Bool.false_ne_true, ← h.in_order, List.append_assoc]
    · rw [List.length_append]
      exact hlen
    · simp [hne]

/-- The socket calls of an event fail in no other way than `EAGAIN` and a closed
connection. -/
def Ordinary (e : ConnectionEvent) : Prop := ∀ os, e = .writeReady os → .otherError ∉ os

/-- **Every step keeps the invariant.** -/
theorem step_inOrder {o o' : Outgoing} {e : ConnectionEvent} (h : InOrder o) (he : Ordinary e)
    (hstep : o.step e = some o') : InOrder o' := by
  cases e with
  | readReady outcome =>
    simp only [Outgoing.step, Option.some.injEq] at hstep
    subst hstep
    split
    · exact inOrder_readReady h outcome
    · exact h
  | writeReady os =>
    simp only [Outgoing.step, Option.some.injEq] at hstep
    subst hstep
    split
    · next hwrite => exact inOrder_writeReady h (he os rfl) hwrite
    · exact h
  | send packet =>
    simp only [Outgoing.step] at hstep
    split at hstep
    · cases hstep
    · cases hstep
      exact h
    · next c hc =>
      cases hstep
      exact inOrder_send h hc

/-! ### Connections in use -/

/-- The connections that the operations of the class lead to. -/
inductive Opened : SocketConnection → Prop
  | fresh : Opened fresh
  | subscribe {c : SocketConnection} : Opened c → Opened c.subscribe
  | unsubscribe {c : SocketConnection} : Opened c → Opened c.unsubscribe
  | step {c : SocketConnection} {e : ConnectionEvent} {o : Outgoing} :
    Opened c → Ordinary e → (Outgoing.start c).step e = some o → Opened o.conn

/-- The start of a run. -/
theorem inOrder_start {c : SocketConnection} (hlimit : c.writeBuffer.length ≤ writeBufferLimit)
    (hlistening : c.gotError = false → (c.writeListener = true ↔ c.writeBuffer ≠ [])) :
    InOrder (.start c) :=
  ⟨⟨rfl, hlimit, hlistening⟩, rfl⟩

/-- What the write side of every connection in use satisfies. -/
theorem Opened.writeSide {c : SocketConnection} (h : Opened c) :
    c.writeBuffer.length ≤ writeBufferLimit ∧
      (c.gotError = false → (c.writeListener = true ↔ c.writeBuffer ≠ [])) := by
  induction h with
  | fresh => exact ⟨Nat.zero_le _, fun _ => by simp [SocketConnection.fresh]⟩
  | subscribe _ ih =>
    unfold SocketConnection.subscribe SocketConnection.unsubscribe
    split
    · simp
    · exact ih
  | unsubscribe _ ih =>
    unfold SocketConnection.unsubscribe
    split
    · simp
    · exact ih
  | step _ he hstep ih =>
    have h := step_inOrder (inOrder_start ih.1 ih.2) he hstep
    exact ⟨h.within_limit, fun hg => h.listening (h.error_iff.symm.trans hg)⟩

/-- **The write side of a connection**: in every run of a connection in use, what the
socket has taken followed by the write buffer is what was queued, in order, the
buffer stays within its limit, and the listener runs while there is something to
write; a packet that is refused leaves the buffer as it was. -/
theorem written_in_order (c : SocketConnection) (hc : Opened c) (es : List ConnectionEvent)
    (hes : ∀ e ∈ es, Ordinary e) :
    Run.Always Outgoing.step Conserved (.start c) es ∧
      ∀ t ∈ Run.trace Outgoing.step (.start c) es, ∀ packet text, t.2.1 = .send packet →
        t.1.conn.send packet = .ok (.error (.rangeError text)) →
          t.2.2.conn.writeBuffer = t.1.conn.writeBuffer := by
  have halong : Run.Along Outgoing.step (fun _ e => Ordinary e) (.start c) es :=
    Run.along_of_forall hes
  have halways := Run.always_of_along (fun _ _ _ h he hstep => step_inOrder h he hstep)
    (fun _ h => h) es _ (inOrder_start hc.writeSide.1 hc.writeSide.2) halong
  refine ⟨halways.mono fun _ h => h.toConserved, ?_⟩
  intro t ht packet text hsend hrefused
  have hstep := (halways.trace t ht).2
  rw [hsend, Outgoing.step, hrefused] at hstep
  exact congrArg (·.conn.writeBuffer) (Option.some.inj hstep).symm

/-- Two packets, the first of which the socket takes in pieces and the second of which
it loses. -/
def sampleWrites : List ConnectionEvent :=
  [.send (.deviceInit ⟨7, 5⟩), .writeReady [.accepted 3, .accepted 2, .wouldBlock],
    .send (.deviceInit ⟨5, 7⟩), .writeReady [.accepted 1, .connectionError],
    .send (.deviceInit ⟨7, 5⟩)]

/-- The first line is cut anywhere, and nothing is queued behind the error. -/
theorem written_in_order_pieces :
    (∀ e ∈ sampleWrites, Ordinary e) ∧
      Run.Always Outgoing.step Conserved (.start fresh.subscribe) sampleWrites ∧
      (Run.last Outgoing.step (.start fresh.subscribe) sampleWrites).taken.length = 6 := by
  have hes : ∀ e ∈ sampleWrites, Ordinary e := by
    simp [sampleWrites, Ordinary]
  exact ⟨hes, (written_in_order _ (.subscribe .fresh) _ hes).1, by decide⟩

end SocketConnection
end HomeAutomation
