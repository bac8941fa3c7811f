import HomeAutomation.Proto.PacketLink
import HomeAutomation.Router.ClientConnection

/-!
# A client and the router

A client of the router sends commands over its connection and does not number them: it
has to take the first answer for the answer to its first command, and so on.  Between
the two programs are two buffers and a stream in each direction, the event loop of the
router, the other clients, the device networks and the timers.

To its client all of this is a desk.  It answers commands in the order they are asked,
and for a query that it has been asked it may reply once, at some later time.  What else
the client receives are values of devices that passed a filter of its own.

The client's side of the session is a connection whose owner sends what it likes; the
router's side is the whole router, with the connection it keeps under the client's id.

## Main definitions

* `Desk`, `DeskEvent`, `Desk.step` — the desk.
* `ClientSession`, `SessionEvent`, `ClientSession.step` — the session and its runs.
* `ClientSession.dialogue` — what is observed of a session.
* `Dialogue` — the abstraction: the answers, replies and commands on their way.

## Main results

* `step_talking` — every step is a run of the desk.
* `session_refines_desk` — **so is every run**, and answers come in the order of the
  commands, and no more replies than queries.
* `received_is_due` — **all else that comes was sent by a device.**

## References

`router/Router.cpp`, `common/source/proto/SocketConnection.cpp`.
-/

namespace HomeAutomation

open Router Router.State QueueEvent SocketConnection

/-! ### The desk -/

/-- What a client sees of the router. -/
inductive DeskEvent
  /-- The client sends a command. -/
  | ask (action : Text)
  /-- The client receives the answer to a command. -/
  | answer (action : Text)
  /-- The client receives a reply of a device. -/
  | reply
  deriving DecidableEq

/-- **The desk**: the commands that have not been answered, and the number of queries
that may still be replied to. -/
structure Desk where
  asked : List Text := []
  awaited : ℕ := 0

namespace DeskEvent

/-- The commands that are asked. -/
def asks : List DeskEvent → List Text := List.filterMap fun
  | ask action => some action
  | _ => none

/-- The commands that are answered. -/
def answers : List DeskEvent → List Text := List.filterMap fun
  | answer action => some action
  | _ => none

/-- The number of replies. -/
def replyCount (es : List DeskEvent) : ℕ := es.count reply

end DeskEvent

open DeskEvent

namespace Desk

/-- One event at the desk. -/
def step (d : Desk) : DeskEvent → Option Desk
  | .ask action =>
    some ⟨d.asked ++ [action], d.awaited + if action = "query".toList then 1 else 0⟩
  | .answer action =>
    match d.asked with
    | [] => none
    | first :: rest => if action = first then some ⟨rest, d.awaited⟩ else none
  | .reply => if d.awaited = 0 then none else some ⟨d.asked, d.awaited - 1⟩

/-- **What was asked is what was answered and what still waits**, in that order, and there
are no more replies than queries. -/
theorem exec_balance : ∀ {es : List DeskEvent} {d d' : Desk}, Run.exec step d es = some d' →
    d.asked ++ asks es = answers es ++ d'.asked ∧
      d.awaited + (asks es).count "query".toList = DeskEvent.replyCount es + d'.awaited := by
  intro es
  induction es with
  | nil =>
    intro d d' h
    cases h
    simp [asks, answers, DeskEvent.replyCount]
  | cons e es ih =>
    intro d d' h
    rcases Option.bind_eq_some_iff.mp h with ⟨d₁, hd₁, h⟩
    rcases ih h with ⟨hasked, hawaited⟩
    cases e with
    | ask action =>
      cases hd₁
      have hcons : asks (.ask action :: es) = action :: asks es := rfl
      have hsame : answers (.ask action :: es) = answers es := rfl
      rw [hcons, hsame]
      constructor
      · simpa using hasked
      · simp only [DeskEvent.replyCount, List.count_cons] at hawaited ⊢
        simp only [beq_iff_eq, reduceCtorEq, if_false] at hawaited ⊢
        omega
    | answer action =>
      have hsame : asks (.answer action :: es) = asks es := rfl
      have hcons : answers (.answer action :: es) = action :: answers es := rfl
      rw [hcons, hsame]
      unfold step at hd₁
      dsimp only at hd₁
      split at hd₁
      · cases hd₁
      · next first rest hfirst =>
        split at hd₁
        · next heq =>
          cases hd₁
          subst heq
          simp only [DeskEvent.replyCount, List.count_cons] at hawaited ⊢
          simp only [beq_iff_eq, reduceCtorEq, if_false] at hawaited ⊢
          exact ⟨by rw [hfirst, List.cons_append, hasked, List.cons_append], hawaited⟩
        · cases hd₁
    | reply =>
      have hasks : asks (.reply :: es) = asks es := rfl
      have hanswers : answers (.reply :: es) = answers es := rfl
      rw [hasks, hanswers]
      unfold step at hd₁
      dsimp only at hd₁
      split at hd₁
      -- a reply is only taken while one is awaited, so the subtraction is exact
      · cases hd₁
      · next hpos =>
        cases hd₁
        simp only [DeskEvent.replyCount, List.count_cons_self] at hawaited ⊢
        exact ⟨hasked, by omega⟩

end Desk

/-! ### The session -/

/-- A session of a client with the router. -/
structure ClientSession where
  router : Router.State
  /-- The client's end of the connection, until the client drops it. -/
  client : Option SocketConnection
  /-- What the client has sent and the router has not read. -/
  up : Text
  /-- What the router has sent and the client has not read. -/
  down : Text
  /-- The packets of the connection that wait in the router's event loop. -/
  inbox : List (Option Packet)

/-- What happens in a session. -/
inductive SessionEvent
  /-- An event of the client's end. -/
  | client (e : ConnectionEvent)
  /-- The client drops its end. -/
  | hangUp
  /-- The router reads from the connection. -/
  | read (outcome : RecvOutcome)
  /-- The router writes to the connection. -/
  | write (outcomes : List SendOutcome)
  /-- The router's event loop hands over the next packet of the connection. -/
  | handle (unset : Bool)
  /-- Anything else that happens to the router. -/
  | other (e : Router.Event)

namespace ClientSession

section Step

variable (config : Config) (id : ℕ)

/-- The two ends and what is between them. -/
def link (x : ClientSession) : Link where
  ends := fun
    | .left => x.client
    | .right => x.router.connections.find id
  wire := fun
    | .left => x.up
    | .right => x.down

/-- What an event of the router's end puts into the event loop. -/
def enqueued (x : ClientSession) (e : ConnectionEvent) : List (Option Packet) :=
  match x.router.connections.find id with
  | none => []
  | some c => ((c.handleEvent e).map Output.packets).getD []

/-- An event of the router's end: the router runs its handler, and the bytes move. -/
def socketStep (x : ClientSession) (e : ConnectionEvent) (re : Router.Event) :
    Option ClientSession := do
  let l ← (x.link id).step (.io .right e)
  let router ← x.router.step config re
  return { x with
    router := router
    up := l.wire .left
    down := l.wire .right
    inbox := x.inbox ++ x.enqueued id e }

/-- **One event of a session**, for the client whose connection has the id `id`. -/
def step (x : ClientSession) : SessionEvent → Option ClientSession
  | .client e => do
    let l ← (x.link id).step (.io .left e)
    return { x with client := l.ends .left, up := l.wire .left, down := l.wire .right }
  | .hangUp => some { x with client := none }
  | .read outcome => x.socketStep config id (.readReady outcome) (.clientRead id outcome)
  | .write outcomes => x.socketStep config id (.writeReady outcomes) (.clientWrite id outcomes)
  | .handle unset =>
    match x.inbox with
    | [] => some x
    | packet :: inbox => do
      let router ← x.router.step config (.clientPacket id packet unset)
      return { x with router := router, inbox := inbox }
  | .other e =>
    if x.router.Foreign id e then do
      let router ← x.router.step config e
      return { x with router := router }
    else none

end Step

/-- The session of a client that the router has just accepted. -/
def opened (s : Router.State) : ClientSession := ⟨s, some fresh.subscribe, [], [], []⟩

/-- The packets that the client's connection takes in an event. -/
def sent (x : ClientSession) : SessionEvent → List Packet
  | .client e => (x.client.map fun c => c.packetsSent e).getD []
  | _ => []

/-- The packets that the client receives in an event. -/
def received (x : ClientSession) : SessionEvent → List Packet
  | .client e =>
    ((x.client.bind fun c => c.handleEvent e).map fun r => r.packets.filterMap fun p => p).getD []
  | _ => []

/-- The action that a packet asks for, if it is a command. -/
def askFor : Packet → Option Text
  | .serviceCommand c => some c.action
  | _ => none

/-- The action that a packet answers, if it is an answer. -/
def answerTo : Packet → Option Text
  | .serviceCommand c =>
    if c.action = "ok".toList ∨ c.action = "fail".toList then c.arguments.find "command".toList
    else none
  | _ => none

/-- The actions of the commands among packets. -/
def asked (ps : List Packet) : List Text := ps.filterMap askFor

/-- The actions of the commands that the answers among packets are for. -/
def answered (ps : List Packet) : List Text := ps.filterMap answerTo

/-- What a packet means to the client: an answer, a reply, or something else. -/
def heard (p : Packet) : List DeskEvent :=
  match answerTo p with
  | some action => [.answer action]
  | none => if isReplyPacket p then [.reply] else []

/-- **What is observed of a session**: commands go out, answers and replies come in. -/
def dialogue (x : ClientSession) (e : SessionEvent) : List DeskEvent :=
  (asked (x.sent e)).map .ask ++ (x.received e).flatMap heard

/-! ### Commands and answers among packets -/

@[simp] theorem asked_append (ps qs : List Packet) : asked (ps ++ qs) = asked ps ++ asked qs :=
  List.filterMap_append

@[simp] theorem answered_append (ps qs : List Packet) :
    answered (ps ++ qs) = answered ps ++ answered qs :=
  List.filterMap_append

@[simp] theorem asked_nil : asked [] = [] := rfl

@[simp] theorem answered_nil : answered [] = [] := rfl

@[simp] theorem asked_serviceCommand (c : ServiceCommand) (ps : List Packet) :
    asked (.serviceCommand c :: ps) = c.action :: asked ps := rfl

/-- An answer is no reply of a device. -/
theorem isReplyPacket_of_answerTo {p : Packet} {action : Text} (h : answerTo p = some action) :
    isReplyPacket p = false := by
  cases p with
  | serviceCommand c =>
    unfold answerTo at h
    dsimp only at h
    split at h
    · next hword =>
      unfold isReplyPacket
      dsimp only
      rcases hword with hword | hword <;> rw [hword] <;> decide
    · cases h
  | message m => rfl
  | deviceInit i => rfl

theorem answerTo_replyCommand (action : Text) (result : Bool) :
    answerTo (.serviceCommand (replyCommand action result)) = some action := by
  have hword : (replyCommand action result).action = "ok".toList ∨
      (replyCommand action result).action = "fail".toList := by
    cases result
    · exact .inr rfl
    · exact .inl rfl
  have hfind : (replyCommand action result).arguments.find "command".toList = some action := by
    unfold replyCommand
    rw [OrderedMap.find_insert, if_pos rfl]
  unfold answerTo
  dsimp only
  rw [if_pos hword, hfind]

/-- An answer says what it is for. -/
@[simp] theorem answered_replyCommand (action : Text) (result : Bool) :
    answered [.serviceCommand (replyCommand action result)] = [action] := by
  rw [answered, List.filterMap_cons, answerTo_replyCommand]
  rfl

@[simp] theorem replies_replyCommand (action : Text) (result : Bool) :
    replies [.serviceCommand (replyCommand action result)] = 0 := by
  simp [replies, isReplyPacket_of_answerTo (answerTo_replyCommand action result)]

/-- A routed command is no answer. -/
theorem answered_routedCommand {message : Message} {device : Device} {reply : Bool}
    {command : ServiceCommand} (h : routedCommand message device reply = .ok command) :
    answered [.serviceCommand command] = [] := by
  have hne : ¬ (command.action = "ok".toList ∨ command.action = "fail".toList) := by
    rw [(writable_routedCommand h).2]
    cases reply <;> decide
  have hnone : answerTo (.serviceCommand command) = none := if_neg hne
  rw [answered, List.filterMap_cons, hnone]
  rfl

/-- What is asked waits behind what was asked before. -/
theorem exec_asks : ∀ (actions : List Text) (d : Desk), Run.exec Desk.step d (actions.map .ask)
    = some ⟨d.asked ++ actions, d.awaited + actions.count "query".toList⟩ := by
  intro actions
  induction actions with
  | nil => intro d; simp [Run.exec]
  | cons action actions ih =>
    intro d
    rw [List.map_cons, Run.exec, Desk.step, Option.bind_some, ih, List.append_assoc,
      List.count_cons]
    simp only [beq_iff_eq, List.singleton_append, Option.some.injEq, Desk.mk.injEq, true_and]
    omega

/-- What is heard was asked before. -/
theorem exec_heard {rest : List Text} {n : ℕ} : ∀ (ps : List Packet) (d : Desk),
    d.asked = answered ps ++ rest → d.awaited = replies ps + n →
    Run.exec Desk.step d (ps.flatMap heard) = some ⟨rest, n⟩ := by
  intro ps
  induction ps with
  | nil =>
    intro d hasked hawaited
    cases d
    simp at hasked hawaited
    simp [Run.exec, hasked, hawaited]
  | cons p ps ih =>
    intro d hasked hawaited
    have hreplies : replies (p :: ps) = replies ps + if isReplyPacket p then 1 else 0 := by
      rw [replies, List.countP_cons]
      rfl
    rw [List.flatMap_cons, Run.exec_append]
    -- a packet is an answer, a reply, or neither, and the desk takes its step accordingly
    unfold heard
    cases hanswer : answerTo p with
    | some action =>
      have hnot := isReplyPacket_of_answerTo hanswer
      have hcons : answered (p :: ps) = action :: answered ps := by
        rw [answered, List.filterMap_cons, hanswer]
        rfl
      rw [hcons, List.cons_append] at hasked
      have hstep : Desk.step d (.answer action) = some ⟨answered ps ++ rest, d.awaited⟩ := by
        simp [Desk.step, hasked]
      simp only [Run.exec, hstep, Option.bind_some]
      apply ih _ rfl
      simpa [hreplies, hnot] using hawaited
    | none =>
      have hcons : answered (p :: ps) = answered ps := by
        rw [answered, List.filterMap_cons, hanswer]
        rfl
      rw [hcons] at hasked
      cases hreply : isReplyPacket p with
      | true =>
        have hone : d.awaited = replies ps + n + 1 := by
          rw [hawaited, hreplies, hreply, if_pos rfl]
          omega
        have hstep : Desk.step d .reply = some ⟨d.asked, replies ps + n⟩ := by
          simp [Desk.step, hone]
        simp only [if_true, Run.exec, hstep, Option.bind_some]
        exact ih _ hasked rfl
      | false =>
        simp only [Bool.false_eq_true, if_false, Run.exec, Option.bind_some]
        apply ih _ hasked
        simpa [hreplies, hreply] using hawaited

/-! ### The link of a session -/

/-- The router's own events only change the right end of the link. -/
theorem link_router (x : ClientSession) (id : ℕ) (router : Router.State)
    (inbox : List (Option Packet)) :
    link id { x with router := router, inbox := inbox }
      = { x.link id with
          ends := Function.update (x.link id).ends .right (router.connections.find id) } := by
  unfold link
  congr 1
  funext s
  cases s
  · simp
  · simp

/-- An end that stays as it is. -/
theorem link_update_self (l : Link) (s : Side) :
    { l with ends := Function.update l.ends s (l.ends s) } = l := by
  rw [Function.update_eq_self]

end ClientSession

namespace Link

/-- A packet is taken at one side. -/
theorem step_send {l : Link} {t : Side} {c c' : SocketConnection} {p : Packet}
    (hc : l.ends t = some c) (hsend : c.send p = .ok (.ok c')) :
    l.step (.io t (.send p)) = some { l with ends := Function.update l.ends t (some c') } := by
  simp [step, hc, bytesRead, handleEvent, hsend]

/-- An end that sends in a state did so before. -/
theorem sending_of_step {l l' : Link} {t : Side} {e : ConnectionEvent}
    (h : l.step (.io t e) = some l') (s : Side) (hs : l'.Sending s) : l.Sending s := by
  rcases step_io_cases h with ⟨-, rfl⟩ | ⟨c, r, hc, hr, hc', hother, -, -⟩
  · exact hs
  · rcases hs with ⟨d, hd, hg⟩
    rcases Side.eq_or_eq_other t s with rfl | rfl
    · rw [hc'] at hd
      cases hd
      exact ⟨c, hc, (handleEvent_writeSide hr).2 hg⟩
    · exact ⟨d, hother ▸ hd, hg⟩

/-- A packet is sent from the right: what is on its way to the left grows by it, and
nothing comes to the right. -/
theorem onTheWay_send {l : Link} {c c' : SocketConnection} {p : Packet} {text : Text}
    {ps qs : List Packet} (hps : l.OnTheWay .left ps) (hqs : l.OnTheWay .right qs)
    (hc : l.ends .right = some c) (hsend : c.send p = .ok (.ok c')) (hp : Transmittable p text) :
    let l' : Link := { l with ends := Function.update l.ends .right (some c') }
    l'.OnTheWay .left ps ∧ l'.OnTheWay .right (qs ++ if c.gotError then [] else [p]) := by
  intro l'
  have hstep : l.step (.io .right (.send p)) = some l' := step_send hc hsend
  have htransmit : SendsTransmittable (.io .right (.send p)) := by
    rintro s q hq
    cases hq
    exact ⟨text, hp⟩
  constructor
  · rcases step_onTheWay hps htransmit hstep with ⟨ps', hexec, h⟩
    simp [observed, hc, handleEvent, hsend, Run.exec] at hexec
    exact hexec ▸ h
  · rcases step_onTheWay hqs htransmit hstep with ⟨qs', hexec, h⟩
    have hsent : c.packetsSent (.send p) = if c.gotError then [] else [p] := by
      simp [packetsSent, hsend]
    have hexec : qs' = qs ++ if c.gotError then [] else [p] := by
      have := Fifo.append_puts hexec
      simp [observed, hc, hsent] at this
      exact this.symm
    exact hexec ▸ h

end Link

namespace ClientSession

open Link

/-! ### The dialogue -/

/-- The packets in the event loop. -/
def packets (inbox : List (Option Packet)) : List Packet := inbox.filterMap fun p => p

/-- The number of queries among commands. -/
def queries (actions : List Text) : ℕ := actions.count "query".toList

@[simp] theorem queries_append (l l' : List Text) : queries (l ++ l') = queries l + queries l' :=
  List.count_append

/-- What is on its way in a session: the packets `ps` up and `qs` down, and the commands
`rest` that have no answer yet.  While the router's end works, these are the commands in
the event loop and on their way up; and `w` is what the router keeps for replies. -/
structure Underway (P : Packet → Prop) (w : ℕ) (l : Link) (inbox : List (Option Packet)) (d : Desk)
    (ps qs : List Packet) (rest : List Text) : Prop where
  up : l.OnTheWay .left ps
  down : l.OnTheWay .right qs
  /-- Only admitted packets are sent down. -/
  admitted : ∀ p ∈ qs, P p
  asked : d.asked = answered qs ++ rest
  awaited : replies qs ≤ d.awaited
  waiting : l.Sending .right → rest = ClientSession.asked (packets inbox) ++ ClientSession.asked ps
  balance : (l.ends .right).isSome = true → replies qs + (w + (queries (ClientSession.asked
    (packets inbox)) + queries (ClientSession.asked ps))) ≤ d.awaited

/-- **The dialogue on its way**: the abstraction from the session to the desk. -/
def Dialogue (P : Packet → Prop) (w : ℕ) (l : Link) (inbox : List (Option Packet)) (d : Desk) :
    Prop :=
  ∃ ps qs rest, Underway P w l inbox d ps qs rest

variable {P : Packet → Prop} {w w' : ℕ} {l l' : Link} {inbox : List (Option Packet)} {d : Desk}

/-- The router's end goes. -/
theorem Dialogue.closed (h : Dialogue P w l inbox d) (w' : ℕ) (inbox' : List (Option Packet)) :
    Dialogue P w' { l with ends := Function.update l.ends .right none } inbox' d := by
  rcases h with ⟨ps, qs, rest, h⟩
  refine ⟨ps, qs, rest, onTheWay_close h.up, onTheWay_close h.down, h.admitted, h.asked, h.awaited,
    ?_, ?_⟩
  · rintro ⟨c, hc, -⟩
    simp at hc
  · simp

/-- The client's end goes. -/
theorem Dialogue.hungUp (h : Dialogue P w l inbox d) :
    Dialogue P w { l with ends := Function.update l.ends .left none } inbox d := by
  rcases h with ⟨ps, qs, rest, h⟩
  refine ⟨ps, qs, rest, onTheWay_close h.up, onTheWay_close h.down, h.admitted, h.asked, h.awaited,
    ?_, ?_⟩
  · rintro ⟨c, hc, hg⟩
    exact h.waiting ⟨c, by simpa using hc, hg⟩
  · simpa using h.balance

/-- The router may keep less. -/
theorem Dialogue.mono (h : Dialogue P w l inbox d) (hw : w' ≤ w) : Dialogue P w' l inbox d := by
  rcases h with ⟨ps, qs, rest, h⟩
  refine ⟨ps, qs, rest, h.up, h.down, h.admitted, h.asked, h.awaited, h.waiting, fun hc => ?_⟩
  have := h.balance hc
  omega

/-- What is sent is admitted, if it is sent at all. -/
theorem admitted_append {qs : List Packet} {p : Packet} (g : Bool) (hqs : ∀ r ∈ qs, P r) (hp : P p) :
    ∀ r ∈ qs ++ (if g then [] else [p]), P r := by
  intro r hr
  cases g
  · rcases List.mem_append.mp hr with hr | hr
    · exact hqs r hr
    · rw [List.mem_singleton.mp hr]
      exact hp
  · exact hqs r (by simpa using hr)

/-- The router sends something that is no answer. -/
theorem Dialogue.told {c c' : SocketConnection} {p : Packet} {text : Text}
    (h : Dialogue P w l inbox d) (hc : l.ends .right = some c) (hsend : c.send p = .ok (.ok c'))
    (hp : Transmittable p text) (hP : P p) (hanswer : answered [p] = [])
    (hw : replies [p] + w' ≤ w) :
    Dialogue P w' { l with ends := Function.update l.ends .right (some c') } inbox d := by
  rcases h with ⟨ps, qs, rest, h⟩
  rcases onTheWay_send h.up h.down hc hsend hp with ⟨hps, hqs⟩
  have hbalance := h.balance (by simp [hc])
  have hreplies : replies (if c.gotError then [] else [p]) ≤ replies [p] := by
    cases c.gotError <;> simp
  refine ⟨ps, _, rest, hps, hqs, admitted_append _ h.admitted hP, ?_, ?_, fun hs => ?_, fun _ => ?_⟩
  · rw [h.asked]
    cases c.gotError <;> simp [hanswer]
  · rw [replies_append]
    omega
  · exact h.waiting (sending_of_step (step_send hc hsend) .right hs)
  · rw [replies_append]
    omega

/-- The router sends a number of packets, none of them an answer. -/
theorem Dialogue.takes {c c' : SocketConnection} {ps : List Packet} (htakes : Takes c ps c') :
    ∀ {l : Link} {w : ℕ}, Dialogue P w l inbox d → l.ends .right = some c →
      (∀ p ∈ ps, P p ∧ answered [p] = [] ∧ ∃ text, Transmittable p text) → replies ps + w' ≤ w →
      Dialogue P w' { l with ends := Function.update l.ends .right (some c') } inbox d := by
  induction htakes with
  | nil c =>
    intro l w h hc _ hw
    rw [← hc, link_update_self]
    apply h.mono
    simpa using hw
  | @cons c c₁ c₂ p ps hsend _ ih =>
    intro l w h hc hps hw
    rcases List.forall_mem_cons.mp hps with ⟨⟨hP, hanswer, text, hp⟩, hps⟩
    have hsplit : replies (p :: ps) = replies [p] + replies ps := replies_append [p] ps
    have htold : Dialogue P (replies ps + w')
        { l with ends := Function.update l.ends .right (some c₁) } inbox d :=
      h.told hc hsend hp hP hanswer (by omega)
    have hnext := ih htold (by simp) hps le_rfl
    rwa [Function.update_idem] at hnext

/-- The router answers the next command. -/
theorem Dialogue.replied {c c' : SocketConnection} {command : ServiceCommand} {result : Bool}
    (h : Dialogue P w l (some (.serviceCommand command) :: inbox) d) (hc : l.ends .right = some c)
    (hcheck : checkString command.action = true)
    (hsend : c.send (.serviceCommand (replyCommand command.action result)) = .ok (.ok c'))
    (hP : P (.serviceCommand (replyCommand command.action result)))
    (hw : w' ≤ w + if command.action = "query".toList then 1 else 0) :
    Dialogue P w' { l with ends := Function.update l.ends .right (some c') } inbox d := by
  rcases h with ⟨ps, qs, rest, h⟩
  rcases onTheWay_send h.up h.down hc hsend
    (transmittable_command (writable_replyCommand hcheck result)) with ⟨hps, hqs⟩
  have hasked : ClientSession.asked (packets (some (.serviceCommand command) :: inbox))
      = command.action :: ClientSession.asked (packets inbox) := rfl
  have hbalance := h.balance (by simp [hc])
  have hcount : queries (command.action :: ClientSession.asked (packets inbox))
      = queries (ClientSession.asked (packets inbox))
        + if command.action = "query".toList then 1 else 0 := by
    simp [queries, List.count_cons]
  rw [hasked, hcount] at hbalance
  have hreplies : replies (qs ++ if c.gotError then [] else
      [.serviceCommand (replyCommand command.action result)]) = replies qs := by
    cases c.gotError <;> simp
  -- the answer is dropped, and all others will be, if an error has been seen
  obtain ⟨rest', hrest, hwait⟩ : ∃ rest', d.asked = answered (qs ++ if c.gotError then [] else
      [.serviceCommand (replyCommand command.action result)]) ++ rest' ∧ (c.gotError = false →
        rest' = ClientSession.asked (packets inbox) ++ ClientSession.asked ps) := by
    cases hg : c.gotError with
    | true => exact ⟨rest, by simpa using h.asked, nofun⟩
    | false =>
      refine ⟨_, ?_, fun _ => rfl⟩
      rw [h.asked, h.waiting ⟨c, hc, hg⟩, hasked]
      simp
  refine ⟨ps, _, rest', hps, hqs, admitted_append _ h.admitted hP, hrest, ?_, fun hs => ?_,
    fun _ => ?_⟩
  · rw [hreplies]
    exact h.awaited
  · rcases sending_of_step (step_send hc hsend) .right hs with ⟨c₀, hc₀, hg⟩
    rw [hc] at hc₀
    cases hc₀
    exact hwait hg
  · rw [hreplies]
    omega

/-- A packet that is no command is passed over. -/
theorem Dialogue.skipped {p : Packet} (h : Dialogue P w l (some p :: inbox) d)
    (hp : ∀ command, p ≠ .serviceCommand command) : Dialogue P w l inbox d := by
  rcases h with ⟨ps, qs, rest, h⟩
  have hsame : ClientSession.asked (packets (some p :: inbox)) = ClientSession.asked (packets inbox) := by
    cases p with
    | serviceCommand command => exact absurd rfl (hp command)
    | message m => rfl
    | deviceInit i => rfl
  exact ⟨ps, qs, rest, h.up, h.down, h.admitted, h.asked, h.awaited, hsame ▸ h.waiting,
    hsame ▸ h.balance⟩

/-- The client's end does something. -/
theorem Dialogue.client {c : SocketConnection} {o : Output} {e : ConnectionEvent}
    (h : Dialogue P w l inbox d) (hc : l.ends .left = some c) (ho : c.handleEvent e = some o)
    (he : SendsTransmittable (.io .left e)) (hstep : l.step (.io .left e) = some l') :
    ∃ d', Run.exec Desk.step d
        ((asked (c.packetsSent e)).map .ask ++ (packets o.packets).flatMap heard) = some d' ∧
      Dialogue P w l' inbox d' ∧ ∀ p ∈ packets o.packets, P p := by
  rcases h with ⟨ps, qs, rest, h⟩
  rcases step_onTheWay h.up he hstep with ⟨ps', hexec, hps'⟩
  rcases step_onTheWay h.down he hstep with ⟨qs', hexec', hqs'⟩
  -- what the client puts in and takes out is read off the fifo of each direction
  have hput : ps' = ps ++ c.packetsSent e := by
    have := Fifo.append_puts hexec
    simp [observed, hc] at this
    exact this.symm
  have htake : qs = packets o.packets ++ qs' := by
    have := Fifo.append_puts hexec'
    simp [observed, hc, ho] at this
    exact this
  subst hput htake
  have hasked := h.asked
  have hawaited := h.awaited
  have hbalance := h.balance
  rw [answered_append] at hasked
  rw [replies_append] at hawaited hbalance
  -- the replies just heard are part of those awaited
  obtain ⟨n, hn⟩ : ∃ n, d.awaited = replies (packets o.packets) + n :=
    ⟨d.awaited - replies (packets o.packets), by omega⟩
  refine ⟨⟨answered qs' ++ (rest ++ asked (c.packetsSent e)), n + queries (asked (c.packetsSent e))⟩,
    ?_, ⟨_, qs', rest ++ asked (c.packetsSent e), hps', hqs', ?_, rfl, ?_, fun hs => ?_, fun hs => ?_⟩,
    ?_⟩
  · rw [Run.exec_append, exec_asks]
    apply exec_heard
    · rw [hasked]
      simp
    · rw [hn]
      exact Nat.add_assoc _ _ _
  · exact fun p hp => h.admitted p (List.mem_append_right _ hp)
  · dsimp only
    omega
  · rw [h.waiting (sending_of_step hstep .right hs)]
    simp
  -- the invariant speaks of the socket behind the step, its balance of the one before
  · have hsome : (l.ends .right).isSome = true := by
      rcases step_io_cases hstep with ⟨-, rfl⟩ | ⟨-, -, -, -, -, hother, -, -⟩
      · exact hs
      · have hother : l'.ends .right = l.ends .right := hother
        rwa [← hother]
    have := hbalance hsome
    simp only [asked_append, queries_append]
    omega
  · exact fun p hp => h.admitted p (List.mem_append_left _ hp)

/-- The router's end reads or writes. -/
theorem Dialogue.socket {c : SocketConnection} {o : Output} {e : ConnectionEvent}
    (h : Dialogue P w l inbox d) (hc : l.ends .right = some c) (ho : c.handleEvent e = some o)
    (he : c.packetsSent e = []) (he' : SendsTransmittable (.io .right e))
    (hstep : l.step (.io .right e) = some l') : Dialogue P w l' (inbox ++ o.packets) d := by
  rcases h with ⟨ps, qs, rest, h⟩
  rcases step_onTheWay h.up he' hstep with ⟨ps', hexec, hps'⟩
  rcases step_onTheWay h.down he' hstep with ⟨qs', hexec', hqs'⟩
  -- the socket takes from the client's direction and puts nothing into its own
  have htake : ps = packets o.packets ++ ps' := by
    have := Fifo.append_puts hexec
    simp [observed, hc, ho] at this
    exact this
  have hput : qs' = qs := by
    have := Fifo.append_puts hexec'
    simp [observed, hc, he, puts] at this
    exact this.symm
  subst hput htake
  have hinbox : packets (inbox ++ o.packets) = packets inbox ++ packets o.packets :=
    List.filterMap_append
  refine ⟨ps', qs', rest, hps', hqs', h.admitted, h.asked, h.awaited, fun hs => ?_, fun _ => ?_⟩
  · rw [h.waiting (sending_of_step hstep .right hs), hinbox]
    simp
  · have := h.balance (by simp [hc])
    rw [hinbox]
    simp only [asked_append, queries_append] at this ⊢
    omega

/-! ### The session -/

section Session

variable {config : Config} {id : ℕ}

/-- What an event needs: the client sends packets that come back from their lines, and
what a device makes the router send is admitted. -/
def Admissible (config : Config) (id : ℕ) (P : Packet → Prop) (x : ClientSession) :
    SessionEvent → Prop
  | .client e => SendsTransmittable (.io .left e)
  | .other e => ∀ command, Due config x.router e id command → P (.serviceCommand command)
  | _ => True

/-- The state of a session, with the commands that wait for their answers. -/
structure Talking (config : Config) (id : ℕ) (P : Packet → Prop) (x : ClientSession) (d : Desk) :
    Prop where
  registered : Registered config x.router
  dialogue : Dialogue P (x.router.awaiting id) (x.link id) x.inbox d

theorem registered_of_step {s s' : Router.State} {e : Router.Event} (hs : Registered config s)
    (h : s.step config e = some s') : Registered config s' :=
  registered_of_change hs (change_of_handle (step_eq_some_iff.mp h))

/-- The router's end of the link after a handler of its socket. -/
theorem find_of_socket {x : ClientSession} {c : SocketConnection} {router : Router.State}
    (hc : x.router.connections.find id = some c)
    {handler : SocketConnection → Except Fault SocketConnection}
    (h : x.router.onClientSocket id handler = .ok router) :
    ∃ c', handler c = .ok c' ∧ router.connections.find id = some c' := by
  unfold onClientSocket at h
  rw [hc] at h
  rcases bind_eq_ok_iff.mp h with ⟨c', hc', h⟩
  cases h
  exact ⟨c', hc', by simp⟩

/-- A handler of a socket does what the event of the connection does. -/
theorem conn_of_ioHandler {c c' : SocketConnection} {o : Output} :
    (∀ {outcome : RecvOutcome}, c.handleEvent (.readReady outcome) = some o →
      ioHandler c.readListener c (c.onReadReady outcome) = .ok c' → c' = o.conn) ∧
    (∀ {outcomes : List SendOutcome}, c.handleEvent (.writeReady outcomes) = some o →
      ioHandler c.writeListener c (c.onWriteReady outcomes) = .ok c' → c' = o.conn) := by
  constructor
  · intro outcome ho h
    -- the run of the listener is the same branch in both definitions
    simp only [handleEvent] at ho
    unfold ioHandler at h
    split at ho
    · next hlistener =>
      cases ho
      rw [if_pos hlistener] at h
      cases h
      rfl
    · next hlistener =>
      rw [if_neg hlistener] at h
      split at ho
      · cases ho
      · next hthrown =>
        cases ho
        rw [hthrown] at h
        cases h
        rfl
  · intro outcomes ho h
    simp only [handleEvent] at ho
    unfold ioHandler at h
    split at ho
    · next hlistener =>
      cases ho
      rw [if_pos hlistener] at h
      cases h
      rfl
    · next hlistener =>
      rw [if_neg hlistener] at h
      split at ho
      · cases ho
      · next hthrown =>
        cases ho
        rw [hthrown] at h
        cases h
        rfl

/-- The router reads or writes. -/
theorem talking_socketStep {x x' : ClientSession} (h : Talking config id P x d)
    {e : ConnectionEvent} {re : Router.Event} (hstep : x.socketStep config id e re = some x')
    (hnone : x.router.connections.find id = none → ∀ router, x.router.handle config re = .ok router →
      router = x.router)
    (hsome : ∀ c o router, x.router.connections.find id = some c → c.handleEvent e = some o →
      x.router.handle config re = .ok router → router.connections.find id = some o.conn)
    (hawaiting : ∀ router, x.router.handle config re = .ok router →
      router.awaiting id = x.router.awaiting id)
    (hsent : ∀ c : SocketConnection, c.packetsSent e = [])
    (he : SendsTransmittable (.io .right e)) : Talking config id P x' d := by
  rcases Option.bind_eq_some_iff.mp hstep with ⟨l, hl, hstep⟩
  rcases Option.bind_eq_some_iff.mp hstep with ⟨router, hrouter, hstep⟩
  cases hstep
  refine ⟨registered_of_step h.registered hrouter, ?_⟩
  have hhandle := step_eq_some_iff.mp hrouter
  -- either the socket is closed and nothing happens, or it is the right end of the link
  rcases step_io_cases hl with ⟨hc, rfl⟩ | ⟨c, o, hc, ho, hends, hother, -, -⟩
  · have hfind : x.router.connections.find id = none := hc
    have hsame := hnone hfind router hhandle
    have henqueued : x.enqueued id e = [] := by simp [enqueued, hfind]
    rw [henqueued, List.append_nil, hsame]
    exact h.dialogue
  · have hfind : x.router.connections.find id = some c := hc
    have henqueued : x.enqueued id e = o.packets := by simp [enqueued, hfind, ho]
    rw [henqueued]
    -- the router's own connection is the right end of the link behind the step
    have hlink : link id { x with
        router := router, up := l.wire .left, down := l.wire .right,
        inbox := x.inbox ++ o.packets } = l := by
      rcases l with ⟨ends, wire⟩
      unfold link
      congr 1
      · funext s
        cases s
        · exact hother.symm
        · exact (hsome c o router hfind ho hhandle).trans hends.symm
      · funext s
        cases s
        · rfl
        · rfl
    rw [hlink]
    dsimp only
    rw [hawaiting router hhandle]
    exact h.dialogue.socket hc ho (hsent c) he hl

/-- The event loop hands over a packet. -/
theorem talking_handle {x : ClientSession} {packet : Option Packet} {inbox : List (Option Packet)}
    {unset : Bool} {router : Router.State} (h : Talking config id P x d)
    (hP : ∀ action result, P (.serviceCommand (replyCommand action result)))
    (hinbox : x.inbox = packet :: inbox)
    (hrouter : x.router.step config (.clientPacket id packet unset) = some router) :
    Talking config id P { x with router := router, inbox := inbox } d := by
  refine ⟨registered_of_step h.registered hrouter, ?_⟩
  have hhandle : x.router.onConnectionPacketReceived config packet id unset = .ok router :=
    step_eq_some_iff.mp hrouter
  -- the packet leaves the inbox, the router's answer goes into the socket
  have hdialogue := h.dialogue
  have hawaiting := awaiting_onConnectionPacketReceived hhandle id
  rw [hinbox] at hdialogue
  rw [link_router]
  dsimp only
  cases hc : x.router.connections.find id with
  | none =>
    rw [find_eq_none_onConnectionPacketReceived hhandle hc]
    exact hdialogue.closed _ inbox
  | some c =>
    have hstarted := h.registered.started hc
    rcases answer_of_onConnectionPacketReceived hstarted hhandle hc with
      ⟨p, rfl, hp, hfind⟩ | ⟨command, rfl, hfind | ⟨c', result, hcheck, hsend, hfind⟩⟩
    -- not a command, so nothing is put in
    · have hkeep : (x.link id).ends .right = some c := hc
      have hnot : isQueryPacket p = false := by
        cases p with
        | serviceCommand command => exact absurd rfl (hp command)
        | message m => rfl
        | deviceInit i => rfl
      rw [hfind, ← hkeep, link_update_self]
      apply (hdialogue.skipped hp).mono
      simpa [hnot] using hawaiting
    · rw [hfind]
      exact hdialogue.closed _ inbox
    · rw [hfind]
      -- a command is answered once, and a query is one more reply to come
      apply hdialogue.replied hc hcheck hsend (hP _ _)
      simpa [isQueryPacket] using hawaiting

/-- Anything else happens to the router. -/
theorem talking_other {x : ClientSession} {e : Router.Event} {router : Router.State}
    (h : Talking config id P x d) (he : Admissible config id P x (.other e))
    (hforeign : x.router.Foreign id e) (hrouter : x.router.step config e = some router) :
    Talking config id P { x with router := router } d := by
  refine ⟨registered_of_step h.registered hrouter, ?_⟩
  have hhandle := step_eq_some_iff.mp hrouter
  show Dialogue P (router.awaiting id) (link id { x with router := router, inbox := x.inbox })
    x.inbox d
  rw [link_router]
  cases hc : x.router.connections.find id with
  | none =>
    rw [find_eq_none_of_handle hhandle hforeign hc]
    exact h.dialogue.closed _ x.inbox
  | some c =>
    rcases takes_of_handle hhandle hforeign hc with hfind | ⟨ps, c', htakes⟩
    · rw [hfind]
      exact h.dialogue.closed _ x.inbox
    · rw [htakes.find]
      apply Dialogue.takes htakes.takes h.dialogue hc _ htakes.awaiting
      -- all that other parties put in is what is due to the client
      intro p hp
      rcases htakes.due p hp with ⟨command, hdue, rfl⟩
      refine ⟨he command hdue, ?_⟩
      rcases hdue with ⟨-, message, -, device, f, -, -, -, -, -, -, hcommand⟩
      exact ⟨answered_routedCommand hcommand, _,
        transmittable_command (writable_routedCommand hcommand).1⟩

/-- The client's own end: its commands go out, answers and replies come in. -/
theorem talking_client {x : ClientSession} {e : ConnectionEvent} {l : Link}
    (h : Talking config id P x d) (he : SendsTransmittable (.io .left e))
    (hl : (x.link id).step (.io .left e) = some l) :
    ∃ d', Run.exec Desk.step d (x.dialogue (.client e)) = some d' ∧
      Talking config id P
        { x with client := l.ends .left, up := l.wire .left, down := l.wire .right } d' ∧
      ∀ p ∈ x.received (.client e), P p := by
  rcases step_io_cases hl with ⟨hc, rfl⟩ | ⟨c, o, hc, ho, hends, hother, -, -⟩
  -- a client that has hung up does nothing
  · have hclient : x.client = none := hc
    have hreceived : x.received (.client e) = [] := by simp [received, hclient]
    have hdialogue : x.dialogue (.client e) = [] := by simp [dialogue, sent, received, hclient]
    rw [hdialogue, hreceived]
    exact ⟨d, rfl, h, by simp⟩
  · have hclient : x.client = some c := hc
    rcases h.dialogue.client hc ho he hl with ⟨d', hexec, hd, hPs⟩
    have hreceived : x.received (.client e) = packets o.packets := by
      simp [received, hclient, ho, packets]
    -- the link of the session behind the event is the one the event leaves
    have hlink : link id { x with
        client := l.ends .left, up := l.wire .left, down := l.wire .right } = l := by
      rcases l with ⟨ends, wire⟩
      unfold link
      congr 1
      · funext s
        cases s
        · rfl
        · exact hother.symm
      · funext s
        cases s
        · rfl
        · rfl
    refine ⟨d', ?_, ⟨h.registered, ?_⟩, ?_⟩
    · simpa [dialogue, sent, hreceived, hclient] using hexec
    · rw [hlink]
      exact hd
    · rwa [hreceived]

/-- The client hangs up. -/
theorem talking_hangUp {x : ClientSession} (h : Talking config id P x d) :
    Talking config id P { x with client := none } d := by
  refine ⟨h.registered, ?_⟩
  have hlink : link id { x with client := none }
      = { x.link id with ends := Function.update (x.link id).ends .left none } := by
    unfold link
    congr 1
    funext s
    cases s
    · simp
    · simp
  rw [hlink]
  exact h.dialogue.hungUp

/-- The router reads or writes at its end: its handler does what the event does. -/
theorem talking_socket {x x' : ClientSession} {e : ConnectionEvent} {re : Router.Event}
    (h : Talking config id P x d) (hstep : x.socketStep config id e re = some x')
    {handler : SocketConnection → Except Fault SocketConnection}
    (hre : x.router.handle config re = x.router.onClientSocket id handler)
    (hhandler : ∀ {c c' : SocketConnection} {o : Output}, c.handleEvent e = some o →
      handler c = .ok c' → c' = o.conn)
    (hsent : ∀ c : SocketConnection, c.packetsSent e = [])
    (he : SendsTransmittable (.io .right e)) : Talking config id P x' d := by
  apply talking_socketStep h hstep
  · intro hnone router hrouter
    rw [hre, onClientSocket, hnone] at hrouter
    cases hrouter
    rfl
  · intro c o router hc ho hrouter
    rw [hre] at hrouter
    rcases find_of_socket hc hrouter with ⟨c', hc', hfind⟩
    rw [hfind, hhandler ho hc']
  · intro router hrouter
    rw [hre] at hrouter
    exact awaiting_onClientSocket hrouter id
  · exact hsent
  · exact he

/-- **Every step of a session is a run of the desk**, and what the client receives is
admitted. -/
theorem step_talking {x x' : ClientSession} {e : SessionEvent} (h : Talking config id P x d)
    (hP : ∀ action result, P (.serviceCommand (replyCommand action result)))
    (he : Admissible config id P x e) (hstep : x.step config id e = some x') :
    ∃ d', Run.exec Desk.step d (x.dialogue e) = some d' ∧ Talking config id P x' d' ∧
      ∀ p ∈ x.received e, P p := by
  -- what does not happen at the client's end is no part of the dialogue
  have hquiet : x.dialogue e = [] → x.received e = [] → Talking config id P x' d →
      ∃ d', Run.exec Desk.step d (x.dialogue e) = some d' ∧ Talking config id P x' d' ∧
        ∀ p ∈ x.received e, P p := by
    intro hd hr ht
    rw [hd, hr]
    exact ⟨d, rfl, ht, by simp⟩
  cases e with
  | client e =>
    rcases Option.bind_eq_some_iff.mp hstep with ⟨l, hl, hstep⟩
    cases hstep
    exact talking_client h he hl
  | hangUp =>
    cases hstep
    exact hquiet rfl rfl (talking_hangUp h)
  | read outcome =>
    refine hquiet rfl rfl (talking_socket h hstep rfl (fun ho hc' => conn_of_ioHandler.1 ho hc')
      (fun c => rfl) ?_)
    rintro s p hp
    cases hp
  | write outcomes =>
    refine hquiet rfl rfl (talking_socket h hstep rfl (fun ho hc' => conn_of_ioHandler.2 ho hc')
      (fun c => rfl) ?_)
    rintro s p hp
    cases hp
  | handle unset =>
    apply hquiet rfl rfl
    simp only [step] at hstep
    split at hstep
    -- nothing is in the inbox
    · cases hstep
      exact h
    · next packet inbox hinbox =>
      rcases Option.bind_eq_some_iff.mp hstep with ⟨router, hrouter, hstep⟩
      cases hstep
      exact talking_handle h hP hinbox hrouter
  | other e =>
    apply hquiet rfl rfl
    simp only [step] at hstep
    split at hstep
    · next hforeign =>
      rcases Option.bind_eq_some_iff.mp hstep with ⟨router, hrouter, hstep⟩
      cases hstep
      exact talking_other h he hforeign hrouter
    · cases hstep

/-- Nothing has been said when a session is opened. -/
theorem talking_opened {s : Router.State} (hs : ReachableState config s)
    (hid : s.connections.find id = some fresh.subscribe) :
    Talking config id P (opened s) ⟨[], s.awaiting id⟩ := by
  refine ⟨registered_of_reachable hs, ?_⟩
  have hlink : (opened s).link id = Link.opened := by
    unfold link opened Link.opened
    congr 1
    · funext t
      cases t
      · rfl
      · exact hid
    · funext t
      cases t
      · rfl
      · rfl
  rw [hlink]
  refine ⟨[], [], [], onTheWay_opened .left, onTheWay_opened .right, by simp, rfl, by simp,
    fun _ => rfl, fun _ => ?_⟩
  show 0 + ((opened s).router.awaiting id + (0 + 0)) ≤ s.awaiting id
  rw [Nat.zero_add]
  exact le_rfl

/-- **A session is a run of the desk**, whatever happens to the router and its other
clients, from the moment the client is accepted.  So the answers received so far are for
the first commands sent, one for each and in their order; and there are no more replies
than queries, if the router keeps none under the id from before. -/
theorem session_refines_desk {s : Router.State} (hs : ReachableState config s)
    (hid : s.connections.find id = some fresh.subscribe) (es : List SessionEvent)
    (hes : ∀ p, SessionEvent.client (.send p) ∈ es → ∃ text, Transmittable p text) :
    let seen := Run.observations (step config id) dialogue (opened s) es
    (∃ d, Run.exec Desk.step ⟨[], s.awaiting id⟩ seen = some d) ∧ answers seen <+: asks seen ∧
      DeskEvent.replyCount seen ≤ s.awaiting id + (asks seen).count "query".toList := by
  intro seen
  have hall : ∀ t ∈ Run.trace (step config id) (opened s) es,
      Admissible config id (fun _ => True) t.1 t.2.1 := by
    intro t ht
    have hmem := Run.mem_of_mem_trace ht
    cases he : t.2.1 with
    | client e =>
      rintro side p hp
      cases hp
      exact hes p (he ▸ hmem)
    | other e => exact fun _ _ => trivial
    | _ => trivial
  rcases Run.exec_observations (R := Talking config id fun _ => True) (fun x e x' d h hx hstep => by
      rcases step_talking h (fun _ _ => trivial) hx hstep with ⟨d', hexec, ht, -⟩
      exact ⟨d', hexec, ht⟩) es (opened s) _ (talking_opened hs hid) hall with ⟨d, hd, -⟩
  -- the run of the desk keeps the books of asked and answered
  rcases Desk.exec_balance hd with ⟨hasked, hawaited⟩
  have hasked : asks seen = answers seen ++ d.asked := hasked
  have hawaited : s.awaiting id + (asks seen).count "query".toList
      = DeskEvent.replyCount seen + d.awaited := hawaited
  exact ⟨⟨d, hd⟩, hasked ▸ List.prefix_append _ _, by omega⟩

/-- The client sends a query, the router reads it, answers it and writes the answer, and
the client reads that. -/
def sampleTalk : List SessionEvent :=
  [.client (.send (.serviceCommand sampleQuery)),
    .client (.writeReady [.accepted (lineOf (.serviceCommand sampleQuery)).length]),
    .read (.received (lineOf (.serviceCommand sampleQuery))), .handle true,
    .write [.accepted 22], .client (.readReady (.received "cmd:ok command:query\r\n".toList))]

theorem transmittable_sampleTalk (p : Packet) (hp : SessionEvent.client (.send p) ∈ sampleTalk) :
    ∃ text, Transmittable p text := by
  simp only [sampleTalk, List.mem_cons, SessionEvent.client.injEq, ConnectionEvent.send.injEq,
    reduceCtorEq, List.not_mem_nil, or_false] at hp
  subst hp
  have hquery : ServiceCommand.Writable ⟨"query".toList, .empty⟩ :=
    ServiceCommand.writable_create (by decide) (by decide)
  exact ⟨_, transmittable_command ((hquery.insert "device".toList (by decide) (by decide)
    (by decide)).insert "address".toList (by decide) (by decide) (by decide))⟩

/-- The router of the sample configuration, with one client. -/
theorem reachable_sample : ∃ s, ReachableState sampleConfig s ∧
    s.connections.find 1 = some fresh.subscribe ∧ s.awaiting 1 = 0 := by
  have hcreate : ∃ s, create sampleConfig = .ok s := ⟨_, rfl⟩
  rcases hcreate with ⟨s₀, hs₀⟩
  have hexec : ∃ s, Run.exec (Router.State.step sampleConfig) s₀
      [.start (fun _ => true) (fun _ => true), .accept] = some s ∧
      s.connections.find 1 = some fresh.subscribe ∧ s.awaiting 1 = 0 := by
    rw [eq_of_create hs₀]
    exact ⟨_, rfl, rfl, rfl⟩
  rcases hexec with ⟨s, hs, hfind⟩
  exact ⟨s, Run.reachable_of_exec hs₀ hs, hfind⟩

/-- The dialogue of the sample client. -/
theorem session_refines_desk_sample : ∃ s, ReachableState sampleConfig s ∧
    s.connections.find 1 = some fresh.subscribe ∧ s.awaiting 1 = 0 ∧
    let seen := Run.observations (step sampleConfig 1) dialogue (opened s) sampleTalk
    (∃ d, Run.exec Desk.step ⟨[], s.awaiting 1⟩ seen = some d) ∧ answers seen <+: asks seen ∧
      DeskEvent.replyCount seen ≤ s.awaiting 1 + (asks seen).count "query".toList := by
  rcases reachable_sample with ⟨s, hs, hid, hnew⟩
  exact ⟨s, hs, hid, hnew, session_refines_desk hs hid sampleTalk transmittable_sampleTalk⟩

/-- **All else that comes was sent by a device.**  What the client receives is an answer
or was due: in some step of the run a device's message came in, which passed a filter of
this client, and the command reports it under the names of the configuration.  As this
holds of every run, the message came before. -/
theorem received_is_due {s : Router.State} (hs : ReachableState config s)
    (hid : s.connections.find id = some fresh.subscribe) (es : List SessionEvent)
    (hes : ∀ p, SessionEvent.client (.send p) ∈ es → ∃ text, Transmittable p text) :
    let steps := Run.trace (step config id) (opened s) es
    ∀ t ∈ steps, ∀ p ∈ t.1.received t.2.1,
      (∃ action result, p = .serviceCommand (replyCommand action result)) ∨
        ∃ t' ∈ steps, ∃ e command, t'.2.1 = .other e ∧ Due config t'.1.router e id command ∧
          p = .serviceCommand command := by
  intro steps
  -- the packets admitted are those that the statement names
  obtain ⟨P, hPdef⟩ : ∃ P : Packet → Prop, P = fun p =>
      (∃ action result, p = .serviceCommand (replyCommand action result)) ∨
        ∃ t' ∈ steps, ∃ e command, t'.2.1 = .other e ∧ Due config t'.1.router e id command ∧
          p = .serviceCommand command := ⟨_, rfl⟩
  have hall : ∀ t ∈ steps, Admissible config id P t.1 t.2.1 := by
    intro t ht
    have hmem := Run.mem_of_mem_trace ht
    cases he : t.2.1 with
    | client e =>
      rintro side p hp
      cases hp
      exact hes p (he ▸ hmem)
    | other e =>
      intro command hdue
      rw [hPdef]
      exact .inr ⟨t, ht, e, command, he, hdue, rfl⟩
    | _ => trivial
  have hsteps := Run.trace_rule_of_admissible (I := fun x => ∃ d, Talking config id P x d)
    (P := fun x e _ => ∀ p ∈ received x e, P p) (fun x e x' h hx hstep => by
      rcases h with ⟨d, h⟩
      rcases step_talking h (fun action result => hPdef ▸ .inl ⟨action, result, rfl⟩) hx hstep with
        ⟨d', -, ht, hreceived⟩
      exact ⟨⟨d', ht⟩, hreceived⟩) es (opened s) ⟨_, talking_opened hs hid⟩ hall
  intro t ht p hp
  have := hsteps t ht p hp
  rwa [hPdef] at this

/-- The sample client receives an answer. -/
theorem received_is_due_sample : ∃ s, ReachableState sampleConfig s ∧
    s.connections.find 1 = some fresh.subscribe ∧
    let steps := Run.trace (step sampleConfig 1) (opened s) sampleTalk
    ∀ t ∈ steps, ∀ p ∈ t.1.received t.2.1,
      (∃ action result, p = .serviceCommand (replyCommand action result)) ∨
        ∃ t' ∈ steps, ∃ e command, t'.2.1 = .other e ∧ Due sampleConfig t'.1.router e 1 command ∧
          p = .serviceCommand command := by
  rcases reachable_sample with ⟨s, hs, hid, -⟩
  exact ⟨s, hs, hid, received_is_due hs hid sampleTalk transmittable_sampleTalk⟩

end Session

end ClientSession
end HomeAutomation
