import HomeAutomation.Lib.Refinement
import HomeAutomation.Proto.LineFraming
import HomeAutomation.Proto.MessageFormat
import HomeAutomation.Proto.RoundTrip
import HomeAutomation.Proto.WriteSide

/-!
# Two connections and the stream between them

The programs at the two ends of a TCP connection both hold a `SocketConnection`.  What
one socket takes, the other hands over later, in pieces of any size; either end may
fail, or be closed by its owner, at any time.  In each direction such a link is a queue
of packets: what the subscriber at one end gets is what was sent at the other, in that
order, none of it twice and none of it changed.

What is observed of a run are the packets that `send` accepts at one end and the packets
enqueued for the subscriber at the other.  They are related to the queue of
`Lib.Refinement`.

## Main definitions

* `Transmittable` — the packets that `Packet::create` reads back from their lines.
* `Side`, `Link`, `LinkEvent`, `Link.step` — the link and its runs.
* `Link.observed` — what is sent at a side, and what arrives at the other.
* `Link.OnTheWay` — the abstraction: the packets whose lines are in the two buffers and
  on the wire.

## Main results

* `transmittable_message`, `transmittable_command` — messages and commands.
* `Link.step_onTheWay` — every step of the link is a run of the queue.
* `Link.refines_fifo` — **so is every run.**
* `Link.drained` — as long as both ends live, all that was sent can be brought over.
-/

namespace HomeAutomation

open Hex Str Framing SocketConnection QueueEvent

/-! ### Packets that come back from their lines -/

/-- A packet that `Packet::create` reads back from its line, which is one line. -/
structure Transmittable (p : Packet) (text : Text) : Prop where
  convert : p.convertToString = .ok text
  create : Packet.create text = .ok p
  has_text : hasText text = true
  one_line : ∀ c ∈ text, isEol c = false

theorem Transmittable.lineOf {p : Packet} {text : Text} (h : Transmittable p text) :
    lineOf p = text ++ "\r\n".toList := by
  simp [SocketConnection.lineOf, h.convert]

theorem isEol_of_isWordChar {c : Char} (hc : isWordChar c = true) : isEol c = false := by
  have hne : ∀ d : Char, isWordChar d = false → c ≠ d := by
    rintro d hd rfl
    simp [hc] at hd
  simp [isEol, hne '\r' (by decide), hne '\n' (by decide)]

theorem isEol_of_mem_hexPad {w n : ℕ} {c : Char} (hc : c ∈ hexPad w n) : isEol c = false :=
  isEol_of_isWordChar (isWordChar_of_isHex (isHex_of_mem_hexPad hc))

theorem isEol_of_checkString {s : Text} (hs : checkString s = true) {c : Char} (hc : c ∈ s) :
    isEol c = false :=
  isEol_of_isWordChar (checkString_iff.mp hs c hc)

namespace Message

/-- A request that carries no value, or a value. -/
def Plain (m : Message) : Prop := m.type = .request → m.body = Body.nil

/-- Whatever the object was before, the line of a message makes it that message. -/
theorem deserialize_serialize {m : Message} (hm : m.Plain) (m₀ : Message) :
    m₀.deserialize m.serialize = (m, .ok ()) := by
  have hd : (hexPad 2 m.deviceId.toNat).length = 2 := length_hexPad (by decide) m.deviceId.toNat_lt
  have ha : (hexPad 4 m.address.toNat).length = 4 := length_hexPad (by decide) m.address.toNat_lt
  have hdevice : readDeviceId (hexPad 2 m.deviceId.toNat) = m.deviceId :=
    UInt8.toNat_inj.mp (readDeviceId_eq hd.le (leadingNumber_hexPad 2 _))
  have haddress : readAddress (hexPad 4 m.address.toNat) m₀.address = m.address :=
    UInt16.toNat_inj.mp (readAddress_eq ha.le (leadingNumber_hexPad 4 _) _)
  rw [serialize_eq_fieldLine]
  rcases m with ⟨type, deviceId, address, body⟩
  cases type with
  | request =>
    rw [show body = Body.nil from hm rfl]
    refine (deserialize_request hd ha m₀).trans ?_
    simp only [hdevice, haddress]
  | data =>
    refine (deserialize_data hd ha m₀ body).trans ?_
    simp only [hdevice, haddress]

theorem isEol_of_mem_serialize (m : Message) : ∀ c ∈ m.serialize, isEol c = false := by
  have hfixed : ∀ s ∈ ["dev:".toList, "  ".toList, "addr:".toList, [':'], ['?']],
      ∀ c ∈ s, isEol c = false := by simp [isEol]
  have hbody : ∀ c ∈ bodyText m.body, isEol c = false :=
    fun c hc => isEol_of_isWordChar (isWordChar_of_isHex (isHex_of_mem_bodyText hc))
  intro c hc
  unfold serialize at hc
  rw [List.mem_append, List.mem_append, List.mem_append, List.mem_append, List.mem_append,
    List.mem_append] at hc
  -- the fixed parts, the two numbers and the body one after the other
  rcases hc with (((((hc | hc) | hc) | hc) | hc) | hc) | hc
  · exact hfixed _ (by simp) c hc
  · exact isEol_of_mem_hexPad hc
  · exact hfixed _ (by simp) c hc
  · exact hfixed _ (by simp) c hc
  · exact isEol_of_mem_hexPad hc
  · exact hfixed _ (by simp) c hc
  · cases htype : m.type with
    | data =>
      rw [htype] at hc
      rcases List.mem_cons.mp hc with rfl | hc
      · rfl
      · exact hbody c hc
    | request =>
      rw [htype] at hc
      exact hfixed ['?'] (by simp) c hc

end Message

/-- **Messages are transmittable.** -/
theorem transmittable_message {m : Message} (hm : m.Plain) :
    Transmittable (.message m) m.serialize where
  convert := rfl
  create := by
    rw [Message.serialize_eq_fieldLine, Message.create_fieldLine, ← Message.serialize_eq_fieldLine,
      Message.deserialize_serialize hm]
    rfl
  has_text := by
    refine hasText_iff.mpr ⟨'d', ?_, rfl⟩
    unfold Message.serialize
    simp
  one_line := m.isEol_of_mem_serialize

/-- **Commands are transmittable** if their words are. -/
theorem transmittable_command {c : ServiceCommand} (hc : c.Writable) :
    Transmittable (.serviceCommand c) c.line where
  convert := ServiceCommand.serialize_eq_line hc.action_ne
  create := ServiceCommand.create_line hc
  has_text := hasText_iff.mpr ⟨'c', by simp [ServiceCommand.line], rfl⟩
  one_line := by
    intro x hx
    rw [ServiceCommand.line, List.mem_append, List.mem_append] at hx
    rcases hx with hx | hx | hx
    · revert x
      simp [isEol]
    · exact isEol_of_checkString hc.action hx
    · rcases List.mem_flatMap.mp hx with ⟨e, he, hx⟩
      obtain ⟨-, hkey, hvalue⟩ := hc.arguments e he
      simp only [ServiceCommand.argumentText, List.mem_cons, List.mem_append] at hx
      rcases hx with rfl | hx | rfl | hx
      · decide
      · exact isEol_of_checkString hkey hx
      · decide
      · exact isEol_of_checkString hvalue hx

/-! ### The link -/

/-- The two ends of a link. -/
inductive Side
  | left
  | right
  deriving DecidableEq

namespace Side

/-- The end on the other side. -/
def other : Side → Side
  | left => right
  | right => left

@[simp] theorem other_ne (s : Side) : s.other ≠ s := by cases s <;> simp [other]

theorem eq_or_eq_other (s t : Side) : t = s ∨ t = s.other := by
  cases s <;> cases t <;> simp [other]

end Side

namespace SocketConnection

/-- What an event of a connection does outside it: the packets enqueued for the
subscriber, and the bytes its socket takes. -/
structure Output where
  conn : SocketConnection
  packets : List (Option Packet) := []
  taken : Text := []

/-- One event of a connection; `none` when the program does not come back.  A stopped
listener has no events, and an owner survives a `send` that is refused. -/
def handleEvent (c : SocketConnection) : ConnectionEvent → Option Output
  | .readReady outcome =>
    if !c.readListener then some { conn := c }
    else
      match (c.onReadReady outcome).2.thrown with
      | some _ => none
      | none => some { conn := (c.onReadReady outcome).1
                       packets := (c.onReadReady outcome).2.packets }
  | .writeReady outcomes =>
    if !c.writeListener then some { conn := c }
    else
      match (c.onWriteReady outcomes).2.thrown with
      | some _ => none
      | none => some { conn := (c.onWriteReady outcomes).1
                       packets := (c.onWriteReady outcomes).2.packets
                       taken := bytesTaken (sendCalls c.writeBuffer outcomes) }
  | .send packet =>
    match c.send packet with
    | .error _ => none
    | .ok (.error _) => some { conn := c }
    | .ok (.ok c') => some { conn := c' }

/-- The bytes an event takes from the stream. -/
def bytesRead (c : SocketConnection) : ConnectionEvent → Text
  | .readReady (.received bytes) => if c.readListener then bytes else []
  | _ => []

/-- The packet that an event queues. -/
def packetsSent (c : SocketConnection) : ConnectionEvent → List Packet
  | .send packet =>
    match c.send packet with
    | .ok (.ok _) => if c.gotError then [] else [packet]
    | _ => []
  | _ => []

end SocketConnection

/-- Two connections, if their owners have not closed them, and the bytes that each has
sent and the other has not yet read. -/
structure Link where
  ends : Side → Option SocketConnection
  wire : Side → Text

/-- What happens to a link. -/
inductive LinkEvent
  /-- An event of the connection at one side. -/
  | io (side : Side) (e : ConnectionEvent)
  /-- The owner of the connection at one side unsubscribes and drops it. -/
  | close (side : Side)

namespace Link

/-- `buffer(4096)` of `on_read_ready`. -/
def readLimit : ℕ := 4096

/-- **One event of a link.**  A `recv` call hands over a piece of what the other side
has sent. -/
def step (l : Link) : LinkEvent → Option Link
  | .close s => some { l with ends := Function.update l.ends s none }
  | .io s e =>
    match l.ends s with
    | none => some l
    | some c =>
      let bytes := c.bytesRead e
      if bytes <+: l.wire s.other ∧ bytes.length ≤ readLimit then
        (c.handleEvent e).map fun r =>
          { ends := Function.update l.ends s (some r.conn)
            wire := Function.update
              (Function.update l.wire s.other ((l.wire s.other).drop bytes.length))
              s (l.wire s ++ r.taken) }
      else none

/-- A link just opened: both ends are subscribed. -/
def opened : Link := ⟨fun _ => some fresh.subscribe, fun _ => []⟩

/-- What is observed of the direction from side `s`: a packet is queued there, packets
are enqueued for the subscriber at the other side. -/
def observed (s : Side) (l : Link) : LinkEvent → List (QueueEvent Packet)
  | .close _ => []
  | .io t e =>
    match l.ends t with
    | none => []
    | some c =>
      if t = s then (c.packetsSent e).map .put
      else
        match c.handleEvent e with
        | none => []
        | some r => (r.packets.filterMap id).map .take

end Link

/-! ### What an event does to the buffers -/

namespace SocketConnection

/-- The outcomes that `on_write_ready` comes to, if none of them makes it throw. -/
theorem exists_ordinary (buffer : Text) : ∀ (os : List SendOutcome) (pos : ℕ),
    (writeLoop buffer.length os pos).2 ≠ .otherError →
    ∃ os', .otherError ∉ os' ∧ writeLoop buffer.length os' pos = writeLoop buffer.length os pos ∧
      sendCalls (buffer.drop pos) os' = sendCalls (buffer.drop pos) os := by
  intro os
  induction os with
  | nil => exact fun pos _ => ⟨[], List.not_mem_nil, rfl, rfl⟩
  | cons o os ih =>
    intro pos h
    -- nothing is left to write, so the outcomes do not matter
    by_cases hpos : buffer.length ≤ pos
    · refine ⟨[], List.not_mem_nil, ?_, ?_⟩
      · simp [writeLoop, hpos]
      · rw [List.drop_eq_nil_of_le hpos]
        simp
    · have hne : buffer.drop pos ≠ [] := fun hnil => hpos (List.drop_eq_nil_iff.mp hnil)
      cases o with
      | wouldBlock => exact ⟨[.wouldBlock], by simp, by simp [writeLoop, hpos], by simp [sendCalls]⟩
      | connectionError =>
        exact ⟨[.connectionError], by simp, by simp [writeLoop, hpos], by simp [sendCalls]⟩
      | otherError => simp [writeLoop, hpos] at h
      | accepted n =>
        rw [writeLoop, if_neg hpos] at h
        rcases ih _ h with ⟨os', hos', hloop, hcalls⟩
        -- the bytes behind the piece that was taken
        have hdrop :
            (buffer.drop pos).drop n = buffer.drop (pos + min n (buffer.length - pos)) := by
          rw [List.drop_drop]
          rcases Nat.le_total n (buffer.length - pos) with hn | hn
          · rw [Nat.min_eq_left hn]
          · rw [Nat.min_eq_right hn, List.drop_eq_nil_of_le (by omega),
              List.drop_eq_nil_of_le (by omega)]
        refine ⟨.accepted n :: os', by simpa using hos', ?_, ?_⟩
        · simp only [writeLoop, if_neg hpos, hloop]
        · rw [sendCalls_accepted hne, sendCalls_accepted hne, hdrop, hcalls]

/-- What `on_write_ready` takes from the buffer is what the socket takes. -/
theorem taken_of_onWriteReady {c : SocketConnection} {os : List SendOutcome}
    (h : (c.onWriteReady os).2.thrown = none) :
    bytesTaken (sendCalls c.writeBuffer os) ++ (c.onWriteReady os).1.writeBuffer
        = c.writeBuffer ∧
      ((c.onWriteReady os).1.gotError = false → c.gotError = false) := by
  -- an event that throws is no event of the link, so no other error was met
  have hne : (writeLoop c.writeBuffer.length os 0).2 ≠ .otherError := by
    intro hother
    unfold onWriteReady at h
    generalize writeLoop c.writeBuffer.length os 0 = r at h hother
    rcases r with ⟨pos, stop⟩
    simp only at hother
    simp [hother] at h
  rcases exists_ordinary c.writeBuffer os 0 hne with ⟨os', hos', hloop, hcalls⟩
  have hsame : c.onWriteReady os' = c.onWriteReady os := by
    unfold onWriteReady
    rw [hloop]
  rw [List.drop_zero] at hcalls
  rcases onWriteReady_taken c hos' with ⟨htaken, herror, -⟩
  rw [hcalls, hsame] at htaken herror
  refine ⟨htaken, fun hg => ?_⟩
  rw [herror, Bool.or_eq_false_iff] at hg
  exact hg.1

/-- **The write side of an event**: what was in the buffer and what was sent is what the
socket takes and what is in the buffer then. -/
theorem handleEvent_writeSide {c : SocketConnection} {e : ConnectionEvent} {r : Output}
    (h : c.handleEvent e = some r) :
    r.taken ++ r.conn.writeBuffer = c.writeBuffer ++ (c.packetsSent e).flatMap lineOf ∧
      (r.conn.gotError = false → c.gotError = false) := by
  cases e with
  | readReady outcome =>
    rcases onReadReady_writeSide c outcome with ⟨hbuffer, herror, -⟩
    simp only [handleEvent] at h
    split at h
    · cases h
      simp [packetsSent]
    · split at h
      · cases h
      · cases h
        simp only [packetsSent, hbuffer, herror, Bool.or_eq_false_iff]
        exact ⟨by simp, fun hg => hg.1⟩
  | writeReady outcomes =>
    simp only [handleEvent] at h
    split at h
    · cases h
      simp [packetsSent]
    · split at h
      · cases h
      · next hthrown =>
        cases h
        rcases taken_of_onWriteReady hthrown with ⟨htaken, herror⟩
        exact ⟨by simpa [packetsSent] using htaken, herror⟩
  -- a send adds its line, unless an error has been seen
  | send packet =>
    simp only [handleEvent, packetsSent] at h ⊢
    cases hsend : c.send packet with
    | error f =>
      rw [hsend] at h
      cases h
    | ok result =>
      rw [hsend] at h
      cases result with
      | error e =>
        cases h
        simp
      | ok c' =>
        cases h
        rcases send_accepted hsend with ⟨hg, rfl⟩ | ⟨hg, -, -, rfl⟩
        · simp [hg]
        · simp [hg]

/-- The packets that lines hold; a line that does not parse is dropped. -/
def packetsIn (lines : List Text) : List Packet :=
  lines.filterMap fun line => (Packet.create line).toOption

theorem filterMap_handleLine {c : SocketConnection} (hc : c.subscribed = true)
    (lines : List Text) : (lines.flatMap c.handleLine).filterMap id = packetsIn lines := by
  induction lines with
  | nil => rfl
  | cons line lines ih =>
    rw [List.flatMap_cons, List.filterMap_append, ih, packetsIn, packetsIn, List.filterMap_cons,
      handleLine]
    cases Packet.create line <;> simp [packetReceived, hc, Except.toOption]

/-- What the read side of an event comes to. -/
structure ReadSide (c : SocketConnection) (bytes : Text) (r : Output) : Prop where
  buffer : r.conn.readBuffer = residue isEol (c.readBuffer ++ bytes)
  packets : r.packets.filterMap id = packetsIn (linesOf (c.readBuffer ++ bytes))
  subscribed : r.conn.subscribed = true

section ReadSide

variable {c : SocketConnection} (hsub : c.subscribed = true)
  (hbuf : ∀ x ∈ c.readBuffer, isEol x = false)
include hsub hbuf

omit hsub in
/-- Nothing is read, and no packet enqueued. -/
theorem readSide_idle {r : Output} (hr : r.conn.readBuffer = c.readBuffer)
    (hr' : r.conn.subscribed = true) (hpackets : r.packets.filterMap id = []) :
    ReadSide c [] r where
  buffer := by rw [List.append_nil, residue_of_forall hbuf, hr]
  packets := by rw [hpackets, List.append_nil, linesOf, frames_of_forall hbuf]; rfl
  subscribed := hr'

theorem readSide_received (bytes : Text) :
    ReadSide c bytes ⟨(c.onReadReady (.received bytes)).1,
      (c.onReadReady (.received bytes)).2.packets, []⟩ := by
  rcases onReadReady_received hbuf bytes with ⟨hlines, hbuffer⟩
  have hpackets : (c.onReadReady (.received bytes)).2.packets
      = (c.onReadReady (.received bytes)).2.lines.flatMap c.handleLine := by
    unfold onReadReady
    dsimp only
    split <;> rfl
  refine ⟨hbuffer, ?_, ?_⟩
  · simp only [hpackets]
    rw [filterMap_handleLine hsub, hlines]
  · unfold onReadReady
    dsimp only
    split <;> exact hsub

omit hbuf in
/-- Writing enqueues nothing but the end of the connection. -/
theorem onWriteReady_readSide (os : List SendOutcome) :
    (c.onWriteReady os).1.readBuffer = c.readBuffer ∧
      (c.onWriteReady os).1.subscribed = true ∧
      (c.onWriteReady os).2.packets.filterMap id = [] := by
  have htrim : ∀ (c' : SocketConnection) (pos : ℕ),
      (c'.trimWriteBuffer pos).readBuffer = c'.readBuffer := by
    intro c' pos
    unfold trimWriteBuffer
    split <;> rfl
  unfold onWriteReady
  split
  · exact ⟨rfl, hsub, rfl⟩
  · simp [htrim, handleError, packetReceived, hsub]
  · simp [htrim, hsub]
  · simp [htrim, hsub]

/-- **The read side of an event**: the packets enqueued are those of the lines that are
complete now, and what is left waits in the buffer. -/
theorem handleEvent_readSide {e : ConnectionEvent} {r : Output} (h : c.handleEvent e = some r) :
    ReadSide c (c.bytesRead e) r := by
  cases e with
  | readReady outcome =>
    simp only [handleEvent] at h
    split at h
    -- the listener is off, and nothing is read
    · next hlistener =>
      cases h
      have hread : c.bytesRead (.readReady outcome) = [] := by
        cases outcome <;> simp_all [bytesRead]
      rw [hread]
      exact readSide_idle hbuf rfl hsub rfl
    · next hlistener =>
      have hlistener : c.readListener = true := by simpa using hlistener
      split at h
      · cases h
      · cases h
        cases outcome with
        | received bytes =>
          rw [bytesRead, if_pos hlistener]
          exact readSide_received hsub hbuf bytes
        | wouldBlock => exact readSide_idle hbuf rfl hsub rfl
        | connectionError =>
          exact readSide_idle hbuf rfl hsub (by simp [onReadReady, handleError, packetReceived, hsub])
        | otherError => exact readSide_idle hbuf rfl hsub rfl
  -- a write and a send take nothing in
  | writeReady outcomes =>
    rcases onWriteReady_readSide hsub outcomes with ⟨hbuffer, hsub', hpackets⟩
    simp only [handleEvent] at h
    split at h
    · cases h
      exact readSide_idle hbuf rfl hsub rfl
    · split at h
      · cases h
      · cases h
        exact readSide_idle hbuf hbuffer hsub' hpackets
  | send packet =>
    simp only [handleEvent] at h
    cases hsend : c.send packet with
    | error f =>
      rw [hsend] at h
      cases h
    | ok result =>
      rw [hsend] at h
      cases result with
      | error e =>
        cases h
        exact readSide_idle hbuf rfl hsub rfl
      | ok c' =>
        cases h
        rcases send_accepted hsend with ⟨-, rfl⟩ | ⟨-, -, -, rfl⟩
        · exact readSide_idle hbuf rfl hsub rfl
        · exact readSide_idle hbuf rfl hsub rfl

end ReadSide

end SocketConnection

/-! ### The queue of packets on their way -/

/-- The line of a packet is complete with its terminators. -/
theorem linesOf_append_line {x text : Text} (hx : residue isEol x = [])
    (htext : hasText text = true) (hline : ∀ c ∈ text, isEol c = false) :
    linesOf (x ++ (text ++ "\r\n".toList)) = linesOf x ++ [text] ∧
      residue isEol (x ++ (text ++ "\r\n".toList)) = [] := by
  have hcut : text ++ "\r\n".toList = text ++ '\r' :: (['\n'] ++ []) := rfl
  have heol : ∀ c ∈ ['\n'], isEol c = true := by simp [isEol]
  constructor
  · rw [linesOf, frames_append, List.filter_append, hx, List.nil_append, hcut]
    have hlines := linesOf_cut [] hline (e := '\r') rfl heol
    rw [htext, if_pos rfl] at hlines
    exact congrArg (linesOf x ++ ·) hlines
  · rw [residue_append, hx, List.nil_append, hcut, residue_cut_skip [] hline rfl heol]
    rfl

/-- The packets of lines that were written for them. -/
theorem packetsIn_of_forall₂ {ps : List Packet} {texts : List Text}
    (h : List.Forall₂ Transmittable ps texts) : packetsIn texts = ps := by
  induction h with
  | nil => rfl
  | cons hp _ ih =>
    rw [packetsIn, List.filterMap_cons, hp.create]
    exact congrArg (_ :: ·) ih

namespace Link

/-- What side `s` has still to write. -/
def unwritten (l : Link) (s : Side) : Text := ((l.ends s).map (·.writeBuffer)).getD []

/-- The connection at side `s` is open and has seen no error. -/
def Sending (l : Link) (s : Side) : Prop := ∃ c, l.ends s = some c ∧ c.gotError = false

/-- The text between the two subscribers, from side `s` to `r` at the other side. -/
def textTo (l : Link) (s : Side) (r : SocketConnection) : Text :=
  r.readBuffer ++ (l.wire s ++ l.unwritten s)

/-- **The packets on their way** from side `s` are those whose lines are in the read
buffer of the other side, on the wire and in the write buffer; what a closed connection
has dropped is lost.  Nobody asks once the other side has closed. -/
def OnTheWay (s : Side) (l : Link) (q : List Packet) : Prop :=
  ∀ r, l.ends s.other = some r → r.subscribed = true ∧ (∀ x ∈ r.readBuffer, isEol x = false) ∧
    ∃ texts lost, List.Forall₂ Transmittable q texts ∧
      linesOf (l.textTo s r ++ lost) = texts ∧ residue isEol (l.textTo s r ++ lost) = [] ∧
      (l.Sending s → lost = [])

/-- Every packet sent in the event comes back from its line. -/
def SendsTransmittable (e : LinkEvent) : Prop :=
  ∀ s p, e = .io s (.send p) → ∃ text, Transmittable p text

theorem packetsSent_cases (c : SocketConnection) (e : ConnectionEvent) :
    c.packetsSent e = [] ∨ ∃ p, e = .send p ∧ c.packetsSent e = [p] ∧ c.gotError = false := by
  cases e with
  | readReady outcome => exact .inl rfl
  | writeReady outcomes => exact .inl rfl
  | send p =>
    simp only [packetsSent]
    split
    · cases hg : c.gotError with
      | true => exact .inl rfl
      | false => exact .inr ⟨p, rfl, rfl, rfl⟩
    · exact .inl rfl

/-- What an event leaves of a link. -/
theorem step_io_cases {l l' : Link} {t : Side} {e : ConnectionEvent}
    (h : l.step (.io t e) = some l') :
    (l.ends t = none ∧ l' = l) ∨ ∃ c r, l.ends t = some c ∧ c.handleEvent e = some r ∧
      l'.ends t = some r.conn ∧ l'.ends t.other = l.ends t.other ∧
      l'.wire t = l.wire t ++ r.taken ∧ l.wire t.other = c.bytesRead e ++ l'.wire t.other := by
  simp only [step] at h
  cases hc : l.ends t with
  | none =>
    rw [hc] at h
    cases h
    exact .inl ⟨rfl, rfl⟩
  | some c =>
    rw [hc] at h
    dsimp only at h
    split at h
    · next hread =>
      rcases Option.map_eq_some_iff.mp h with ⟨r, hr, rfl⟩
      rcases hread.1 with ⟨rest, hrest⟩
      -- the own end, the other one, the bytes written and those read
      refine .inr ⟨c, r, rfl, hr, ?_, ?_, ?_, ?_⟩
      · simp
      · simp
      · simp
      · simp [← hrest]
    · cases h

/-- The direction from the side of the event. -/
theorem onTheWay_from {s : Side} {l l' : Link} {q : List Packet} {e : ConnectionEvent}
    (h : l.OnTheWay s q) (he : SendsTransmittable (.io s e))
    (hstep : l.step (.io s e) = some l') :
    ∃ q', Run.exec Fifo.step q (l.observed s (.io s e)) = some q' ∧ l'.OnTheWay s q' := by
  rcases step_io_cases hstep with ⟨hc, rfl⟩ | ⟨c, o, hc, ho, hc', hother, hwire, -⟩
  · refine ⟨q, ?_, h⟩
    simp [observed, hc, Run.exec]
  · rcases handleEvent_writeSide ho with ⟨htaken, hgot⟩
    -- the text on its way grows by the lines that are sent
    have htext : ∀ r, l'.textTo s r = l.textTo s r ++ (c.packetsSent e).flatMap lineOf := by
      intro r
      simp only [textTo, unwritten, hc, hc', hwire, Option.map_some, Option.getD_some]
      rw [List.append_assoc (l.wire s), htaken]
      simp
    have hobs : l.observed s (.io s e) = (c.packetsSent e).map .put := by simp [observed, hc]
    have hsending : l'.Sending s → l.Sending s := by
      rintro ⟨c₁, hc₁, hg⟩
      rw [hc'] at hc₁
      cases hc₁
      exact ⟨c, hc, hgot hg⟩
    rw [hobs]
    -- a packet is sent, or nothing is
    rcases packetsSent_cases c e with hnone | ⟨p, rfl, hsent, hg⟩
    · refine ⟨q, by simp [hnone, Run.exec], fun r hr => ?_⟩
      rcases h r (hother ▸ hr) with ⟨hsub, hbuf, texts, lost, hall, hlines, hres, hlost⟩
      refine ⟨hsub, hbuf, texts, lost, hall, ?_, ?_, fun hs => hlost (hsending hs)⟩
      · rw [htext, hnone]
        simpa using hlines
      · rw [htext, hnone]
        simpa using hres
    · refine ⟨q ++ [p], by simp [hsent, Run.exec], fun r hr => ?_⟩
      rcases he s p rfl with ⟨text, htransmit⟩
      rcases h r (hother ▸ hr) with ⟨hsub, hbuf, texts, lost, hall, hlines, hres, hlost⟩
      -- while the sender has seen no error nothing is lost
      rw [hlost ⟨c, hc, hg⟩, List.append_nil] at hlines hres
      rcases linesOf_append_line hres htransmit.has_text htransmit.one_line with ⟨hl, hr'⟩
      refine ⟨hsub, hbuf, texts ++ [text], [], ?_, ?_, ?_, fun _ => rfl⟩
      · exact List.rel_append hall (.cons htransmit .nil)
      · rw [List.append_nil, htext, hsent, List.flatMap_singleton, htransmit.lineOf, hl, hlines]
      · rw [List.append_nil, htext, hsent, List.flatMap_singleton, htransmit.lineOf, hr']

/-- The direction to the side of the event. -/
theorem onTheWay_to {s : Side} {l l' : Link} {q : List Packet} {e : ConnectionEvent}
    (h : l.OnTheWay s q) (hstep : l.step (.io s.other e) = some l') :
    ∃ q', Run.exec Fifo.step q (l.observed s (.io s.other e)) = some q' ∧ l'.OnTheWay s q' := by
  rcases step_io_cases hstep with ⟨hc, rfl⟩ | ⟨r, o, hr, ho, hr', hother, -, hread⟩
  · refine ⟨q, ?_, h⟩
    simp [observed, hc, Run.exec]
  · have hss : s.other.other = s := by cases s <;> rfl
    rw [hss] at hother hread
    rcases h r hr with ⟨hsub, hbuf, texts, lost, hall, hlines, hres, hlost⟩
    rcases handleEvent_readSide hsub hbuf ho with ⟨hbuffer, hpackets, hsub'⟩
    have hunwritten : l'.unwritten s = l.unwritten s := by rw [unwritten, unwritten, hother]
    -- what was read, and the text that is still on its way
    have htext : l.textTo s r ++ lost
        = (r.readBuffer ++ r.bytesRead e) ++ (l'.wire s ++ (l'.unwritten s ++ lost)) := by
      rw [textTo, hread, hunwritten]
      simp
    have htext' : l'.textTo s o.conn ++ lost
        = residue isEol (r.readBuffer ++ r.bytesRead e)
          ++ (l'.wire s ++ (l'.unwritten s ++ lost)) := by
      rw [textTo, hbuffer]
      simp
    have hsplit : linesOf (r.readBuffer ++ r.bytesRead e) ++ linesOf (l'.textTo s o.conn ++ lost)
        = texts := by
      rw [htext', ← hlines, htext, linesOf, linesOf, linesOf, ← List.filter_append,
        ← frames_append]
    rw [← hsplit] at hall
    -- so many packets are complete
    obtain ⟨n, hps, hq'⟩ : ∃ n, List.Forall₂ Transmittable (q.take n) _ ∧
        List.Forall₂ Transmittable (q.drop n) _ :=
      ⟨_, List.forall₂_take_append _ _ _ hall, List.forall₂_drop_append _ _ _ hall⟩
    have hobs : l.observed s (.io s.other e) = (q.take n).map .take := by
      have hne : s.other ≠ s := s.other_ne
      simp only [observed, hr, ho, if_neg hne]
      rw [hpackets, packetsIn_of_forall₂ hps]
    have hexec := Fifo.exec_map_take (q.take n) (q.drop n)
    rw [List.take_append_drop] at hexec
    refine ⟨q.drop n, by rw [hobs, hexec], fun r₁ hr₁ => ?_⟩
    rw [hr'] at hr₁
    cases hr₁
    refine ⟨hsub', ?_, _, lost, hq', rfl, ?_, ?_⟩
    · rw [hbuffer]
      exact residue_forall _
    · rw [htext', ← residue_append, ← htext]
      exact hres
    · rintro ⟨c, hc, hg⟩
      exact hlost ⟨c, hother ▸ hc, hg⟩

/-- An owner closes its connection. -/
theorem onTheWay_close {s t : Side} {l : Link} {q : List Packet} (h : l.OnTheWay s q) :
    OnTheWay s { l with ends := Function.update l.ends t none } q := by
  intro r hr
  rcases Side.eq_or_eq_other s t with rfl | rfl
  · -- the write buffer is dropped
    have hr : l.ends t.other = some r := by simpa using hr
    rcases h r hr with ⟨hsub, hbuf, texts, lost, hall, hlines, hres, -⟩
    have htext : l.textTo t r ++ lost
        = textTo { l with ends := Function.update l.ends t none } t r ++ (l.unwritten t ++ lost) := by
      simp [textTo, unwritten]
    rw [htext] at hlines hres
    refine ⟨hsub, hbuf, texts, _, hall, hlines, hres, ?_⟩
    rintro ⟨c, hc, -⟩
    simp at hc
  · simp at hr

/-- **Every step of a link is a run of the queue**, in either direction. -/
theorem step_onTheWay {s : Side} {l l' : Link} {q : List Packet} {e : LinkEvent}
    (h : l.OnTheWay s q) (he : SendsTransmittable e) (hstep : l.step e = some l') :
    ∃ q', Run.exec Fifo.step q (l.observed s e) = some q' ∧ l'.OnTheWay s q' := by
  cases e with
  | close t =>
    cases hstep
    exact ⟨q, rfl, onTheWay_close h⟩
  | io t e =>
    rcases Side.eq_or_eq_other s t with rfl | rfl
    · exact onTheWay_from h he hstep
    · exact onTheWay_to h hstep

/-- Nothing is on its way when a link is opened. -/
theorem onTheWay_opened (s : Side) : opened.OnTheWay s [] := by
  intro r hr
  cases hr
  exact ⟨rfl, by simp [fresh, subscribe, unsubscribe], [], [], .nil, rfl, rfl, fun _ => rfl⟩

/-- What is on its way behind a run is the queue of what was seen. -/
theorem exists_queue (es : List LinkEvent) (hes : ∀ e ∈ es, SendsTransmittable e) (s : Side) :
    ∃ q, Run.exec Fifo.step [] (Run.observations step (observed s) opened es) = some q ∧
      (Run.last step opened es).OnTheWay s q :=
  Run.exec_observations
    (C := fun _ e => SendsTransmittable e) (fun _ _ _ _ h he hstep => step_onTheWay h he hstep)
    es opened [] (onTheWay_opened s) fun t ht => hes _ (Run.mem_of_mem_trace ht)

/-- **A link is a queue of packets in either direction**: over any run, with any cuts of
the stream, any failures and any closing, the packets accepted by `send` at one side and
those enqueued for the subscriber at the other are the puts and takes of a queue; so what
arrives is always the beginning of what was sent. -/
theorem refines_fifo (es : List LinkEvent) (hes : ∀ e ∈ es, SendsTransmittable e) (s : Side) :
    let seen := Run.observations step (observed s) opened es
    (∃ q, Run.exec Fifo.step [] seen = some q ∧ (Run.last step opened es).OnTheWay s q) ∧
      takes seen <+: puts seen := by
  intro seen
  obtain ⟨q, hq, hway⟩ := exists_queue es hes s
  exact ⟨⟨q, hq, hway⟩, Fifo.takes_prefix hq⟩

/-- A request, which the left side sends. -/
def sampleRequest : Message := ⟨.request, 0x1f, 0xde5e, Body.nil⟩

/-- The socket takes five bytes of the request's line, and the right side reads two of
them. -/
def sampleTransfer : List LinkEvent :=
  [.io .left (.send (.message sampleRequest)), .io .left (.writeReady [.accepted 5, .wouldBlock]),
    .io .right (.readReady (.received "de".toList))]

theorem sendsTransmittable_sampleTransfer : ∀ e ∈ sampleTransfer, SendsTransmittable e := by
  intro e he s p hp
  subst hp
  simp only [sampleTransfer, List.mem_cons, LinkEvent.io.injEq, ConnectionEvent.send.injEq,
    List.not_mem_nil, reduceCtorEq, and_false, or_false] at he
  exact ⟨_, he.2 ▸ transmittable_message fun _ => rfl⟩

/-- The request is on its way. -/
theorem refines_fifo_sample :
    (∀ e ∈ sampleTransfer, SendsTransmittable e) ∧
      let seen := Run.observations step (observed .left) opened sampleTransfer
      (∃ q, Run.exec Fifo.step [] seen = some q ∧
        (Run.last step opened sampleTransfer).OnTheWay .left q) ∧ takes seen <+: puts seen :=
  ⟨sendsTransmittable_sampleTransfer,
    refines_fifo sampleTransfer sendsTransmittable_sampleTransfer .left⟩

/-! ### Bringing everything over -/

/-- What the connections of a link have in common: until an error is seen both listeners
do their work. -/
def Listening (c : SocketConnection) : Prop :=
  c.gotError = false →
    c.subscribed = true ∧ c.readListener = true ∧ (c.writeBuffer ≠ [] → c.writeListener = true)

theorem listening_handleEvent {c : SocketConnection} {e : ConnectionEvent} {r : Output}
    (hc : Listening c) (h : c.handleEvent e = some r) : Listening r.conn := by
  intro hg
  -- an error once seen stays, so the end listened before
  rcases hc ((handleEvent_writeSide h).2 hg) with ⟨hsub, hread, hwrite⟩
  cases e with
  | readReady outcome =>
    simp only [handleEvent] at h
    split at h
    · cases h
      exact ⟨hsub, hread, hwrite⟩
    · split at h
      · cases h
      · cases h
        cases outcome with
        | received bytes =>
          unfold onReadReady
          dsimp only
          split <;> exact ⟨hsub, hread, hwrite⟩
        | wouldBlock => exact ⟨hsub, hread, hwrite⟩
        | connectionError => simp [onReadReady, handleError] at hg
        | otherError => exact ⟨hsub, hread, hwrite⟩
  | writeReady outcomes =>
    simp only [handleEvent] at h
    split at h
    · cases h
      exact ⟨hsub, hread, hwrite⟩
    · next hlistener =>
      have hlistener : c.writeListener = true := by simpa using hlistener
      split at h
      · cases h
      · cases h
        -- what is left in the buffer is waited for
        have htrim : ∀ pos, (c.trimWriteBuffer pos).writeBuffer ≠ [] →
            (c.trimWriteBuffer pos).writeListener = true :=
          fun pos hne => (trimWriteBuffer_writeListener_iff c pos).mpr ⟨hlistener, hne⟩
        unfold onWriteReady at hg ⊢
        split at hg
        · exact ⟨hsub, hread, hwrite⟩
        · simp [handleError] at hg
        · exact ⟨by simpa using hsub, by simpa using hread, htrim _⟩
        · exact ⟨by simpa using hsub, by simpa using hread, htrim _⟩
  | send packet =>
    simp only [handleEvent] at h
    cases hsend : c.send packet with
    | error f =>
      rw [hsend] at h
      cases h
    | ok result =>
      rw [hsend] at h
      cases result with
      | error e =>
        cases h
        exact ⟨hsub, hread, hwrite⟩
      | ok c' =>
        cases h
        rcases send_accepted hsend with ⟨-, rfl⟩ | ⟨-, -, -, rfl⟩
        · exact ⟨hsub, hread, hwrite⟩
        · exact ⟨hsub, hread, fun _ => rfl⟩

/-- Every open connection of the link listens. -/
def AllListening (l : Link) : Prop := ∀ s c, l.ends s = some c → Listening c

theorem allListening_step {l l' : Link} {e : LinkEvent} (h : l.AllListening)
    (hstep : l.step e = some l') : l'.AllListening := by
  cases e with
  | close t =>
    cases hstep
    intro s c hc
    by_cases hst : s = t
    · simp [hst] at hc
    · exact h s c (by simpa [Function.update_of_ne hst] using hc)
  | io t e =>
    rcases step_io_cases hstep with ⟨-, rfl⟩ | ⟨c, r, hc, hr, hc', hother, -, -⟩
    · exact h
    · intro s c₁ hc₁
      rcases Side.eq_or_eq_other t s with rfl | rfl
      · rw [hc'] at hc₁
        cases hc₁
        exact listening_handleEvent (h _ c hc) hr
      · exact h _ c₁ (hother ▸ hc₁)

theorem allListening_opened : opened.AllListening := by
  intro s c hc
  cases hc
  exact fun _ => ⟨rfl, rfl, fun h => absurd rfl h⟩

/-- The socket takes what there is to write. -/
theorem handleEvent_flush {c : SocketConnection} (hne : c.writeBuffer ≠ [])
    (hwrite : c.writeListener = true) :
    c.handleEvent (.writeReady [.accepted c.writeBuffer.length])
      = some { conn := { c with writeBuffer := [], writeListener := false }
               taken := c.writeBuffer } := by
  have hpos : ¬ c.writeBuffer.length ≤ 0 := by simpa using hne
  have hloop : writeLoop c.writeBuffer.length [.accepted c.writeBuffer.length] 0
      = (c.writeBuffer.length, .drained) := by
    simp [writeLoop, hne]
  simp [handleEvent, hwrite, onWriteReady, hloop, trimWriteBuffer, sendCalls, hne, bytesTaken]

/-- An event that moves bytes, and nothing else. -/
def IsTransfer : LinkEvent → Prop
  | .io _ (.readReady _) => True
  | .io _ (.writeReady _) => True
  | _ => False

/-- Reading in pieces brings over what is on the wire. -/
theorem exists_delivery {s : Side} : ∀ (n : ℕ) (l : Link) (r : SocketConnection),
    (l.wire s).length ≤ n → l.ends s.other = some r → r.readListener = true →
    ∃ fs l', (∀ e ∈ fs, IsTransfer e) ∧ Run.exec step l fs = some l' ∧ l'.wire s = [] ∧
      l'.ends s = l.ends s ∧ (l'.ends s.other).isSome = true := by
  intro n
  induction n with
  | zero =>
    intro l r hn hr _
    exact ⟨[], l, by simp, rfl, List.length_eq_zero_iff.mp (Nat.le_zero.mp hn), rfl, by simp [hr]⟩
  | succ n ih =>
    intro l r hn hr hread
    -- the wire is empty, or there is a piece of at most the limit to read
    by_cases hnil : l.wire s = []
    · exact ⟨[], l, by simp, rfl, hnil, rfl, by simp [hr]⟩
    · have hss : s.other.other = s := by cases s <;> rfl
      have hpos : 0 < (l.wire s).length := List.length_pos_iff.mpr hnil
      obtain ⟨bytes, hbytes⟩ : ∃ bytes, bytes = (l.wire s).take readLimit := ⟨_, rfl⟩
      have hlength : bytes.length = min readLimit (l.wire s).length := by
        rw [hbytes, List.length_take]
      have hne : bytes.length ≠ 0 := by
        have : 0 < readLimit := by decide
        omega
      obtain ⟨o, ho, hread'⟩ : ∃ o, r.handleEvent (.readReady (.received bytes)) = some o ∧
          o.conn.readListener = true := by
        simp [handleEvent, hread, onReadReady, hne]
      have hpiece : r.bytesRead (.readReady (.received bytes)) = bytes := by simp [bytesRead, hread]
      obtain ⟨m, hstep⟩ : ∃ m, l.step (.io s.other (.readReady (.received bytes))) = some m := by
        have hprefix : bytes <+: l.wire s := hbytes ▸ List.take_prefix _ _
        have hle : bytes.length ≤ readLimit := by omega
        simp [step, hr, hpiece, hss, hprefix, hle, ho]
      rcases step_io_cases hstep with ⟨hnone, -⟩ | ⟨r', o', hr', ho', hends', hother, -, hwire⟩
      · rw [hr] at hnone
        cases hnone
      · rw [hr] at hr'
        cases hr'
        rw [ho] at ho'
        cases ho'
        rw [hss, hpiece] at hwire
        rw [hss] at hother
        -- the piece is not empty, so less is left
        have hlt : (m.wire s).length ≤ n := by
          have := congrArg List.length hwire
          rw [List.length_append] at this
          omega
        rcases ih m o.conn hlt hends' hread' with ⟨fs, l', hfs, hexec, hempty, hsame, hopen⟩
        refine ⟨.io s.other (.readReady (.received bytes)) :: fs, l',
          List.forall_mem_cons.mpr ⟨trivial, hfs⟩, ?_, hempty, hsame.trans hother, hopen⟩
        rw [Run.exec, hstep]
        exact hexec

/-- Writing puts on the wire what is in the write buffer. -/
theorem exists_flush {s : Side} {l : Link} {c : SocketConnection} (hc : l.ends s = some c)
    (hg : c.gotError = false) (hwrite : c.writeBuffer ≠ [] → c.writeListener = true) :
    ∃ fs l', (∀ e ∈ fs, IsTransfer e) ∧ Run.exec step l fs = some l' ∧ l'.unwritten s = [] ∧
      l'.Sending s ∧ l'.ends s.other = l.ends s.other := by
  by_cases hnil : c.writeBuffer = []
  · exact ⟨[], l, by simp, rfl, by simp [unwritten, hc, hnil], ⟨c, hc, hg⟩, rfl⟩
  · have hevent := handleEvent_flush hnil (hwrite hnil)
    obtain ⟨m, hstep⟩ :
        ∃ m, l.step (.io s (.writeReady [.accepted c.writeBuffer.length])) = some m := by
      simp [step, hc, bytesRead, hevent]
    rcases step_io_cases hstep with ⟨hnone, -⟩ | ⟨c', o, hc', ho, hends, hother, -, -⟩
    · rw [hc] at hnone
      cases hnone
    · rw [hc] at hc'
      cases hc'
      rw [hevent] at ho
      cases ho
      refine ⟨[.io s (.writeReady [.accepted c.writeBuffer.length])], m, by simp [IsTransfer], ?_, ?_,
        ⟨_, hends, hg⟩, hother⟩
      · rw [Run.exec, hstep]
        rfl
      · simp [unwritten, hends]

/-- Nothing is sent by moving bytes. -/
theorem puts_eq_nil_of_transfer {s : Side} : ∀ {fs : List LinkEvent} {l : Link},
    (∀ e ∈ fs, IsTransfer e) → puts (Run.observations step (observed s) l fs) = [] := by
  intro fs
  induction fs with
  | nil => intro l _; rfl
  | cons e fs ih =>
    intro l h
    unfold Run.observations
    cases l.step e with
    | none => rfl
    | some l' =>
      rcases List.forall_mem_cons.mp h with ⟨he, hfs⟩
      rw [puts_append, ih hfs, List.append_nil]
      -- a transfer sends no packet
      cases e with
      | close t => rfl
      | io t e =>
        unfold observed
        dsimp only
        cases l.ends t with
        | none => rfl
        | some c =>
          dsimp only
          split
          · cases e with
            | readReady outcome => rfl
            | writeReady outcomes => rfl
            | send p => cases he
          · cases c.handleEvent e <;> simp [puts]

/-- **What was sent can always be brought over**: as long as both ends are open and have
seen no error, some writing and reading makes everything arrive. -/
theorem drained (es : List LinkEvent) (hes : ∀ e ∈ es, SendsTransmittable e) {l : Link}
    (hl : Run.exec step opened es = some l) (s : Side) (hsend : l.Sending s)
    (hreceive : l.Sending s.other) :
    ∃ fs, (∀ e ∈ fs, IsTransfer e) ∧
      takes (Run.observations step (observed s) opened (es ++ fs))
        = puts (Run.observations step (observed s) opened es) := by
  have hlisten : l.AllListening :=
    (Run.always_of_step (fun _ _ _ h hstep => allListening_step h hstep) es opened
      allListening_opened).exec hl
  rcases hsend with ⟨c, hc, hg⟩
  rcases hreceive with ⟨r, hr, hgr⟩
  -- the sender writes all it has, then the receiver reads
  rcases exists_flush hc hg (hlisten s c hc hg).2.2 with
    ⟨fs₁, l₁, hfs₁, hexec₁, hunwritten, hsending, hother⟩
  rcases exists_delivery _ l₁ r le_rfl (hother.trans hr) (hlisten _ r hr hgr).2.1 with
    ⟨fs₂, l₂, hfs₂, hexec₂, hwire, hends, hopen⟩
  have htransfer : ∀ e ∈ fs₁ ++ fs₂, IsTransfer e :=
    List.forall_mem_append.mpr ⟨hfs₁, hfs₂⟩
  have hsends : ∀ e ∈ es ++ (fs₁ ++ fs₂), SendsTransmittable e := by
    refine List.forall_mem_append.mpr ⟨hes, fun e he t p hp => ?_⟩
    have := htransfer e he
    simp [hp, IsTransfer] at this
  have hexec : Run.exec step l (fs₁ ++ fs₂) = some l₂ := by
    rw [Run.exec_append, hexec₁]
    exact hexec₂
  refine ⟨fs₁ ++ fs₂, htransfer, ?_⟩
  rcases exists_queue _ hsends s with ⟨q, hq, hway⟩
  have hlast : Run.last step opened (es ++ (fs₁ ++ fs₂)) = l₂ := by
    apply Run.last_of_exec
    rw [Run.exec_append, hl]
    exact hexec
  -- nothing is on its way any more
  have hempty : q = [] := by
    rw [hlast] at hway
    rcases Option.isSome_iff_exists.mp hopen with ⟨r₂, hr₂⟩
    rcases hway r₂ hr₂ with ⟨-, hbuf, texts, lost, hall, hlines, -, hlost⟩
    have hsending₂ : l₂.Sending s := by
      rcases hsending with ⟨c₁, hc₁, hg₁⟩
      exact ⟨c₁, hends.trans hc₁, hg₁⟩
    have hunwritten₂ : l₂.unwritten s = [] := by rw [← hunwritten, unwritten, unwritten, hends]
    rw [hlost hsending₂, textTo, hwire, hunwritten₂, List.append_nil, List.append_nil,
      List.append_nil, linesOf, frames_of_forall hbuf, List.filter_nil] at hlines
    rw [← hlines] at hall
    cases hall
    rfl
  -- what went in has come out, or is still in the queue
  have hputs := Fifo.append_puts hq
  rw [hempty, List.nil_append, List.append_nil] at hputs
  rw [← hputs, Run.observations_append _ hl, puts_append, puts_eq_nil_of_transfer htransfer,
    List.append_nil]

/-- The rest of the request can be brought over. -/
theorem drained_sample : ∃ l, Run.exec step opened sampleTransfer = some l ∧
    l.Sending .left ∧ l.Sending .right ∧ ∃ fs, (∀ e ∈ fs, IsTransfer e) ∧
      takes (Run.observations step (observed .left) opened (sampleTransfer ++ fs))
        = puts (Run.observations step (observed .left) opened sampleTransfer) := by
  have hl : ∃ l, Run.exec step opened sampleTransfer = some l ∧ l.Sending .left ∧
      l.Sending .right := ⟨_, rfl, ⟨_, rfl, rfl⟩, ⟨_, rfl, rfl⟩⟩
  rcases hl with ⟨l, hl, hleft, hright⟩
  exact ⟨l, hl, hleft, hright, drained sampleTransfer sendsTransmittable_sampleTransfer hl .left
    hleft hright⟩

end Link
end HomeAutomation
