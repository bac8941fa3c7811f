import HomeAutomation.Proto.Message

/-!
# Socket connections

A connection reads bytes, cuts them into lines and hands the packets they denote
to its subscriber; it queues outgoing packets and writes them when the socket
takes bytes.  What the socket does is an input: the outcome of the `recv` call of
`on_read_ready` and the outcomes, in order, of the `send` calls of
`on_write_ready`.

A handler's effects outside the object are returned beside it: the lines given
to `handle_line`, the packets enqueued for the subscriber (`none` is the null
packet) and the exception it left with.

## Main definitions

* `SocketConnection` — the object.
* `readLines` — the loop of `on_read_ready` over its buffer.
* `onReadReady`, `onWriteReady`, `handleError` — the event handlers.
* `subscribe`, `unsubscribe`, `send` — the calls of its owner.

## References

`common/source/proto/SocketConnection.cpp`, `common/source/proto/Connection.cpp`.
-/

namespace HomeAutomation

open Str

/-- `write_buffer_limit`. -/
def writeBufferLimit : ℕ := 1024 * 1024

/-- The outcome of one `recv` call. -/
inductive RecvOutcome
  /-- The bytes received; none at all is the peer's orderly end of stream. -/
  | received (bytes : Text)
  /-- `EAGAIN` or `EWOULDBLOCK`. -/
  | wouldBlock
  /-- `EPIPE`, `ETIMEDOUT` or `ECONNRESET`. -/
  | connectionError
  /-- Any other error. -/
  | otherError
  deriving DecidableEq

/-- The outcome of one `send` call. -/
inductive SendOutcome
  /-- The number of bytes the socket takes of those offered. -/
  | accepted (n : ℕ)
  | wouldBlock
  | connectionError
  | otherError
  deriving DecidableEq

/-- A `SocketConnection` with its base class. -/
structure SocketConnection where
  /-- `packet_handler_` is set. -/
  subscribed : Bool
  readListener : Bool
  writeListener : Bool
  readBuffer : Text
  writeBuffer : Text
  gotError : Bool
  deriving DecidableEq

/-- What a handler does outside the object. -/
structure Effects where
  /-- The calls of `handle_line`, in order. -/
  lines : List Text := []
  /-- The packets enqueued for the subscriber, in order. -/
  packets : List (Option Packet) := []
  /-- The exception the handler left with. -/
  thrown : Option Exception := none

namespace SocketConnection

/-- A connection as it is constructed. -/
def fresh : SocketConnection := ⟨false, false, false, [], [], false⟩

/-! ### Reading -/

/-- The line terminators. -/
def isEol (c : Char) : Bool := c == '\r' || c == '\n'

/-- `line.find_first_not_of(" \t") != npos`. -/
def hasText (line : Text) : Bool := findFirstNotOf isBlank line 0 ≠ none

/-- The loop of `on_read_ready` from offset `start` on: the lines it hands over
and the buffer it leaves.  Every turn moves `start` forward, so the number of
turns is bounded by the number of characters. -/
def readLoop (buffer : Text) : ℕ → ℕ → List Text × Text
  | 0, start => ([], buffer.drop start)
  | fuel + 1, start =>
    match findFirstOf isEol buffer start with
    | none => ([], buffer.drop start)
    | some stop =>
      let line := substr buffer start (stop - start)
      let handled := if hasText line then [line] else []
      match findFirstNotOf isEol buffer stop with
      | none => (handled, [])
      | some start =>
        let rest := readLoop buffer fuel start
        (handled ++ rest.1, rest.2)

/-- The lines `on_read_ready` takes out of its buffer, and what it leaves there. -/
def readLines (buffer : Text) : List Text × Text := readLoop buffer (buffer.length + 1) 0

/-- `Connection::packet_received`. -/
def packetReceived (c : SocketConnection) (packet : Option Packet) : List (Option Packet) :=
  if c.subscribed then [packet] else []

/-- `handle_line`: a line that does not parse is dropped. -/
def handleLine (c : SocketConnection) (line : Text) : List (Option Packet) :=
  match Packet.create line with
  | .error _ => []
  | .ok packet => c.packetReceived (some packet)

/-- `handle_error`. -/
def handleError (c : SocketConnection) : SocketConnection × List (Option Packet) :=
  let c := { c with gotError := true, readListener := false, writeListener := false }
  (c, c.packetReceived none)

/-- `on_read_ready`. -/
def onReadReady (c : SocketConnection) : RecvOutcome → SocketConnection × Effects
  | .wouldBlock => (c, {})
  | .connectionError =>
    let r := c.handleError
    (r.1, { packets := r.2 })
  | .otherError => (c, { thrown := some (.runtimeError "recv error") })
  | .received bytes =>
    if bytes.length = 0 then (c, {})
    else
      let r := readLines (c.readBuffer ++ bytes)
      ({ c with readBuffer := r.2 }, { lines := r.1, packets := r.1.flatMap c.handleLine })

/-! ### Writing -/

/-- How the loop of `on_write_ready` ends. -/
inductive WriteEnd
  | drained
  | wouldBlock
  | connectionError
  | otherError
  deriving DecidableEq

/-- The loop of `on_write_ready` from offset `pos` on: the offset it stops at,
and why. -/
def writeLoop (len : ℕ) : List SendOutcome → ℕ → ℕ × WriteEnd
  | [], pos => (pos, if len ≤ pos then .drained else .wouldBlock)
  | o :: os, pos =>
    if len ≤ pos then (pos, .drained)
    else
      match o with
      | .wouldBlock => (pos, .wouldBlock)
      | .connectionError => (pos, .connectionError)
      | .otherError => (pos, .otherError)
      | .accepted n => writeLoop len os (pos + min n (len - pos))

/-- The end of `on_write_ready`, behind the loop. -/
def trimWriteBuffer (c : SocketConnection) (pos : ℕ) : SocketConnection :=
  if pos < c.writeBuffer.length then { c with writeBuffer := c.writeBuffer.drop pos }
  else { c with writeBuffer := [], writeListener := false }

@[simp] theorem trimWriteBuffer_subscribed (c : SocketConnection) (pos : ℕ) :
    (c.trimWriteBuffer pos).subscribed = c.subscribed := by
  unfold trimWriteBuffer
  split <;> rfl

@[simp] theorem trimWriteBuffer_gotError (c : SocketConnection) (pos : ℕ) :
    (c.trimWriteBuffer pos).gotError = c.gotError := by
  unfold trimWriteBuffer
  split <;> rfl

@[simp] theorem trimWriteBuffer_readListener (c : SocketConnection) (pos : ℕ) :
    (c.trimWriteBuffer pos).readListener = c.readListener := by
  unfold trimWriteBuffer
  split <;> rfl

/-- Trimming the buffer never starts the write listener. -/
theorem trimWriteBuffer_writeListener {c : SocketConnection} (hc : c.writeListener = false)
    (pos : ℕ) : (c.trimWriteBuffer pos).writeListener = false := by
  unfold trimWriteBuffer
  split
  · exact hc
  · rfl

/-- `on_write_ready`. -/
def onWriteReady (c : SocketConnection) (outcomes : List SendOutcome) :
    SocketConnection × Effects :=
  match writeLoop c.writeBuffer.length outcomes 0 with
  | (_, .otherError) => (c, { thrown := some (.runtimeError "send error") })
  | (pos, .connectionError) =>
    let r := c.handleError
    (r.1.trimWriteBuffer pos, { packets := r.2 })
  | (pos, .wouldBlock) => (c.trimWriteBuffer pos, {})
  | (pos, .drained) => (c.trimWriteBuffer pos, {})

/-- `impl_send`.  An exception leaves the connection as it was. -/
def send (c : SocketConnection) (packet : Packet) :
    Except Fault (Except Exception SocketConnection) :=
  if c.gotError then .ok (.ok c)
  else
    match packet.convertToString with
    | .error f => .error f
    | .ok packetString =>
      let line := packetString ++ "\r\n".toList
      if c.writeBuffer.length + line.length > writeBufferLimit then
        .ok (.error (.rangeError "write buffer limit exceeded"))
      else .ok (.ok { c with writeBuffer := c.writeBuffer ++ line, writeListener := true })

/-- What `send` does with a packet whose text is known. -/
theorem send_eq {c : SocketConnection} {packet : Packet} {text : Text} (hc : c.gotError = false)
    (hp : packet.convertToString = .ok text) :
    c.send packet =
      if c.writeBuffer.length + (text ++ "\r\n".toList).length > writeBufferLimit then
        .ok (.error (.rangeError "write buffer limit exceeded"))
      else .ok (.ok { c with
        writeBuffer := c.writeBuffer ++ (text ++ "\r\n".toList), writeListener := true }) := by
  unfold send
  rw [if_neg (by simp [hc]), hp]

/-! ### Subscribing -/

/-- `unsubscribe`, with `impl_unsubscribe`.  The read buffer is kept. -/
def unsubscribe (c : SocketConnection) : SocketConnection :=
  if c.subscribed then
    { c with subscribed := false, readListener := false, writeListener := false, writeBuffer := [] }
  else c

/-- `subscribe`, with `impl_subscribe`. -/
def subscribe (c : SocketConnection) : SocketConnection :=
  { c.unsubscribe with subscribed := true, readListener := true }

end SocketConnection
end HomeAutomation
