import HomeAutomation.Lib.Run
import HomeAutomation.Router.State

/-!
# Runs of the router

The event loop runs one handler at a time.  An event is a call of a handler with
what the outside world decides about it; `step` runs it, and is `none` when the
program does not come back from it.

A packet event may carry any packet at any time, whether or not the connection
has read such a line: the runs here include those of the program.

## Main definitions

* `Event` — the events.
* `State.step` — one event.

## References

`router/Router.cpp`, `common/source/util/EventLoop.cpp`.
-/

namespace HomeAutomation
namespace Router

/-- What the event loop runs. -/
inductive Event
  /-- A call of `start`; what each listen and each connect call does. -/
  | start (listens connects : ℕ → Bool)
  /-- A call of `stop`. -/
  | stop
  /-- A client connects. -/
  | accept
  /-- A client's connection hands over a packet; `unset` is the truth value that
  `handle_filter` leaves undetermined. -/
  | clientPacket (connectionId : ℕ) (packet : Option Packet) (unset : Bool)
  /-- A client's socket can be read. -/
  | clientRead (connectionId : ℕ) (outcome : RecvOutcome)
  /-- A client's socket can be written. -/
  | clientWrite (connectionId : ℕ) (outcomes : List SendOutcome)
  /-- A network's connection hands over a packet. -/
  | devicePacket (networkIndex : ℕ) (packet : Option Packet)
  /-- A network's socket can be read. -/
  | networkRead (networkIndex : ℕ) (outcome : RecvOutcome)
  /-- A network's socket can be written. -/
  | networkWrite (networkIndex : ℕ) (outcomes : List SendOutcome)
  /-- The send timer expires. -/
  | sendTick
  /-- The reconnect timer expires; what each connect call does. -/
  | reconnectTick (connects : ℕ → Bool)

/-- A handler of a socket, run when its listener is active. -/
def ioHandler (active : Bool) (c : SocketConnection) (run : SocketConnection × Effects) :
    Except Fault SocketConnection :=
  if !active then .ok c
  else
    match run.2.thrown with
    | some _ => .error .uncaught
    | none => .ok run.1

namespace State

/-- A handler of a client's socket. -/
def onClientSocket (s : State) (connectionId : ℕ)
    (handler : SocketConnection → Except Fault SocketConnection) : Except Fault State :=
  match s.connections.find connectionId with
  | none => .ok s
  | some c => do
    let c ← handler c
    return { s with connections := s.connections.insert connectionId c }

/-- A handler of a network's socket. -/
def onNetworkSocket (s : State) (networkIndex : ℕ)
    (handler : SocketConnection → Except Fault SocketConnection) : Except Fault State :=
  match s.networks[networkIndex]? with
  | none => .ok s
  | some r =>
    match r.connection with
    | none => .ok s
    | some c => do
      let c ← handler c
      return { s with networks := s.networks.set networkIndex { r with connection := some c } }

/-- The handler of each event. -/
def handle (config : Config) (s : State) : Event → Except Fault State
  | .start listens connects => (s.start listens connects).map Prod.fst
  | .stop => s.stop
  | .accept => s.onAcceptedConnection
  | .clientPacket id packet unset => s.onConnectionPacketReceived config packet id unset
  | .clientRead id outcome =>
    s.onClientSocket id fun c => ioHandler c.readListener c (c.onReadReady outcome)
  | .clientWrite id outcomes =>
    s.onClientSocket id fun c => ioHandler c.writeListener c (c.onWriteReady outcomes)
  | .devicePacket i packet => s.onDevicePacketReceived config packet i
  | .networkRead i outcome =>
    s.onNetworkSocket i fun c => ioHandler c.readListener c (c.onReadReady outcome)
  | .networkWrite i outcomes =>
    s.onNetworkSocket i fun c => ioHandler c.writeListener c (c.onWriteReady outcomes)
  -- a timer is stopped before its callback runs
  | .sendTick => if s.sendTimer then onSendTimer { s with sendTimer := false } else .ok s
  | .reconnectTick connects =>
    if s.reconnectTimeout then
      .ok (onReconnectTimeout { s with reconnectTimeout := false } connects)
    else .ok s

/-- A start that comes back. -/
theorem start_of_handle {config : Config} {s s' : State} {listens connects : ℕ → Bool}
    (h : s.handle config (.start listens connects) = .ok s') :
    ∃ r, s.start listens connects = .ok r ∧ r.1 = s' := by
  rw [handle] at h
  cases hstart : s.start listens connects with
  | error f =>
    rw [hstart] at h
    cases h
  | ok r =>
    rw [hstart] at h
    cases h
    exact ⟨r, rfl, rfl⟩

/-- **One event of the router.** -/
def step (config : Config) (s : State) (e : Event) : Option State := (s.handle config e).toOption

theorem step_eq_some_iff {config : Config} {s s' : State} {e : Event} :
    s.step config e = some s' ↔ s.handle config e = .ok s' := by
  rw [step]
  cases s.handle config e with
  | error f => simp [Except.toOption]
  | ok t => simp [Except.toOption]

end State
end Router
end HomeAutomation
