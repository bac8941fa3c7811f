import HomeAutomation.Client.Command

/-!
# The dispatcher of a client

The dispatcher sends a client's commands and gives what comes back to the handlers
the client passed.  A handler may call the dispatcher again; it runs as the last
thing of whatever invokes it, so its calls follow the step that invoked it.  They
are an input of the step, and so is how each `send` ends: it returns, or it throws
and nothing is registered.

Two members are there for the proofs only.  `issued` counts the queries, and a
query's record and its timer carry the number of the query as the name of the
handler that was passed with it.  A timer that is not stopped stays armed when its
record is dropped; when it fires it looks for its record by `unique_id`.

## Main definitions

* `Dispatcher`, `QueryRecord`, `Timer` — the members.
* `sendQuery`, `closeQuery`, `onQueryTimeout`, `handleDeviceCommand`, `onPacket` —
  the member functions.
* `CallOutcome` — what a call of the client does to the queries and their timers.
* `Observed.step` — one event, with the handlers invoked so far.

## References

`common/source/client/Dispatcher.cpp`, `common/include/client/Dispatcher.h`.
-/

namespace HomeAutomation

/-- `Dispatcher::QueryRecord`. -/
structure QueryRecord where
  query : DeviceCommand
  /-- The handler, named by the number of the query it was passed with. -/
  handler : ℕ
  uniqueId : ℕ
  /-- `timeout` is set. -/
  timeout : Bool
  deriving DecidableEq

/-- The armed timer of a query. -/
structure Timer where
  /-- The query whose timer it is, named by its handler. -/
  handler : ℕ
  /-- The argument bound to `on_query_timeout`. -/
  uniqueId : ℕ
  deriving DecidableEq

/-- `Dispatcher::FilterRecord`. -/
structure ClientFilterRecord where
  filter : Filter
  /-- The handler, named by the number of the filter it was passed with. -/
  handler : ℕ
  deriving DecidableEq

/-- Why a query's handler was invoked. -/
inductive Cause
  /-- A reply arrived. -/
  | reply
  /-- The timer of the query of this number fired. -/
  | timer (handler : ℕ)
  deriving DecidableEq

/-- An invocation of a handler. -/
inductive Invocation
  | query (record : QueryRecord) (response : Option DeviceCommand) (cause : Cause)
  | filter (record : ClientFilterRecord) (command : DeviceCommand)
  | unknown (command : DeviceCommand)
  deriving DecidableEq

/-- The query whose handler an invocation is of. -/
def Invocation.queryHandler : Invocation → Option ℕ
  | .query record _ _ => some record.handler
  | .filter _ _ => none
  | .unknown _ => none

/-- The members of `Dispatcher`. -/
structure Dispatcher where
  /-- `connection_` is set. -/
  connection : Bool
  eventHandler : Bool
  unknownHandler : Bool
  filters : List ClientFilterRecord
  queries : List QueryRecord
  lastQueryId : ℕ
  /-- The armed timers. -/
  timers : List Timer
  /-- The number of filters added so far. -/
  added : ℕ
  /-- The number of queries issued so far. -/
  issued : ℕ

namespace Dispatcher

/-- A dispatcher as it is constructed. -/
def create : Dispatcher := ⟨false, false, false, [], [], 0, [], 0, 0⟩

/-! ### Calls of the client -/

/-- `stop`.  The records go; armed timers are not stopped. -/
def stop (d : Dispatcher) : Dispatcher :=
  if !d.connection then d else { d with connection := false, filters := [], queries := [] }

/-- `start_tcp` or `start_unix`, when the connect call succeeds or throws. -/
def start (d : Dispatcher) (connects : Bool) : Dispatcher :=
  if !connects then d
  else
    let d := if d.connection then d.stop else d
    { d with connection := true }

/-- `add_filter`, the command being sent or not. -/
def addFilter (d : Dispatcher) (filter : Filter) (sent : Bool) : Except Fault Dispatcher := do
  verify d.connection
  if !sent then return d
  else return { d with
    filters := d.filters ++ [⟨filter, d.added + 1⟩]
    added := d.added + 1 }

/-- `send`. -/
def send (d : Dispatcher) (command : DeviceCommand) : Except Fault Dispatcher := do
  verify d.connection
  verify (command.type ≠ .reply)
  return d

/-- What `send_query` does behind its checks: a new record, and its timer. -/
def register (d : Dispatcher) (query : DeviceCommand) (timeout : Bool) : Dispatcher :=
  let handler := d.issued + 1
  let uniqueId := (d.lastQueryId + 1) % 2 ^ 32
  { d with
    issued := handler
    lastQueryId := uniqueId
    timers := if timeout then d.timers ++ [⟨handler, uniqueId⟩] else d.timers
    queries := d.queries ++ [⟨query, handler, uniqueId, timeout⟩] }

/-- `send_query`, with a finite timeout or without, the query being sent or not. -/
def sendQuery (d : Dispatcher) (query : DeviceCommand) (timeout sent : Bool) :
    Except Fault Dispatcher := do
  verify d.connection
  verify (query.type = .query)
  if !sent then return d else return d.register query timeout

/-- A call of the client. -/
inductive Call
  | start (connects : Bool)
  | stop
  | setEventHandler (handler : Bool)
  | setUnknownHandler (handler : Bool)
  | addFilter (filter : Filter) (sent : Bool)
  | send (command : DeviceCommand)
  | sendQuery (query : DeviceCommand) (timeout sent : Bool)

/-- The call of a client. -/
def call (d : Dispatcher) : Call → Except Fault Dispatcher
  | .start connects => .ok (d.start connects)
  | .stop => .ok d.stop
  | .setEventHandler handler => .ok { d with eventHandler := handler }
  | .setUnknownHandler handler => .ok { d with unknownHandler := handler }
  | .addFilter filter sent => d.addFilter filter sent
  | .send command => d.send command
  | .sendQuery query timeout sent => d.sendQuery query timeout sent

/-- **What a call does to the queries and their timers.** -/
inductive CallOutcome (d : Dispatcher) : Call → Dispatcher → Prop
  | started (connects : Bool) : CallOutcome d (.start connects) (d.start connects)
  | stopped : CallOutcome d .stop d.stop
  | registered (query : DeviceCommand) (timeout : Bool) :
      CallOutcome d (.sendQuery query timeout true) (d.register query timeout)
  /-- The other calls touch neither. -/
  | kept {c : Call} {d' : Dispatcher} (hstop : c ≠ .stop) (hstart : ∀ connects, c ≠ .start connects)
      (hissued : d'.issued = d.issued) (hlast : d'.lastQueryId = d.lastQueryId)
      (hqueries : d'.queries = d.queries) (htimers : d'.timers = d.timers) : CallOutcome d c d'

theorem call_outcome {d d' : Dispatcher} {c : Call} (h : d.call c = .ok d') :
    CallOutcome d c d' := by
  cases c with
  | start connects =>
    cases h
    exact .started connects
  | stop =>
    cases h
    exact .stopped
  | setEventHandler handler =>
    cases h
    exact .kept Call.noConfusion (fun _ => Call.noConfusion) rfl rfl rfl rfl
  | setUnknownHandler handler =>
    cases h
    exact .kept Call.noConfusion (fun _ => Call.noConfusion) rfl rfl rfl rfl
  | addFilter filter sent =>
    obtain ⟨-, -, h⟩ := bind_eq_ok_iff.mp h
    cases sent with
    | false =>
      -- a filter whose command could not be sent is not stored
      cases h
      exact .kept Call.noConfusion (fun _ => Call.noConfusion) rfl rfl rfl rfl
    | true =>
      cases h
      exact .kept Call.noConfusion (fun _ => Call.noConfusion) rfl rfl rfl rfl
  | send command =>
    obtain ⟨-, -, h⟩ := bind_eq_ok_iff.mp h
    obtain ⟨-, -, h⟩ := bind_eq_ok_iff.mp h
    cases h
    exact .kept Call.noConfusion (fun _ => Call.noConfusion) rfl rfl rfl rfl
  | sendQuery query timeout sent =>
    obtain ⟨-, -, h⟩ := bind_eq_ok_iff.mp h
    obtain ⟨-, -, h⟩ := bind_eq_ok_iff.mp h
    cases sent with
    -- a query that could not be sent is not stored, and has no timer
    | false =>
      cases h
      exact .kept Call.noConfusion (fun _ => Call.noConfusion) rfl rfl rfl rfl
    | true =>
      cases h
      exact .registered query timeout

/-- The calls a handler makes, one after the other. -/
def calls (d : Dispatcher) : List Call → Except Fault Dispatcher
  | [] => .ok d
  | c :: cs => do
    let d ← d.call c
    d.calls cs

/-! ### Replies and timeouts -/

/-- What `close_query` does before it invokes the handler. -/
def closeQuery (d : Dispatcher) (record : QueryRecord) : Dispatcher :=
  { d with
    timers := if record.timeout then d.timers.filter (fun t => t.handler ≠ record.handler)
      else d.timers
    queries := d.queries.erase record }

/-- `on_query_timeout`, called by the timer of the query of number `handler`. -/
def onQueryTimeout (d : Dispatcher) (handler uniqueId : ℕ) : Dispatcher × Option Invocation :=
  match d.queries.find? fun r => r.uniqueId = uniqueId with
  | none => (d, none)
  | some record => (d.closeQuery record, some (.query record none (.timer handler)))

/-- The search condition for a reply. -/
def isAnswered (command : DeviceCommand) (r : QueryRecord) : Bool :=
  r.query.device = command.device && r.query.address = command.address

/-- The unknown handler, if it is set. -/
def unknown (d : Dispatcher) (command : DeviceCommand) : Dispatcher × Option Invocation :=
  (d, if d.unknownHandler then some (.unknown command) else none)

/-- `handle_device_command`. -/
def handleDeviceCommand (d : Dispatcher) (command : DeviceCommand) :
    Dispatcher × Option Invocation :=
  if command.type = .reply then
    -- queries are kept in the order they were sent
    match d.queries.find? (isAnswered command) with
    | none => d.unknown command
    | some record => (d.closeQuery record, some (.query record (some command) .reply))
  else
    match d.filters.find? fun r => r.filter.matchesCommand command with
    | none => d.unknown command
    | some record =>
      -- only the first filter that matches gets the command
      ({ d with filters := if record.filter.isOneTime then d.filters.erase record else d.filters },
        some (.filter record command))

/-- `report_event`: without a handler the program ends. -/
def reportEvent (d : Dispatcher) : Except Fault Unit :=
  if d.eventHandler then .ok () else .error .uncaught

/-- `on_packet`. -/
def onPacket (d : Dispatcher) : Option Packet → Except Fault (Dispatcher × Option Invocation)
  | none => do
    d.reportEvent
    return (d, none)
  | some (.message _) => .error .assertion
  | some (.deviceInit _) => .error .assertion
  | some (.serviceCommand command) =>
    if command.action = "ok".toList then .ok (d, none)
    else if command.action = "fail".toList then do
      d.reportEvent
      return (d, none)
    else if command.action = "send".toList ∨ command.action = "reply".toList then do
      let deviceCommand ← DeviceCommand.default.setFromServiceCommand command
      return d.handleDeviceCommand deviceCommand
    else do
      d.reportEvent
      return (d, none)

end Dispatcher

/-! ### Runs -/

/-- What the event loop of a client runs. -/
inductive DispatcherEvent
  /-- A call from outside any handler. -/
  | call (c : Dispatcher.Call)
  /-- A packet arrives; the calls of the handler it is given to. -/
  | packet (p : Option Packet) (reaction : List Dispatcher.Call)
  /-- The timer of the query of this number fires; the calls of its handler. -/
  | timeout (handler : ℕ) (reaction : List Dispatcher.Call)

/-- A dispatcher and the handlers it has invoked. -/
structure ObservedDispatcher where
  dispatcher : Dispatcher
  log : List Invocation

namespace ObservedDispatcher

/-- The start of a run. -/
def create : ObservedDispatcher := ⟨Dispatcher.create, []⟩

/-- Record the handler that was invoked, and run its calls. -/
def invoke (log : List Invocation) (r : Dispatcher × Option Invocation)
    (reaction : List Dispatcher.Call) : Except Fault ObservedDispatcher :=
  match r.2 with
  | none => .ok ⟨r.1, log⟩
  | some invocation => do
    let d ← r.1.calls reaction
    return ⟨d, log ++ [invocation]⟩

/-- A timer fires: it is stopped, and then its callback runs. -/
def fire (d : Dispatcher) (handler : ℕ) : Dispatcher × Option Invocation :=
  match d.timers.find? fun t => t.handler = handler with
  | none => (d, none)
  | some t => Dispatcher.onQueryTimeout { d with timers := d.timers.erase t } t.handler t.uniqueId

/-- The handler of each event. -/
def handle (o : ObservedDispatcher) : DispatcherEvent → Except Fault ObservedDispatcher
  | .call c => do
    let d ← o.dispatcher.call c
    return ⟨d, o.log⟩
  | .packet p reaction => do
    let r ← o.dispatcher.onPacket p
    invoke o.log r reaction
  | .timeout handler reaction => invoke o.log (fire o.dispatcher handler) reaction

/-- **One event of the dispatcher.** -/
def step (o : ObservedDispatcher) (e : DispatcherEvent) : Option ObservedDispatcher :=
  (o.handle e).toOption

end ObservedDispatcher
end HomeAutomation
