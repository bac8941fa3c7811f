import HomeAutomation.Lib.KeyedRuns
import HomeAutomation.Link.ValueDelivery

/-!
# What one value of a device does

The router looks at its filters in their order.  For each one that the value passes it
sends a command to the connection of the filter, and takes the filter off the list when it
was for one reply or for one value.

The connections do not touch each other.  So the loop is a run of the map of connections,
with one send for each filter that is passed, and what becomes of one of them is what the
commands for its own filters make of it.

## Main definitions

* `Takes` — a connection takes commands one after the other.
* `matching` — the filters of a connection that a message passes.
* `Accepting` — every connection takes the commands for its filters.
* `Carries`, `Delivered` — a command for a filter, and what the handler leaves.

## Main results

* `routeLoop_eq` — the loop as a run of the connections.
* `accepting_iff_served` — the connections take their commands exactly when there is room.
* `handleDevicePacket_delivered` — what the handler does with a value that all of them take.

## References

`router/Router.cpp`.
-/

namespace HomeAutomation
namespace ReplyLink

open ServiceCommand Router Router.State

/-! ### Commands for a connection -/

/-- The connection behind `send`, if the call returns. -/
def sendStep (connection : SocketConnection) (command : ServiceCommand) :
    Option SocketConnection :=
  match connection.send (.serviceCommand command) with
  | .ok (.ok connection) => some connection
  | _ => none

/-- The connection takes the commands one after the other, and becomes another one. -/
def Takes (connection : SocketConnection) (commands : List ServiceCommand)
    (connection' : SocketConnection) : Prop :=
  Run.exec sendStep connection commands = some connection'

/-- The filters of a connection that the message passes, in their order. -/
def matching (m : Message) (network : Network) (filters : List FilterRecord) (id : ℕ) :
    List FilterRecord :=
  filters.filter fun f => passesFilter m network f && f.connectionId == id

/-- The commands for the filters of a connection. -/
def commandsFor (m : Message) (network : Network) (d : Device) (filters : List FilterRecord)
    (id : ℕ) : List ServiceCommand :=
  (matching m network filters id).map fun f => routed m d f.isReply

/-- The filter is on the list behind the message: it was not passed, or it is for more. -/
def stays (m : Message) (network : Network) (f : FilterRecord) : Bool :=
  !(passesFilter m network f && (f.isReply || f.isOneTime))

/-- What the router sends for a message, and to which connections. -/
def deliveries (m : Message) (network : Network) (d : Device) (filters : List FilterRecord) :
    List (ℕ × ServiceCommand) :=
  (filters.filter (passesFilter m network)).map fun f => (f.connectionId, routed m d f.isReply)

theorem sendStep_eq_some_iff {connection connection' : SocketConnection}
    {command : ServiceCommand} : sendStep connection command = some connection' ↔
      connection.send (.serviceCommand command) = .ok (.ok connection') := by
  unfold sendStep
  split
  · next h => rw [h]; simp
  · next h => exact iff_of_false nofun fun hsend => h _ hsend

section Loop

variable {m : Message} {network : Network} {d : Device}

/-- The commands for a connection are those of its own filters. -/
theorem eventsOf_deliveries (filters : List FilterRecord) (id : ℕ) :
    Run.eventsOf id (deliveries m network d filters) = commandsFor m network d filters id := by
  unfold Run.eventsOf deliveries commandsFor matching
  rw [List.filter_map, List.map_map, List.filter_filter]
  congr 1
  refine List.filter_congr fun f _ => ?_
  rw [Bool.and_comm]
  rfl

/-- **One send of the run** is what `route_to` does. -/
theorem routeTo_of_keyed (hd : Nameable d) {s : State} {id : ℕ} {reply : Bool}
    {connections : OrderedMap ℕ SocketConnection}
    (h : Run.keyed sendStep s.connections (id, routed m d reply) = some connections) :
    s.routeTo m d id reply = .ok ({ s with connections := connections }, true) := by
  obtain ⟨connection, connection', hfind, hsend, rfl⟩ := Run.keyed_eq_some_iff.mp h
  have hsent := catchRangeError_eq_some_iff.mpr (sendStep_eq_some_iff.mp hsend)
  unfold routeTo
  rw [hfind]
  dsimp only
  rw [routedCommand_eq hd.1 hd.2, ok_bind, hsent]
  rfl

/-- **The loop as a run of the connections**: with every filter that is passed there is one
send, and of the filters those are left that stay. -/
theorem routeLoop_eq (hd : Nameable d) : ∀ (rest : List FilterRecord) (s : State)
    (kept : List FilterRecord) (dead : OrderedMap ℕ Unit)
    (connections : OrderedMap ℕ SocketConnection),
    Run.exec (Run.keyed sendStep) s.connections (deliveries m network d rest) = some connections →
      routeLoop m network d rest.length s kept rest dead
        = .ok ({ s with
            connections := connections
            filters := kept ++ rest.filter (stays m network) }, dead) := by
  intro rest
  induction rest with
  | nil =>
    intro s kept dead connections h
    cases h
    rw [List.filter_nil, List.append_nil]
    rfl
  | cons f rest ih =>
    intro s kept dead connections h
    rw [List.length_cons]
    cases hpass : passesFilter m network f with
    | false =>
      -- the filter is passed over, and nothing is sent
      have hstays : stays m network f = true := by simp [stays, hpass]
      have hrun : Run.exec (Run.keyed sendStep) s.connections (deliveries m network d rest)
          = some connections := by simpa [deliveries, hpass] using h
      rw [routeLoop, hpass, List.filter_cons_of_pos hstays,
        List.append_cons kept f (List.filter _ rest)]
      exact ih s (kept ++ [f]) dead connections hrun
    | true =>
      have hcons : deliveries m network d (f :: rest)
          = (f.connectionId, routed m d f.isReply) :: deliveries m network d rest := by
        simp [deliveries, hpass]
      rw [hcons] at h
      obtain ⟨connections₁, hsend, hrun⟩ := Option.bind_eq_some_iff.mp h
      rw [routeLoop, hpass, routeTo_of_keyed hd hsend]
      cases hserved : f.isReply || f.isOneTime with
      | true =>
        -- the filter has served
        have hstays : stays m network f = false := by simp [stays, hpass, hserved]
        rw [List.filter_cons_of_neg (by simp [hstays])]
        exact ih { s with connections := connections₁ } kept dead connections hrun
      | false =>
        have hstays : stays m network f = true := by simp [stays, hserved]
        rw [List.filter_cons_of_pos hstays, List.append_cons kept f (List.filter _ rest)]
        exact ih { s with connections := connections₁ } (kept ++ [f]) dead connections hrun

/-! ### Connections that take their commands -/

/-- **Every connection with a filter that the message passes is there**, and takes the
commands for its filters. -/
def Accepting (m : Message) (network : Network) (d : Device) (s : State) : Prop :=
  ∀ f ∈ s.filters, passesFilter m network f = true →
    ∃ connection connection', s.connections.find f.connectionId = some connection ∧
      Takes connection (commandsFor m network d s.filters f.connectionId) connection'

/-- The connections take their commands one by one exactly when the run of all of them comes
to its end. -/
theorem accepting_iff_run {s : State} : Accepting m network d s ↔
    ∃ connections, Run.exec (Run.keyed sendStep) s.connections (deliveries m network d s.filters)
      = some connections := by
  rw [Run.exists_exec_keyed_iff]
  constructor
  · intro h e he
    obtain ⟨f, hf, rfl⟩ := List.mem_map.mp he
    obtain ⟨hf, hpass⟩ := List.mem_filter.mp hf
    obtain ⟨connection, connection', hfind, htakes⟩ := h f hf hpass
    refine ⟨connection', ?_⟩
    rw [Run.Runs, hfind, eventsOf_deliveries]
    exact htakes
  · intro h f hf hpass
    obtain ⟨connection', hruns⟩ :=
      h _ (List.mem_map_of_mem (List.mem_filter.mpr ⟨hf, hpass⟩))
    obtain ⟨connection, hfind, htakes⟩ := Option.bind_eq_some_iff.mp hruns
    rw [eventsOf_deliveries] at htakes
    exact ⟨connection, connection', hfind, htakes⟩

/-- A connection with room takes a command. -/
theorem keyed_of_room (hd : Nameable d) {connections : OrderedMap ℕ SocketConnection} {id : ℕ}
    {connection : SocketConnection} (hfind : connections.find id = some connection) {reply : Bool}
    (hroom : HasRoom connection (routedLine m d reply).length) :
    Run.keyed sendStep connections (id, routed m d reply)
      = some (connections.insert id (taking connection (routedLine m d reply))) := by
  have hsend := catch_send_routed hd m reply connection
  rw [if_pos hroom] at hsend
  exact Run.keyed_eq_some_iff.mpr ⟨connection, _, hfind,
    sendStep_eq_some_iff.mpr (catchRangeError_eq_some_iff.mp hsend), rfl⟩

/-- The run of the connections comes to its end when there is room for all its lines. -/
theorem exists_run_of_served : ∀ {rest : List FilterRecord} {s : State},
    Served m network d s rest → ∃ connections,
      Run.exec (Run.keyed sendStep) s.connections (deliveries m network d rest)
        = some connections := by
  intro rest
  induction rest with
  | nil => exact fun {s} _ => ⟨s.connections, rfl⟩
  | cons f rest ih =>
    intro s hserved
    cases hpass : passesFilter m network f with
    | false =>
      have hcons : deliveries m network d (f :: rest) = deliveries m network d rest := by
        simp [deliveries, hpass]
      rw [hcons]
      exact ih ((served_cons_of_not_pass hpass s rest).mp hserved)
    | true =>
      have hcons : deliveries m network d (f :: rest)
          = (f.connectionId, routed m d f.isReply) :: deliveries m network d rest := by
        simp [deliveries, hpass]
      obtain ⟨s', hroute, hrest⟩ := (served_cons_of_pass hpass s rest).mp hserved
      obtain ⟨connection, hfind, hd, hroom, rfl⟩ := routeTo_eq_true_iff.mp hroute
      obtain ⟨connections, hrun⟩ := ih hrest
      refine ⟨connections, ?_⟩
      rw [hcons, Run.exec, keyed_of_room hd hfind hroom]
      exact hrun

/-- **The connections take their commands exactly when there is room** for the lines of all
their filters. -/
theorem accepting_iff_served (hd : Nameable d) {s : State} :
    Accepting m network d s ↔ Served m network d s s.filters := by
  rw [accepting_iff_run]
  constructor
  · rintro ⟨connections, hrun⟩
    exact (routeLoop_returns_iff s.filters s [] .empty).mp ⟨_, routeLoop_eq hd _ s [] .empty _ hrun⟩
  · exact exists_run_of_served

end Loop

/-! ### The handler -/

/-- **The command is what a filter asks for**: a reply or a value, with the names of the
device, and with the address and the body of the message. -/
structure Carries (m : Message) (d : Device) (f : FilterRecord) (command : ServiceCommand) :
    Prop where
  action : command.action = if f.isReply then "reply".toList else "send".toList
  device : command.getArgument "device".toList = d.name
  network : command.getArgument "network".toList = d.networkName
  address : ∀ default, command.getArgumentUnsigned "address".toList default = m.address.toUInt32
  body : (command.getRawArgument "data".toList).getD [] = m.body.1

theorem carries_routed (m : Message) (d : Device) (f : FilterRecord) :
    Carries m d f (routed m d f.isReply) := by
  obtain ⟨hdevice, haddress, hdata⟩ := find_routedArguments m d
  have hnetwork : (routedArguments m d).find "network".toList = some d.networkName := by
    simp [routedArguments]
  refine ⟨?_, ?_, ?_, getArgumentUnsigned_of_find haddress, ?_⟩
  · cases hreply : f.isReply with
    | false => rfl
    | true => rfl
  · rw [getArgument, routed, hdevice, Option.getD_some]
  · rw [getArgument, routed, hnetwork, Option.getD_some]
  · rw [getRawArgument_of_find hdata]
    split
    · next hnil => exact hnil.symm
    · rfl

/-- **What the handler leaves of a message**: every connection has taken one command for each
of its filters that the message passes, in their order; of the filters those are left that
stay; and all else is as it was. -/
structure Delivered (m : Message) (network : Network) (d : Device) (s s' : State) : Prop where
  sent : ∀ id connection, s.connections.find id = some connection →
    ∃ commands connection', s'.connections.find id = some connection' ∧
      Takes connection commands connection' ∧
      List.Forall₂ (Carries m d) (matching m network s.filters id) commands
  absent : ∀ id, s.connections.find id = none → s'.connections.find id = none
  filters : s'.filters = s.filters.filter fun f =>
    !(passesFilter m network f && (f.isReply || f.isOneTime))
  frame : s' = { s with connections := s'.connections, filters := s'.filters }

/-- The router behind a message, with the connections as they are then. -/
def afterMessage (m : Message) (network : Network) (s : State)
    (connections : OrderedMap ℕ SocketConnection) : State :=
  { s with
    connections := connections
    filters := s.filters.filter (stays m network) }

theorem handleDevicePacket_eq_afterMessage {config : Config} {s : State} {m : Message}
    {networkIndex : ℕ} {record : NetworkRecord} {device : Device}
    (hrecord : s.networks[networkIndex]? = some record)
    (hdevice : config.findDeviceById record.network.name m.deviceId = some device)
    (hnames : Nameable device) {connections : OrderedMap ℕ SocketConnection}
    (hrun : Run.exec (Run.keyed sendStep) s.connections
      (deliveries m record.network device s.filters) = some connections) :
    s.handleDevicePacket config (.message m) networkIndex
      = .ok (afterMessage m record.network s connections) := by
  unfold handleDevicePacket
  simp only [hrecord, hdevice]
  rw [routeLoop_eq hnames s.filters s [] .empty connections hrun]
  rfl

/-- The run of the connections delivers the message. -/
theorem delivered_afterMessage {m : Message} {network : Network} {d : Device} {s : State}
    {connections : OrderedMap ℕ SocketConnection}
    (hrun : Run.exec (Run.keyed sendStep) s.connections (deliveries m network d s.filters)
      = some connections) : Delivered m network d s (afterMessage m network s connections) := by
  have hfind := Run.find_exec_keyed hrun
  refine ⟨?_, ?_, rfl, rfl⟩
  · intro id connection hconnection
    have hsome : (connections.find id).isSome = true := by
      rw [Run.isSome_find_exec hrun id, hconnection]
      rfl
    obtain ⟨connection', hconnection'⟩ := Option.isSome_iff_exists.mp hsome
    -- a connection runs on the commands for its own filters
    have htakes := (hfind id).symm.trans hconnection'
    rw [Run.Runs, hconnection, Option.bind_some, eventsOf_deliveries] at htakes
    refine ⟨_, connection', hconnection', htakes, ?_⟩
    exact List.forall₂_map_right_iff.mpr
      (List.forall₂_same.mpr fun f _ => carries_routed m d f)
  · intro id hnone
    rw [afterMessage]
    dsimp only
    rw [hfind id, Run.Runs, hnone]
    rfl

/-- **What the handler does with a value of a known device**, when every connection with a
filter for it is there and takes the commands. -/
theorem handleDevicePacket_delivered {config : Config} {s : State} {m : Message}
    {networkIndex : ℕ} {record : NetworkRecord} {device : Device}
    (hrecord : s.networks[networkIndex]? = some record)
    (hdevice : config.findDeviceById record.network.name m.deviceId = some device)
    (hnames : checkString device.name = true ∧ checkString device.networkName = true)
    (haccepts : Accepting m record.network device s) :
    ∃ s', s.handleDevicePacket config (.message m) networkIndex = .ok s' ∧
      Delivered m record.network device s s' := by
  obtain ⟨connections, hrun⟩ := accepting_iff_run.mp haccepts
  exact ⟨_, handleDevicePacket_eq_afterMessage hrecord hdevice hnames hrun, delivered_afterMessage hrun⟩

/-- A router whose client waits for a reply, for one value and for all values. -/
def waitingState : State :=
  { sampleState SocketConnection.fresh.subscribe with
    filters := [responseFilter 1 sampleDevice 0xffff, FilterRecord.create 1,
      { FilterRecord.create 1 with flags := FilterRecord.flagOneTime }] }

theorem nameable_sampleDevice : Nameable sampleDevice := ⟨by decide, by decide⟩

/-- The client takes the lines of all its filters. -/
theorem accepting_waitingState :
    Accepting sampleReply sampleNetwork sampleDevice waitingState := by
  refine (accepting_iff_served nameable_sampleDevice).mpr fun f hf _ => ?_
  have hid : f.connectionId = 1 := by
    simp only [waitingState, List.mem_cons, List.not_mem_nil, or_false] at hf
    obtain rfl | rfl | rfl := hf <;> rfl
  rw [hid]
  exact ⟨SocketConnection.fresh.subscribe, rfl, nameable_sampleDevice, by decide⟩

/-- The client gets the value three times, and waits for all values then. -/
theorem handleDevicePacket_delivered_sample : ∃ s',
    waitingState.handleDevicePacket sampleConfig (.message sampleReply) 0 = .ok s' ∧
      Delivered sampleReply sampleNetwork sampleDevice waitingState s' ∧
      s'.filters = [FilterRecord.create 1] := by
  have hrecord : waitingState.networks[0]?
      = some ⟨sampleNetwork, some SocketConnection.fresh.subscribe⟩ := rfl
  have hdevice : sampleConfig.findDeviceById sampleNetwork.name sampleReply.deviceId
      = some sampleDevice := rfl
  obtain ⟨s', hhandler, hdelivered⟩ :=
    handleDevicePacket_delivered hrecord hdevice nameable_sampleDevice accepting_waitingState
  exact ⟨s', hhandler, hdelivered, hdelivered.filters.trans (by decide)⟩

end ReplyLink
end HomeAutomation
