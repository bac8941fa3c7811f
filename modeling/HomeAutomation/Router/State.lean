import HomeAutomation.Proto.SocketConnection
import HomeAutomation.Router.Config

/-!
# The router and its handlers

The router keeps the connections of its clients and of its device networks, the
clients' filters and the queue of messages to devices.  Each member function is a
function on the state.  What the operating system decides (whether a connect or a
listen call succeeds) is an argument.

A call returns in `Except Fault`: it ends in a fault when it stops the program,
and `Fault.divergence` stands for a loop that never ends.

## Main definitions

* `State` — the members of the class.
* `passesFilter`, `handleDevicePacket` — the way of a device's message to clients.
* `handleFilter`, `handleSend`, `onConnectionPacketReceived` — the commands.
* `onSendTimer` — the way of a queued message to its network.
* `connectNetworks`, `disconnectNetwork`, `start`, `stop` — networks and lifecycle.

## References

`router/Router.cpp`, `router/Router.h`.
-/

namespace HomeAutomation
namespace Router

/-! ### Records -/

/-- `NetworkRecord`: a network of the configuration and its connection, if it is
connected. -/
structure NetworkRecord where
  network : Network
  connection : Option SocketConnection

/-- `BindingRecord`.  A server is started as soon as it exists. -/
structure BindingRecord where
  binding : Binding
  server : Bool

/-- `FilterRecord`. -/
structure FilterRecord where
  connectionId : ℕ
  device : Option Device
  address : UInt32
  addressMask : UInt32
  flags : UInt32
  deriving DecidableEq

namespace FilterRecord

/-- `Flag_OneTime`. -/
def flagOneTime : UInt32 := 0x01

/-- `Flag_Reply`. -/
def flagReply : UInt32 := 0x02

/-- `FilterRecord(connection_id)`. -/
def create (connectionId : ℕ) : FilterRecord := ⟨connectionId, none, 0, 0, 0⟩

/-- `flags_ & Flag_OneTime`. -/
def isOneTime (f : FilterRecord) : Bool := f.flags &&& flagOneTime ≠ 0

/-- `flags_ & Flag_Reply`. -/
def isReply (f : FilterRecord) : Bool := f.flags &&& flagReply ≠ 0

end FilterRecord

/-- `SendRecord`.  `network` is the index of the record it refers to, and
`SendType_Request` and `SendType_Data` are the types of the message. -/
structure SendRecord where
  type : MessageType
  network : ℕ
  message : Message
  responseFilter : FilterRecord

/-- The members of `Router`. -/
structure State where
  started : Bool
  sendTimer : Bool
  networks : List NetworkRecord
  connectedNetworks : ℕ
  reconnectTimeout : Bool
  bindings : List BindingRecord
  connections : OrderedMap ℕ SocketConnection
  nextConnectionId : ℕ
  filters : List FilterRecord
  sendQueue : List SendRecord

namespace State

variable (config : Config)

/-- The constructor, with `init_bindings` and `init_networks`. -/
def create : Except Fault State := do
  verify (!config.bindings.isEmpty)
  verify (!config.getNetworks.isEmpty)
  return {
    started := false
    sendTimer := false
    networks := config.getNetworks.map fun n => ⟨n, none⟩
    connectedNetworks := 0
    reconnectTimeout := false
    bindings := config.bindings.map fun b => ⟨b, false⟩
    connections := .empty
    nextConnectionId := 0
    filters := []
    sendQueue := [] }

variable {config} in
/-- The router as it is constructed. -/
theorem eq_of_create {s : State} (h : create config = .ok s) : s = {
    started := false
    sendTimer := false
    networks := config.getNetworks.map fun n => ⟨n, none⟩
    connectedNetworks := 0
    reconnectTimeout := false
    bindings := config.bindings.map fun b => ⟨b, false⟩
    connections := .empty
    nextConnectionId := 0
    filters := []
    sendQueue := [] } := by
  obtain ⟨-, -, h⟩ := bind_eq_ok_iff.mp h
  obtain ⟨-, -, h⟩ := bind_eq_ok_iff.mp h
  exact (Except.ok.inj h).symm

/-! ### Filters -/

/-- `remove_filters`. -/
def removeFilters (s : State) (connectionId : ℕ) : State :=
  { s with filters := s.filters.filter fun r => r.connectionId ≠ connectionId }

/-- The condition of `remove_reply_filters`. -/
def isReplyFilterOf (networkName : Text) (r : FilterRecord) : Bool :=
  r.isReply && (r.device.map Device.networkName = some networkName)

/-- `remove_reply_filters`: the condition dereferences the device of every reply
filter. -/
def removeReplyFilters (s : State) (networkName : Text) : Except Fault State :=
  if s.filters.any fun r => r.isReply && r.device.isNone then .error .nullDereference
  else .ok { s with filters := s.filters.filter fun r => !isReplyFilterOf networkName r }

/-- `close_connection`.  The connection is unsubscribed and dropped. -/
def closeConnection (s : State) (connectionId : ℕ) : State :=
  let s := s.removeFilters connectionId
  { s with connections := s.connections.erase connectionId }

/-! ### Networks -/

/-- `update_reconnect_timer`. -/
def updateReconnectTimer (s : State) : State :=
  if s.connectedNetworks < s.networks.length then { s with reconnectTimeout := true } else s

@[simp] theorem filters_updateReconnectTimer (s : State) :
    s.updateReconnectTimer.filters = s.filters := by
  unfold updateReconnectTimer
  split <;> rfl

@[simp] theorem connections_updateReconnectTimer (s : State) :
    s.updateReconnectTimer.connections = s.connections := by
  unfold updateReconnectTimer
  split <;> rfl

/-- One turn of the loop of `connect_networks`, for a network whose connect call
succeeds or not. -/
def connectNetwork (succeeds : Bool) (r : NetworkRecord) : NetworkRecord :=
  match r.connection with
  | some _ => r
  | none => if succeeds then { r with connection := some SocketConnection.fresh.subscribe } else r

/-- The number of connections that `connect_networks` adds. -/
def newConnections (connects : ℕ → Bool) (networks : List NetworkRecord) : ℕ :=
  (networks.zipIdx.filter fun r => r.1.connection.isNone && connects r.2).length

/-- `connect_networks`, the connect call for the network at index `i` ending as
`connects i` says. -/
def connectNetworks (s : State) (connects : ℕ → Bool) : State :=
  if s.networks.length ≤ s.connectedNetworks then s
  else
    updateReconnectTimer { s with
      networks := s.networks.zipIdx.map fun r => connectNetwork (connects r.2) r.1
      connectedNetworks := s.connectedNetworks + newConnections connects s.networks }

/-- `disconnect_networks`: every record is dereferenced, connected or not. -/
def disconnectNetworks (s : State) : Except Fault State :=
  if s.networks.any fun r => r.connection.isNone then .error .nullDereference
  else .ok { s with
    reconnectTimeout := false
    networks := s.networks.map fun r => { r with connection := none }
    connectedNetworks := 0 }

/-- `--connected_networks_`, on a `size_t`. -/
def pred64 (n : ℕ) : ℕ := if n = 0 then 2 ^ 64 - 1 else n - 1

/-- `disconnect_network`, for the record at index `i`. -/
def disconnectNetwork (s : State) (i : ℕ) : Except Fault State :=
  match s.networks[i]? with
  | none => .error .assertion
  | some r =>
    match r.connection with
    | none => .error .nullDereference
    | some _ =>
      removeReplyFilters
        (updateReconnectTimer { s with
          networks := s.networks.set i { r with connection := none }
          connectedNetworks := pred64 s.connectedNetworks })
        r.network.name

/-- **What `disconnect_network` does when it returns.** -/
theorem disconnectNetwork_cases {s s' : State} {i : ℕ} (h : s.disconnectNetwork i = .ok s') :
    ∃ r c, s.networks[i]? = some r ∧ r.connection = some c ∧
      s' = { updateReconnectTimer { s with
          networks := s.networks.set i { r with connection := none }
          connectedNetworks := pred64 s.connectedNetworks } with
        filters := s.filters.filter fun f => !isReplyFilterOf r.network.name f } := by
  unfold disconnectNetwork at h
  split at h
  · cases h
  · next r hr =>
    split at h
    · cases h
    · next c hc =>
      unfold removeReplyFilters at h
      split at h
      · cases h
      · cases h
        refine ⟨r, c, hr, hc, ?_⟩
        rw [filters_updateReconnectTimer]

/-! ### Messages from devices -/

/-- `passes_filter`.  `!=` binds more tightly than `&`, so the address is combined
with the outcome of the comparison. -/
def passesFilter (message : Message) (network : Network) (filter : FilterRecord) : Bool :=
  if message.address.toUInt32 &&& (if filter.addressMask ≠ filter.address then 1 else 0) ≠ 0 then
    false
  else
    match filter.device with
    | none => true
    | some device => !(device.id ≠ message.deviceId || device.networkName ≠ network.name)

/-- The command that `route_to` sends. -/
def routedCommand (message : Message) (fromDevice : Device) (reply : Bool) :
    Except Fault ServiceCommand := do
  let command ← ServiceCommand.create (if reply then "reply".toList else "send".toList)
  let command ← command.addArgument "device".toList fromDevice.name
  let command ← command.addArgument "network".toList fromDevice.networkName
  let command ← command.addArgumentUnsigned "address".toList message.address.toUInt32
  command.addRawArgument "data".toList message.body

/-- `route_to`: the state and whether the message was routed. -/
def routeTo (s : State) (message : Message) (fromDevice : Device) (connectionId : ℕ)
    (reply : Bool) : Except Fault (State × Bool) :=
  match s.connections.find connectionId with
  | none => .ok (s, false)
  | some connection => do
    let command ← routedCommand message fromDevice reply
    match ← catchRangeError (connection.send (.serviceCommand command)) with
    | none => .ok (s, false)
    | some connection =>
      .ok ({ s with connections := s.connections.insert connectionId connection }, true)

/-- The loop of `handle_device_packet`, with the filters it has passed and those
still before it, and the set of dead connections.  The filter of a dead
connection is not passed: the next turn meets it again. -/
def routeLoop (message : Message) (network : Network) (device : Device) :
    ℕ → State → List FilterRecord → List FilterRecord → OrderedMap ℕ Unit →
      Except Fault (State × OrderedMap ℕ Unit)
  | _, s, kept, [], dead => .ok ({ s with filters := kept }, dead)
  | 0, _, _, _ :: _, _ => .error .divergence
  | fuel + 1, s, kept, f :: rest, dead =>
    if !passesFilter message network f then
      routeLoop message network device fuel s (kept ++ [f]) rest dead
    else do
      let (s, routed) ← s.routeTo message device f.connectionId f.isReply
      if !routed then
        -- the source goes on without moving its iterator
        routeLoop message network device fuel s kept (f :: rest) (dead.insert f.connectionId ())
      else if f.isReply || f.isOneTime then
        -- the filter has served and is erased
        routeLoop message network device fuel s kept rest dead
      else routeLoop message network device fuel s (kept ++ [f]) rest dead

/-- **What `route_to` does when it returns**: nothing, or the connection takes a command. -/
theorem exists_of_routeTo {s s' : State} {message : Message} {device : Device} {id : ℕ}
    {reply routed : Bool} (h : s.routeTo message device id reply = .ok (s', routed)) :
    (s' = s ∧ routed = false) ∨ ∃ c c' command, s.connections.find id = some c ∧
      catchRangeError (c.send (.serviceCommand command)) = .ok (some c') ∧
      s' = { s with connections := s.connections.insert id c' } ∧ routed = true := by
  unfold routeTo at h
  split at h
  · cases h
    exact .inl ⟨rfl, rfl⟩
  · next c hfind =>
    obtain ⟨command, -, h⟩ := bind_eq_ok_iff.mp h
    obtain ⟨sent, hsend, h⟩ := bind_eq_ok_iff.mp h
    cases sent with
    | none =>
      cases h
      exact .inl ⟨rfl, rfl⟩
    | some c' =>
      cases h
      exact .inr ⟨c, c', command, hfind, hsend, rfl, rfl⟩

/-- `route_to` fails without a trace. -/
theorem routeTo_eq_false {s s' : State} {message : Message} {device : Device} {id : ℕ}
    {reply : Bool} (h : s.routeTo message device id reply = .ok (s', false)) : s' = s := by
  obtain ⟨rfl, -⟩ | ⟨_, _, _, -, -, -, hrouted⟩ := exists_of_routeTo h
  · rfl
  · cases hrouted

/-- The loop does not get past a filter it cannot serve. -/
theorem routeLoop_stuck {message : Message} {network : Network} {device : Device} {s : State}
    {f : FilterRecord} (hpass : passesFilter message network f = true)
    (hroute : s.routeTo message device f.connectionId f.isReply = .ok (s, false))
    (kept rest : List FilterRecord) (fuel : ℕ) (dead : OrderedMap ℕ Unit) :
    routeLoop message network device fuel s kept (f :: rest) dead = .error .divergence := by
  induction fuel generalizing dead with
  | zero => rfl
  | succ fuel ih =>
    rw [routeLoop, hpass, hroute]
    exact ih _

/-- **One turn for each filter is enough**: more turns change nothing. -/
theorem routeLoop_fuel {message : Message} {network : Network} {device : Device} :
    ∀ (rest : List FilterRecord) (fuel : ℕ) (s : State) (kept : List FilterRecord)
      (dead : OrderedMap ℕ Unit), rest.length ≤ fuel →
      routeLoop message network device fuel s kept rest dead
        = routeLoop message network device rest.length s kept rest dead := by
  intro rest
  induction rest with
  | nil =>
    intro fuel s kept dead _
    cases fuel <;> rfl
  | cons f rest ih =>
    intro fuel s kept dead h
    -- there is a turn for this filter
    obtain ⟨fuel, rfl⟩ : ∃ n, fuel = n + 1 := ⟨fuel - 1, by simp at h; omega⟩
    have hle : rest.length ≤ fuel := by simpa using h
    cases hpass : passesFilter message network f with
    | false => simp [routeLoop, hpass, ih fuel _ _ _ hle]
    | true =>
      cases hroute : s.routeTo message device f.connectionId f.isReply with
      | error e => simp [routeLoop, hpass, hroute]
      | ok r =>
        obtain ⟨s', routed⟩ := r
        cases routed with
        | false =>
          -- an error of the fuel is the same error, whatever the fuel
          rw [routeTo_eq_false hroute] at hroute
          rw [routeLoop_stuck hpass hroute, routeLoop_stuck hpass hroute]
        | true => simp [routeLoop, hpass, hroute, ih fuel _ _ _ hle]

/-- `handle_device_packet`.  A turn that does not pass a filter leaves the loop
where it was, so a loop that is still before a filter after one turn for each
filter never ends. -/
def handleDevicePacket (s : State) (packet : Packet) (networkIndex : ℕ) : Except Fault State :=
  match packet with
  | .deviceInit _ => .ok s
  | .serviceCommand _ => .ok s
  | .message message =>
    match s.networks[networkIndex]? with
    | none => .error .assertion
    | some record =>
      -- values of devices that are not configured are dropped
      match config.findDeviceById record.network.name message.deviceId with
      | none => .ok s
      | some device => do
        let (s, dead) ←
          routeLoop message record.network device s.filters.length s [] s.filters .empty
        return dead.entries.foldl (fun s e => s.closeConnection e.1) s

variable {config} in
/-- **What `handle_device_packet` does when it returns**: nothing, or the loop over the
filters is followed by the end of the dead connections. -/
theorem exists_of_handleDevicePacket {s s' : State} {packet : Packet} {i : ℕ}
    (h : s.handleDevicePacket config packet i = .ok s') :
    s' = s ∨ ∃ message network device t dead,
      routeLoop message network device s.filters.length s [] s.filters .empty = .ok (t, dead) ∧
      s' = dead.entries.foldl (fun s e => s.closeConnection e.1) t := by
  unfold handleDevicePacket at h
  split at h
  -- packets of other kinds are ignored
  · cases h
    exact .inl rfl
  · cases h
    exact .inl rfl
  · next message =>
    split at h
    · cases h
    · next record _ =>
      split at h
      · cases h
        exact .inl rfl
      · next device _ =>
        -- the loop over the filters, and then the connections it has found dead
        obtain ⟨⟨t, dead⟩, hloop, h⟩ := bind_eq_ok_iff.mp h
        cases h
        exact .inr ⟨message, record.network, device, t, dead, hloop, rfl⟩

/-- `on_device_packet_received`. -/
def onDevicePacketReceived (s : State) (packet : Option Packet) (networkIndex : ℕ) :
    Except Fault State :=
  if !s.started then .ok s
  else
    match packet with
    | none => s.disconnectNetwork networkIndex
    | some packet => s.handleDevicePacket config packet networkIndex

/-! ### Commands from clients -/

/-- `on_accepted_connection`.  `insert` leaves an entry under the same key alone;
the new connection is then destroyed while its read listener runs. -/
def onAcceptedConnection (s : State) : Except Fault State :=
  if !s.started then .ok s
  else
    -- the counter is incremented before its use and wraps
    let id := (s.nextConnectionId + 1) % 2 ^ 32
    match s.connections.find id with
    | some _ => .error .assertion
    | none => .ok { s with
        nextConnectionId := id
        connections := s.connections.insert id SocketConnection.fresh.subscribe }

/-- The value that stands for an argument that is not there. -/
def invalidValue : UInt32 := 0xffffffff

/-- The address and mask of the filter that `handle_filter` builds; `none` when it
rejects them. -/
def filterAddress (command : ServiceCommand) (filter : FilterRecord) : Option FilterRecord :=
  let address := command.getArgumentUnsigned "address".toList invalidValue
  let mask := command.getArgumentUnsigned "mask".toList invalidValue
  if address ≠ invalidValue ∧ mask ≠ invalidValue then
    if address > 0xffff ∨ mask > 0xffff then none
    else some { filter with address := address &&& mask, addressMask := mask }
  else some filter

/-- The options of the filter that `handle_filter` builds. -/
def filterOptions (command : ServiceCommand) (filter : FilterRecord) : FilterRecord :=
  if Str.find "one-time".toList (command.getArgument "options".toList) 0 ≠ none then
    { filter with flags := filter.flags ||| FilterRecord.flagOneTime }
  else filter

/-- The device of the filter that `handle_filter` builds; `none` when it is unknown. -/
def filterDevice (command : ServiceCommand) (filter : FilterRecord) : Option FilterRecord :=
  let deviceName := command.getArgument "device".toList
  if deviceName = [] then some filter
  else (config.findDevice deviceName).map fun device => { filter with device := some device }

/-- The filter that `handle_filter` builds. -/
def filterRecord (command : ServiceCommand) (connectionId : ℕ) : Option FilterRecord := do
  let filter ← filterDevice config command (FilterRecord.create connectionId)
  let filter ← filterAddress command filter
  return filterOptions command filter

/-- `handle_filter`.  It ends without a `return` when it has added the filter: the
caller reads a truth value that nothing sets, `unset`. -/
def handleFilter (s : State) (command : ServiceCommand) (connectionId : ℕ) (unset : Bool) :
    State × Bool :=
  match filterRecord config command connectionId with
  | none => (s, false)
  | some filter => ({ s with filters := s.filters ++ [filter] }, unset)

/-- The filter for the reply to a query. -/
def responseFilter (connectionId : ℕ) (device : Device) (address : UInt32) : FilterRecord :=
  { FilterRecord.create connectionId with
    device := some device
    address := address
    addressMask := 0xffff
    flags := FilterRecord.flagReply }

/-- The message that `handle_send` builds; `none` when it rejects the data. -/
def sendMessage (command : ServiceCommand) (type : MessageType) (device : Device)
    (address : UInt32) : Option Message :=
  match type with
  | .request => some ⟨.request, device.id, address.toUInt16, Body.nil⟩
  | .data =>
    match command.getRawArgument "data".toList with
    | none => none
    | some data =>
      if h : data.length ≤ 8 then some ⟨.data, device.id, address.toUInt16, ⟨data, h⟩⟩ else none

/-- The last part of `handle_send`. -/
def enqueue (s : State) (record : SendRecord) : State :=
  { s with
    sendTimer := if s.sendQueue.isEmpty then true else s.sendTimer
    sendQueue := s.sendQueue ++ [record] }

/-- `handle_send`: the state and the outcome. -/
def handleSend (s : State) (command : ServiceCommand) (connectionId : ℕ) (type : MessageType) :
    Except Fault (State × Bool) :=
  match config.findDevice (command.getArgument "device".toList) with
  | none => .ok (s, false)
  | some device =>
    match s.networks.findIdx? fun r => r.network.name = device.networkName with
    | none => .error .assertion
    | some network =>
      if (s.networks[network]?.bind NetworkRecord.connection).isNone then .ok (s, false)
      else
        -- a missing address is out of range as well
        let address := command.getArgumentUnsigned "address".toList invalidValue
        if address > 0xffff then .ok (s, false)
        else
          match sendMessage command type device address with
          | none => .ok (s, false)
          | some message =>
            let filter :=
              if type = .request then responseFilter connectionId device address
              else FilterRecord.create 0
            .ok (s.enqueue ⟨type, network, message, filter⟩, true)

variable {config} in
/-- **What `handle_send` does when it returns**: nothing, or one message is queued. -/
theorem handleSend_cases {s : State} {command : ServiceCommand} {connectionId : ℕ}
    {type : MessageType} {r : State × Bool}
    (h : s.handleSend config command connectionId type = .ok r) :
    r = (s, false) ∨ ∃ device network message,
      config.findDevice (command.getArgument "device".toList) = some device ∧
      (s.networks.findIdx? fun r => r.network.name = device.networkName) = some network ∧
      (s.networks[network]?.bind NetworkRecord.connection).isSome = true ∧
      command.getArgumentUnsigned "address".toList invalidValue ≤ 0xffff ∧
      sendMessage command type device (command.getArgumentUnsigned "address".toList invalidValue)
        = some message ∧
      r = (s.enqueue ⟨type, network, message,
        if type = .request then
          responseFilter connectionId device
            (command.getArgumentUnsigned "address".toList invalidValue)
        else FilterRecord.create 0⟩, true) := by
  unfold handleSend at h
  split at h
  · cases h
    exact Or.inl rfl
  · next device hdevice =>
    split at h
    -- the network of a configured device is one of the networks
    · cases h
    · next network hnetwork =>
      split at h
      -- it is not connected
      · cases h
        exact Or.inl rfl
      · next hconnection =>
        dsimp only at h
        split at h
        -- the address is missing or too large
        · cases h
          exact Or.inl rfl
        · next haddress =>
          split at h
          -- the body is missing or no text of bytes
          · cases h
            exact Or.inl rfl
          · next message hmessage =>
            cases h
            rw [Bool.not_eq_true, Option.isNone_eq_false_iff] at hconnection
            exact Or.inr ⟨device, network, message, hdevice, hnetwork, hconnection,
              UInt32.not_lt.mp haddress, hmessage, rfl⟩

/-- The network of a device is connected. -/
def Connected (s : State) (device : Device) (network : ℕ) : Prop :=
  (s.networks.findIdx? fun r => r.network.name = device.networkName) = some network ∧
    (s.networks[network]?.bind NetworkRecord.connection).isSome = true

variable {config} in
/-- **A command to a device that is connected**: the message it asks for is queued. -/
theorem handleSend_eq {s : State} (command : ServiceCommand) {device : Device} {network : ℕ}
    (hdevice : config.findDevice (command.getArgument "device".toList) = some device)
    (hconnected : s.Connected device network)
    (haddress : command.getArgumentUnsigned "address".toList invalidValue ≤ 0xffff)
    (connectionId : ℕ) (type : MessageType) :
    s.handleSend config command connectionId type =
      match sendMessage command type device
        (command.getArgumentUnsigned "address".toList invalidValue) with
      | none => .ok (s, false)
      | some message => .ok (s.enqueue ⟨type, network, message,
          if type = .request then
            responseFilter connectionId device
              (command.getArgumentUnsigned "address".toList invalidValue)
          else FilterRecord.create 0⟩, true) := by
  have hnone : (s.networks[network]?.bind NetworkRecord.connection).isNone = false :=
    Option.isNone_eq_false_iff.mpr hconnected.2
  unfold handleSend
  simp only [hdevice, hconnected.1, hnone]
  rw [if_neg Bool.false_ne_true, if_neg (UInt32.not_lt.mpr haddress)]

/-- `handle_command`. -/
def handleCommand (s : State) (command : ServiceCommand) (connectionId : ℕ) (unset : Bool) :
    Except Fault (State × Bool) :=
  if command.action = "filter".toList then .ok (s.handleFilter config command connectionId unset)
  else if command.action = "send".toList then s.handleSend config command connectionId .data
  else if command.action = "query".toList then s.handleSend config command connectionId .request
  else .ok (s, false)

variable {config} in
/-- **What `handle_command` makes of a command**, by its action. -/
theorem actions_of_handleCommand {s : State} {command : ServiceCommand} {connectionId : ℕ}
    {unset : Bool} {r : State × Bool}
    (h : s.handleCommand config command connectionId unset = .ok r) :
    (command.action = "filter".toList ∧ r = s.handleFilter config command connectionId unset) ∨
    (command.action = "send".toList ∧ s.handleSend config command connectionId .data = .ok r) ∨
    (command.action = "query".toList ∧
      s.handleSend config command connectionId .request = .ok r) ∨
    (command.action ≠ "send".toList ∧ command.action ≠ "query".toList ∧ r = (s, false)) := by
  unfold handleCommand at h
  split at h
  · next hfilter =>
    cases h
    exact .inl ⟨hfilter, rfl⟩
  split at h
  · next hsend => exact .inr (.inl ⟨hsend, h⟩)
  · next hsend =>
    split at h
    · next hquery => exact .inr (.inr (.inl ⟨hquery, h⟩))
    · next hquery =>
      cases h
      exact .inr (.inr (.inr ⟨hsend, hquery, rfl⟩))

/-- The answer to a command. -/
def commandReply (action : Text) (result : Bool) : Except Fault ServiceCommand := do
  let reply ← ServiceCommand.create (if result then "ok".toList else "fail".toList)
  reply.addArgument "command".toList action

/-- `on_connection_packet_received`.  The packet is dereferenced before it is
compared with null. -/
def onConnectionPacketReceived (s : State) (packet : Option Packet) (connectionId : ℕ)
    (unset : Bool) : Except Fault State :=
  if !s.started then .ok s
  else
    match packet with
    | none => .error .nullDereference
    | some (.message _) => .ok s
    | some (.deviceInit _) => .ok s
    | some (.serviceCommand command) =>
      match s.connections.find connectionId with
      | none => .ok s
      | some connection => do
        let (s, result) ← s.handleCommand config command connectionId unset
        let reply ← commandReply command.action result
        match ← catchRangeError (connection.send (.serviceCommand reply)) with
        | none => return s.closeConnection connectionId
        | some connection =>
          return { s with connections := s.connections.insert connectionId connection }

variable {config} in
/-- **A command from an open connection**, once each part of its handling is known. -/
theorem onConnectionPacketReceived_eq {s t : State} {command reply : ServiceCommand}
    {connectionId : ℕ} {connection : SocketConnection} {unset result : Bool}
    (sent : Option SocketConnection) (hstarted : s.started = true)
    (hfind : s.connections.find connectionId = some connection)
    (hcommand : s.handleCommand config command connectionId unset = .ok (t, result))
    (hreply : commandReply command.action result = .ok reply)
    (hsend : catchRangeError (connection.send (.serviceCommand reply)) = .ok sent) :
    s.onConnectionPacketReceived config (some (.serviceCommand command)) connectionId unset
      = .ok (match sent with
        | none => t.closeConnection connectionId
        | some connection =>
          { t with connections := t.connections.insert connectionId connection }) := by
  unfold onConnectionPacketReceived
  simp only [hstarted, hfind, hcommand, hreply, hsend, ok_bind]
  cases sent with
  | none => rfl
  | some connection => rfl

/-! ### The send timer -/

/-- What `on_send_timer` does with the message it takes from the queue: the state,
and whether the message was sent. -/
def sendQueued (s : State) (record : SendRecord) : Except Fault (State × Bool) :=
  match s.networks[record.network]? with
  | none => .error .assertion
  | some network =>
    match network.connection with
    | none => .ok (s, false)
    | some connection => do
      match ← catchRangeError (connection.send (.message record.message)) with
      | none =>
        let s ← s.disconnectNetwork record.network
        return (s, false)
      | some connection =>
        let network := { network with connection := some connection }
        return ({ s with networks := s.networks.set record.network network }, true)

/-- The end of `on_send_timer`, when the message was sent or not. -/
def finishSend (record : SendRecord) (s : State) (sent : Bool) : State :=
  { s with
    filters :=
      if record.type = .request ∧ sent = true then s.filters ++ [record.responseFilter]
      else s.filters
    sendTimer := if s.sendQueue.isEmpty then s.sendTimer else true }

/-- `on_send_timer`. -/
def onSendTimer (s : State) : Except Fault State :=
  if !s.started then .ok s
  else
    match s.sendQueue with
    | [] => .ok s
    | record :: queue => do
      let (s, sent) ← sendQueued { s with sendQueue := queue } record
      return finishSend record s sent

/-- **What `on_send_timer` does when it returns.** -/
theorem onSendTimer_cases {s s' : State} (h : s.onSendTimer = .ok s') :
    ((s.started = false ∨ s.sendQueue = []) ∧ s' = s) ∨
    ∃ record queue t sent, s.started = true ∧ s.sendQueue = record :: queue ∧
      sendQueued { s with sendQueue := queue } record = .ok (t, sent) ∧
      s' = finishSend record t sent := by
  unfold onSendTimer at h
  split at h
  · next hstopped =>
    cases h
    exact Or.inl ⟨Or.inl (by simpa using hstopped), rfl⟩
  · next hstarted =>
    split at h
    · next hqueue =>
      cases h
      exact Or.inl ⟨Or.inr hqueue, rfl⟩
    · next record queue hqueue =>
      obtain ⟨⟨t, sent⟩, hsend, h⟩ := bind_eq_ok_iff.mp h
      cases h
      exact Or.inr ⟨record, queue, t, sent, by simpa using hstarted, hqueue, hsend, rfl⟩

/-- The turn of a queued message. -/
theorem onSendTimer_eq {s t : State} {record : SendRecord} {queue : List SendRecord} {sent : Bool}
    (hstarted : s.started = true) (hqueue : s.sendQueue = record :: queue)
    (hsend : sendQueued { s with sendQueue := queue } record = .ok (t, sent)) :
    s.onSendTimer = .ok (finishSend record t sent) := by
  unfold onSendTimer
  rw [if_neg (by simp [hstarted])]
  split
  · next hnil => rw [hqueue] at hnil; cases hnil
  · next record' queue' hcons =>
    rw [hqueue] at hcons
    cases hcons
    rw [hsend]
    rfl

/-- `on_reconnect_timeout`. -/
def onReconnectTimeout (s : State) (connects : ℕ → Bool) : State :=
  if !s.started then s else s.connectNetworks connects

/-! ### Starting and stopping -/

/-- The loop of `start_bindings`, the listen call for the binding at index `i`
ending as `listens i` says: the records as they are left, and whether it came to
its end.  A record that still has a server would destroy it while it runs. -/
def startBindings (listens : ℕ → Bool) : ℕ → List BindingRecord →
    Except Fault (List BindingRecord × Bool)
  | _, [] => .ok ([], true)
  | i, r :: rs =>
    if !listens i then .ok (r :: rs, false)
    else if r.server then .error .assertion
    else do
      let (rs, done) ← startBindings listens (i + 1) rs
      return ({ r with server := true } :: rs, done)

/-- `start`: the state, and the exception it leaves with. -/
def start (s : State) (listens connects : ℕ → Bool) :
    Except Fault (State × Option Exception) :=
  if s.started then .ok (s, none)
  else do
    let (bindings, done) ← startBindings listens 0 s.bindings
    let s := { s with bindings := bindings }
    if !done then return (s, some (.runtimeError "binding to address failed"))
    else return ({ s.connectNetworks connects with started := true }, none)

/-- `stop_bindings`. -/
def stopBindings (s : State) : Except Fault State :=
  if s.bindings.any fun r => !r.server then .error .nullDereference
  else .ok { s with bindings := s.bindings.map fun r => { r with server := false } }

/-- `close_connections`. -/
def closeConnections (s : State) : State := { s with connections := .empty, filters := [] }

/-- `stop`. -/
def stop (s : State) : Except Fault State :=
  if !s.started then .ok s
  else do
    let s ← s.disconnectNetworks
    let s ← s.stopBindings
    return { s.closeConnections with sendTimer := false, started := false }

/-! ### A router with one client -/

/-- The router of the sample configuration with one client, after start. -/
def sampleState (client : SocketConnection) : State where
  started := true
  sendTimer := false
  networks := [⟨sampleNetwork, some SocketConnection.fresh.subscribe⟩]
  connectedNetworks := 1
  reconnectTimeout := false
  bindings := [⟨⟨.tcp, [], "2020".toList, 5⟩, true⟩]
  connections := OrderedMap.empty.insert 1 client
  nextConnectionId := 1
  filters := []
  sendQueue := []

end State
end Router
end HomeAutomation
