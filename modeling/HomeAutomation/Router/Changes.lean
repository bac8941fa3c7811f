import HomeAutomation.Proto.EndOfConnection
import HomeAutomation.Router.References

/-!
# What an event can do

Most events leave alone what the queue, the timers and the networks are about.
`Quiet` says so, and `Change` lists what the others do; the invariants of the
router are read off this list.

## Main definitions

* `Quiet` — a step that touches neither queue nor timers nor networks, and installs
  no reply filter.
* `accepted` — the message that `handle_send` accepts in an event.
* `turn` — the message whose turn it is in an event.
* `Change` — everything an event can do.

## Main results

* `sendQueued_cases` — what `on_send_timer` does with a message when it returns.
* `change_of_handle` — an event that comes back does one of the changes.

## References

`router/Router.cpp`.
-/

namespace HomeAutomation
namespace Router

/-- A network, and whether it is connected. -/
def NetworkRecord.link (r : NetworkRecord) : Network × Bool := (r.network, r.connection.isSome)

/-- What happens inside a connection does not touch the link. -/
theorem NetworkRecord.link_connected {r : NetworkRecord} (h : r.connection.isSome = true)
    (c : SocketConnection) : ({ r with connection := some c } : NetworkRecord).link = r.link := by
  rw [NetworkRecord.link, NetworkRecord.link, h]
  rfl

namespace State

/-! ### Subscribed connections -/

/-- The connections of clients are subscribed. -/
def ClientsSubscribed (connections : OrderedMap ℕ SocketConnection) : Prop :=
  ∀ id c, connections.find id = some c → c.subscribed = true

/-- The connections of networks are subscribed. -/
def NetworksSubscribed (networks : List NetworkRecord) : Prop :=
  ∀ r ∈ networks, ∀ c, r.connection = some c → c.subscribed = true

/-- Every connection of the router is subscribed, so that `unsubscribe` stops its
listeners. -/
structure AllSubscribed (s : State) : Prop where
  clients : ClientsSubscribed s.connections
  networks : NetworksSubscribed s.networks

theorem ClientsSubscribed.insert {connections : OrderedMap ℕ SocketConnection}
    (h : ClientsSubscribed connections) (id : ℕ) {c : SocketConnection}
    (hc : c.subscribed = true) : ClientsSubscribed (connections.insert id c) := by
  intro id' c' hfind
  rw [OrderedMap.find_insert] at hfind
  split at hfind
  · cases hfind
    exact hc
  · exact h id' c' hfind

theorem ClientsSubscribed.erase {connections : OrderedMap ℕ SocketConnection}
    (h : ClientsSubscribed connections) (id : ℕ) : ClientsSubscribed (connections.erase id) := by
  intro id' c' hfind
  rw [OrderedMap.find_erase] at hfind
  split at hfind
  · cases hfind
  · exact h id' c' hfind

theorem NetworksSubscribed.set {networks : List NetworkRecord} (h : NetworksSubscribed networks)
    (i : ℕ) {r : NetworkRecord} (hr : ∀ c, r.connection = some c → c.subscribed = true) :
    NetworksSubscribed (networks.set i r) := by
  intro r' hr' c hc
  rcases List.mem_or_eq_of_mem_set hr' with hmem | rfl
  · exact h r' hmem c hc
  · exact hr c hc

theorem NetworksSubscribed.get {networks : List NetworkRecord} (h : NetworksSubscribed networks)
    {i : ℕ} {r : NetworkRecord} (hr : networks[i]? = some r) {c : SocketConnection}
    (hc : r.connection = some c) : c.subscribed = true :=
  h r (List.mem_of_getElem? hr) c hc

/-- A packet that is taken leaves its connection subscribed. -/
theorem subscribed_of_send {c c' : SocketConnection} {packet : Packet}
    (h : catchRangeError (c.send packet) = .ok (some c')) (hc : c.subscribed = true) :
    c'.subscribed = true :=
  (SocketConnection.send_ok (catchRangeError_eq_some_iff.mp h)).1.trans hc

theorem subscribed_of_ioHandler {active : Bool} {c c' : SocketConnection}
    {run : SocketConnection × Effects} (h : ioHandler active c run = .ok c')
    (hrun : run.1.subscribed = true) (hc : c.subscribed = true) : c'.subscribed = true := by
  unfold ioHandler at h
  split at h
  · cases h
    exact hc
  · split at h
    · cases h
    · cases h
      exact hrun

theorem subscribed_of_read {active : Bool} {c c' : SocketConnection} {outcome : RecvOutcome}
    (h : ioHandler active c (c.onReadReady outcome) = .ok c') (hc : c.subscribed = true) :
    c'.subscribed = true := by
  refine subscribed_of_ioHandler h ?_ hc
  cases outcome with
  | received bytes =>
    unfold SocketConnection.onReadReady
    dsimp only
    split
    · exact hc
    · exact hc
  | _ => exact hc

theorem subscribed_of_write {active : Bool} {c c' : SocketConnection}
    {outcomes : List SendOutcome} (h : ioHandler active c (c.onWriteReady outcomes) = .ok c')
    (hc : c.subscribed = true) : c'.subscribed = true := by
  refine subscribed_of_ioHandler h ?_ hc
  rcases SocketConnection.onWriteReady_cases c hc outcomes with
    ⟨-, -, hsub, -⟩ | ⟨-, -, hsub, -⟩
  · exact hsub
  · exact hsub

/-- The filters for replies. -/
def replyFilters (s : State) : List FilterRecord := s.filters.filter FilterRecord.isReply

/-- From `s` to `s'` neither the queue nor the timers nor the networks change, and
no reply filter is installed. -/
structure Quiet (s s' : State) : Prop where
  started : s'.started = s.started
  sendTimer : s'.sendTimer = s.sendTimer
  sendQueue : s'.sendQueue = s.sendQueue
  links : s'.networks.map NetworkRecord.link = s.networks.map NetworkRecord.link
  connectedNetworks : s'.connectedNetworks = s.connectedNetworks
  reconnectTimeout : s'.reconnectTimeout = s.reconnectTimeout
  bindings : s'.bindings = s.bindings
  replies : s'.replyFilters.Sublist s.replyFilters
  idle : s.started = false → s.connections = .empty → s'.connections = .empty
  subscribed : s.AllSubscribed → s'.AllSubscribed

namespace Quiet

theorem refl (s : State) : Quiet s s :=
  ⟨rfl, rfl, rfl, rfl, rfl, rfl, rfl, List.Sublist.refl _, fun _ h => h, fun h => h⟩

theorem trans {s₁ s₂ s₃ : State} (h₁ : Quiet s₁ s₂) (h₂ : Quiet s₂ s₃) : Quiet s₁ s₃ where
  started := h₂.started.trans h₁.started
  sendTimer := h₂.sendTimer.trans h₁.sendTimer
  sendQueue := h₂.sendQueue.trans h₁.sendQueue
  links := h₂.links.trans h₁.links
  connectedNetworks := h₂.connectedNetworks.trans h₁.connectedNetworks
  reconnectTimeout := h₂.reconnectTimeout.trans h₁.reconnectTimeout
  bindings := h₂.bindings.trans h₁.bindings
  replies := h₂.replies.trans h₁.replies
  idle hs hc := h₂.idle (h₁.started.trans hs) (h₁.idle hs hc)
  subscribed hs := h₂.subscribed (h₁.subscribed hs)

/-- A step of a started router that changes only its clients. -/
theorem of_clients {s : State} (hstarted : s.started = true)
    {connections : OrderedMap ℕ SocketConnection}
    (hconnections : ClientsSubscribed s.connections → ClientsSubscribed connections)
    (nextConnectionId : ℕ) {filters : List FilterRecord}
    (hfilters : (filters.filter FilterRecord.isReply).Sublist s.replyFilters) :
    Quiet s { s with
      connections := connections, nextConnectionId := nextConnectionId, filters := filters } :=
  ⟨rfl, rfl, rfl, rfl, rfl, rfl, rfl, hfilters, fun h => absurd hstarted (by simp [h]),
    fun h => ⟨hconnections h.clients, h.networks⟩⟩

end Quiet

/-! ### Clients -/

theorem quiet_closeConnection {s : State} (hstarted : s.started = true) (id : ℕ) :
    Quiet s (s.closeConnection id) :=
  .of_clients hstarted (fun h => h.erase id) _ (List.Sublist.filter _ List.filter_sublist)

theorem quiet_closeConnections {s : State} (hstarted : s.started = true)
    (dead : List (ℕ × Unit)) : Quiet s (dead.foldl (fun s e => s.closeConnection e.1) s) := by
  induction dead generalizing s with
  | nil => exact .refl s
  | cons e dead ih =>
    have hclose := quiet_closeConnection hstarted e.1
    exact hclose.trans (ih (hclose.started.trans hstarted))

/-- `route_to` changes no more than the connection it sends to. -/
theorem routeTo_cases {s s' : State} {message : Message} {device : Device} {id : ℕ}
    {reply routed : Bool} (h : s.routeTo message device id reply = .ok (s', routed)) :
    ∃ connections, s' = { s with connections := connections } ∧
      (ClientsSubscribed s.connections → ClientsSubscribed connections) := by
  obtain ⟨rfl, -⟩ | ⟨c, c', command, hfind, hsend, rfl, -⟩ := exists_of_routeTo h
  · exact ⟨s'.connections, rfl, fun h => h⟩
  · exact ⟨_, rfl, fun h => h.insert id (subscribed_of_send hsend (h id c hfind))⟩

/-- The loop changes only the clients, and keeps filters in their order. -/
theorem quiet_routeLoop {message : Message} {network : Network} {device : Device} :
    ∀ (fuel : ℕ) (s : State) (kept rest : List FilterRecord) (dead : OrderedMap ℕ Unit)
      {r : State × OrderedMap ℕ Unit},
      routeLoop message network device fuel s kept rest dead = .ok r → s.started = true →
      (kept ++ rest).Sublist s.filters → Quiet s r.1 := by
  intro fuel s kept rest dead
  fun_induction routeLoop message network device fuel s kept rest dead with
  | case1 fuel s kept dead =>
    intro r h hstarted hsub
    cases h
    rw [List.append_nil] at hsub
    exact .of_clients hstarted (fun h => h) _ (hsub.filter _)
  -- a loop that does not get to its end returns nothing
  | case2 => intro r h; cases h
  | case3 fuel s kept f rest dead hpass ih =>
    intro r h hstarted hsub
    exact ih h hstarted (by simpa using hsub)
  | case4 fuel s kept f rest dead hpass ih1 ih2 ih3 =>
    intro r h hstarted hsub
    obtain ⟨⟨s', routed⟩, hroute, h⟩ := bind_eq_ok_iff.mp h
    obtain ⟨connections, rfl, hconnections⟩ := routeTo_cases hroute
    have hquiet : Quiet s { s with connections := connections } :=
      .of_clients hstarted hconnections _ (List.Sublist.refl _)
    have herase : (kept ++ rest).Sublist (kept ++ f :: rest) :=
      (List.Sublist.refl kept).append (List.sublist_cons_self f rest)
    dsimp only at h
    -- by whether the connection took the command, and whether its filter goes then
    split at h
    · exact hquiet.trans (ih1 _ h hstarted hsub)
    · split at h
      · exact hquiet.trans (ih2 _ h hstarted (herase.trans hsub))
      · exact hquiet.trans (ih3 _ h hstarted (by simpa using hsub))

theorem quiet_handleDevicePacket {config : Config} {s s' : State} (hstarted : s.started = true)
    {packet : Packet} {i : ℕ} (h : s.handleDevicePacket config packet i = .ok s') :
    Quiet s s' := by
  obtain rfl | ⟨message, network, device, t, dead, hloop, rfl⟩ := exists_of_handleDevicePacket h
  · exact .refl s'
  · have hquiet := quiet_routeLoop _ _ _ _ _ hloop hstarted (List.Sublist.refl _)
    exact hquiet.trans (quiet_closeConnections (hquiet.started.trans hstarted) dead.entries)

theorem quiet_onAcceptedConnection {s s' : State} (h : s.onAcceptedConnection = .ok s') :
    Quiet s s' := by
  unfold onAcceptedConnection at h
  split at h
  · cases h
    exact .refl s
  · next hstarted =>
    dsimp only at h
    split at h
    · cases h
    · cases h
      exact .of_clients (by simpa using hstarted) (fun h => h.insert _ rfl) _
        (List.Sublist.refl _)

theorem quiet_onClientSocket {s s' : State} {id : ℕ}
    {handler : SocketConnection → Except Fault SocketConnection}
    (hhandler : ∀ c c', handler c = .ok c' → c.subscribed = true → c'.subscribed = true)
    (h : s.onClientSocket id handler = .ok s') : Quiet s s' := by
  unfold onClientSocket at h
  split at h
  · cases h
    exact .refl s
  · next c hfind =>
    obtain ⟨c', hc', h⟩ := bind_eq_ok_iff.mp h
    cases h
    refine ⟨rfl, rfl, rfl, rfl, rfl, rfl, rfl, List.Sublist.refl _, fun _ hempty => ?_,
      fun hs => ⟨?_, hs.networks⟩⟩
    · rw [hempty] at hfind
      cases hfind
    · exact hs.clients.insert id (hhandler c c' hc' (hs.clients id c hfind))

/-- Replacing the record at an index by one with the same link keeps the links. -/
theorem links_set {networks : List NetworkRecord} {i : ℕ} {r r' : NetworkRecord}
    (hr : networks[i]? = some r) (hlink : r'.link = r.link) :
    (networks.set i r').map NetworkRecord.link = networks.map NetworkRecord.link := by
  obtain ⟨hi, hget⟩ := List.getElem?_eq_some_iff.mp hr
  rw [List.map_set, hlink, ← hget, ← List.getElem_map NetworkRecord.link (h := by simpa using hi)]
  exact List.set_getElem_self _

theorem quiet_onNetworkSocket {s s' : State} {i : ℕ}
    {handler : SocketConnection → Except Fault SocketConnection}
    (hhandler : ∀ c c', handler c = .ok c' → c.subscribed = true → c'.subscribed = true)
    (h : s.onNetworkSocket i handler = .ok s') : Quiet s s' := by
  unfold onNetworkSocket at h
  split at h
  · cases h
    exact .refl s
  · next r hr =>
    split at h
    · cases h
      exact .refl s
    · next c hc =>
      obtain ⟨c', hc', h⟩ := bind_eq_ok_iff.mp h
      cases h
      have hlink := NetworkRecord.link_connected (r := r) (by rw [hc]; rfl) c'
      refine ⟨rfl, rfl, rfl, links_set hr hlink, rfl, rfl, rfl, List.Sublist.refl _, fun _ h => h,
        fun hs => ⟨hs.clients, hs.networks.set i fun d hd => ?_⟩⟩
      cases hd
      exact hhandler c c' hc' (hs.networks.get hr hc)

/-! ### Commands -/

/-- The type of the message that a command asks for. -/
def sendType (action : Text) : Option MessageType :=
  if action = "send".toList then some .data
  else if action = "query".toList then some .request
  else none

/-- The message that `handle_send` accepts in an event: what it has put into the queue
when it returns true. -/
def accepted (config : Config) (s : State) : Event → List SendRecord
  | .clientPacket id (some (.serviceCommand command)) _ =>
    if s.started ∧ (s.connections.find id).isSome then
      match sendType command.action with
      | none => []
      | some type =>
        match s.handleSend config command id type with
        | .ok (t, true) => t.sendQueue.drop s.sendQueue.length
        | _ => []
    else []
  | _ => []

/-- The message whose turn it is in an event. -/
def turn (s : State) : Event → List SendRecord
  | .sendTick => if s.started ∧ s.sendTimer then s.sendQueue.head?.toList else []
  | _ => []

/-- A filter of a client is not for a reply. -/
theorem isReply_filterRecord {config : Config} {command : ServiceCommand} {id : ℕ}
    {f : FilterRecord} (h : filterRecord config command id = some f) : f.isReply = false := by
  obtain ⟨f₂, -, hflags, rfl⟩ := filterRecord_eq h
  unfold filterOptions
  split
  · show decide ((f₂.flags ||| FilterRecord.flagOneTime) &&& FilterRecord.flagReply ≠ 0) = false
    rw [hflags]
    decide
  · rw [FilterRecord.isReply, hflags]
    decide

theorem quiet_handleFilter {config : Config} {s : State} (hstarted : s.started = true)
    (command : ServiceCommand) (id : ℕ) (unset : Bool) :
    Quiet s (s.handleFilter config command id unset).1 := by
  unfold handleFilter
  split
  · exact .refl s
  · next f hf =>
    refine .of_clients hstarted (fun h => h) _ ?_
    rw [List.filter_append, List.filter_cons_of_neg (by simp [isReply_filterRecord hf])]
    simp [replyFilters]

/-- A query's record carries a filter for the reply. -/
def Answerable (r : SendRecord) : Prop := r.type = .request → r.responseFilter.isReply = true

/-- **What `handle_command` does when it returns**: nothing to the queue, or
`handle_send` has accepted one message. -/
theorem handleCommand_cases {config : Config} {s : State} (hstarted : s.started = true)
    {command : ServiceCommand} {id : ℕ} (hid : (s.connections.find id).isSome = true)
    {unset : Bool} {r : State × Bool} (h : s.handleCommand config command id unset = .ok r) :
    (accepted config s (.clientPacket id (some (.serviceCommand command)) unset) = [] ∧
      Quiet s r.1) ∨
    ∃ record, accepted config s (.clientPacket id (some (.serviceCommand command)) unset)
      = [record] ∧ Answerable record ∧ r = (s.enqueue record, true) := by
  -- `send` and `query`: a message is queued, or refused without a trace
  have hsend : ∀ type, sendType command.action = some type →
      s.handleSend config command id type = .ok r →
      (accepted config s (.clientPacket id (some (.serviceCommand command)) unset) = [] ∧
        Quiet s r.1) ∨
      ∃ record, accepted config s (.clientPacket id (some (.serviceCommand command)) unset)
        = [record] ∧ Answerable record ∧ r = (s.enqueue record, true) := by
    intro type htype h
    unfold accepted
    dsimp only
    rw [if_pos ⟨hstarted, hid⟩, htype]
    dsimp only
    rw [h]
    obtain rfl | ⟨device, network, message, -, -, -, -, -, rfl⟩ := handleSend_cases h
    · exact Or.inl ⟨rfl, .refl s⟩
    · refine Or.inr ⟨_, ?_, fun hrequest => ?_, rfl⟩
      · exact List.drop_left
      -- the filter for the reply carries the reply flag
      · dsimp only at hrequest ⊢
        rw [if_pos hrequest]
        show decide (FilterRecord.flagReply &&& FilterRecord.flagReply ≠ 0) = true
        decide
  -- the other commands queue nothing
  have hnothing : sendType command.action = none →
      accepted config s (.clientPacket id (some (.serviceCommand command)) unset) = [] := by
    intro hnone
    unfold accepted
    dsimp only
    rw [if_pos ⟨hstarted, hid⟩, hnone]
  obtain ⟨hfilter, rfl⟩ | ⟨haction, h⟩ | ⟨haction, h⟩ | ⟨hnotSend, hnotQuery, rfl⟩ :=
    actions_of_handleCommand h
  · exact Or.inl ⟨hnothing (by rw [hfilter]; rfl), quiet_handleFilter hstarted command id unset⟩
  · exact hsend .data (by rw [haction]; rfl) h
  · exact hsend .request (by rw [haction]; rfl) h
  · exact Or.inl ⟨hnothing (by rw [sendType, if_neg hnotSend, if_neg hnotQuery]), .refl s⟩

/-- A command leaves the connections to its answer. -/
theorem connections_handleCommand {config : Config} {s : State} {command : ServiceCommand}
    {id : ℕ} {unset : Bool} {r : State × Bool}
    (h : s.handleCommand config command id unset = .ok r) : r.1.connections = s.connections := by
  have hsend : ∀ type, s.handleSend config command id type = .ok r →
      r.1.connections = s.connections := by
    intro type h
    obtain rfl | ⟨_, _, _, -, -, -, -, -, rfl⟩ := handleSend_cases h
    · rfl
    · rfl
  obtain ⟨-, rfl⟩ | ⟨-, h⟩ | ⟨-, h⟩ | ⟨-, -, rfl⟩ := actions_of_handleCommand h
  · unfold handleFilter
    split <;> rfl
  · exact hsend .data h
  · exact hsend .request h
  · rfl

/-- The end of a command: the answer is in the client's buffer, or the client is
dropped. -/
theorem quiet_answer {t s' : State} (hstarted : t.started = true) (id : ℕ)
    (sent : Option SocketConnection)
    (hsent : ∀ connection, sent = some connection → ClientsSubscribed t.connections →
      connection.subscribed = true)
    (h : s' = match sent with
      | none => t.closeConnection id
      | some connection => { t with connections := t.connections.insert id connection }) :
    Quiet t s' := by
  cases sent with
  | none =>
    rw [h]
    exact quiet_closeConnection hstarted id
  | some connection =>
    rw [h]
    exact .of_clients hstarted (fun ht => ht.insert id (hsent connection rfl ht)) _
      (List.Sublist.refl _)

theorem onConnectionPacketReceived_cases {config : Config} {s s' : State} {packet : Option Packet}
    {id : ℕ} {unset : Bool} (h : s.onConnectionPacketReceived config packet id unset = .ok s') :
    (accepted config s (.clientPacket id packet unset) = [] ∧ Quiet s s') ∨
    ∃ record, accepted config s (.clientPacket id packet unset) = [record] ∧ Answerable record ∧
      s.started = true ∧ Quiet (s.enqueue record) s' := by
  unfold onConnectionPacketReceived at h
  split at h
  · next hstarted =>
    cases h
    have hstopped : s.started = false := by simpa using hstarted
    -- a router that is stopped looks at no packet
    refine Or.inl ⟨?_, .refl s⟩
    unfold accepted
    split
    · rw [if_neg (by simp [hstopped])]
    · rfl
  · next hnot =>
    have hstarted : s.started = true := by simpa using hnot
    split at h
    -- the null packet is dereferenced
    · cases h
    -- what a device would send is ignored
    · cases h
      exact Or.inl ⟨rfl, .refl s⟩
    · cases h
      exact Or.inl ⟨rfl, .refl s⟩
    · split at h
      · next hfind =>
        cases h
        refine Or.inl ⟨?_, .refl s⟩
        rw [accepted, if_neg (by simp [hfind])]
      · next command connection hfind =>
        obtain ⟨⟨t, result⟩, hcommand, h⟩ := bind_eq_ok_iff.mp h
        obtain ⟨reply, -, h⟩ := bind_eq_ok_iff.mp h
        obtain ⟨sent, hsend, h⟩ := bind_eq_ok_iff.mp h
        -- the answer is sent by the connection the command came from
        have hsent : ∀ c, sent = some c → ClientsSubscribed t.connections →
            c.subscribed = true := by
          rintro c rfl ht
          rw [show t.connections = s.connections from connections_handleCommand hcommand] at ht
          exact subscribed_of_send hsend (ht id connection hfind)
        have hanswer : t.started = true → Quiet t s' := by
          intro ht
          refine quiet_answer ht id sent hsent ?_
          cases sent with
          | none =>
            cases h
            rfl
          | some connection =>
            cases h
            rfl
        rcases handleCommand_cases hstarted (by simp [hfind]) hcommand with
          ⟨haccepted, hquiet⟩ | ⟨record, haccepted, hrecord, ht⟩
        · exact Or.inl ⟨haccepted, hquiet.trans (hanswer (hquiet.started.trans hstarted))⟩
        · cases ht
          exact Or.inr ⟨record, haccepted, hrecord, hstarted, hanswer hstarted⟩

/-! ### Networks and the send timer -/

/-- The connection of the network at index `i`, if it is connected. -/
def connectionOf (s : State) (i : ℕ) : Option SocketConnection :=
  s.networks[i]?.bind NetworkRecord.connection

/-- The network of a queued message is down. -/
def NetworkDown (s : State) (record : SendRecord) : Prop := s.connectionOf record.network = none

/-- The connection of a queued message has no room for it. -/
def Overflows (s : State) (record : SendRecord) : Prop :=
  ∃ c what, s.connectionOf record.network = some c ∧
    c.send (.message record.message) = .ok (.error (.rangeError what))

/-- **What becomes of a message at its turn.** -/
theorem sendQueued_cases {s t : State} {record : SendRecord} {sent : Bool}
    (h : s.sendQueued record = .ok (t, sent)) :
    (s.NetworkDown record ∧ t = s ∧ sent = false) ∨
    (s.Overflows record ∧ s.disconnectNetwork record.network = .ok t ∧ sent = false) ∨
    ∃ n c', s.networks[record.network]? = some n ∧ n.connection.isSome = true ∧
      t = { s with
        networks := s.networks.set record.network { n with connection := some c' } } ∧
      sent = true := by
  cases handedOver_of_sendQueued h with
  | down hn hc => exact Or.inl ⟨by simp [NetworkDown, connectionOf, hn, hc], rfl, rfl⟩
  | overflowed hn hc hsend hlost =>
    exact Or.inr (Or.inl ⟨⟨_, _, by simp [connectionOf, hn, hc], hsend⟩, hlost, rfl⟩)
  | taken hn hc hsend => exact Or.inr (Or.inr ⟨_, _, hn, by simp [hc], rfl, rfl⟩)

/-! ### Frames -/

theorem updateReconnectTimer_eq (s : State) :
    s.updateReconnectTimer = { s with
      reconnectTimeout :=
        s.reconnectTimeout || decide (s.connectedNetworks < s.networks.length) } := by
  unfold updateReconnectTimer
  split
  · next h => simp [h]
  · next h => simp [h]

/-- `connect_networks` changes only the networks and the reconnect timer. -/
theorem connectNetworks_frame (s : State) (connects : ℕ → Bool) :
    ∃ networks connected timeout, s.connectNetworks connects = { s with
      networks := networks, connectedNetworks := connected, reconnectTimeout := timeout } := by
  unfold connectNetworks
  split
  · exact ⟨_, _, _, rfl⟩
  · rw [updateReconnectTimer_eq]
    exact ⟨_, _, _, rfl⟩

theorem onReconnectTimeout_frame (s : State) (connects : ℕ → Bool) :
    ∃ networks connected timeout, s.onReconnectTimeout connects = { s with
      networks := networks, connectedNetworks := connected, reconnectTimeout := timeout } := by
  unfold onReconnectTimeout
  split
  · exact ⟨_, _, _, rfl⟩
  · exact connectNetworks_frame s connects

/-- `disconnect_network` changes only the networks and the reconnect timer, and
removes filters. -/
theorem disconnectNetwork_frame {s s' : State} {i : ℕ} (h : s.disconnectNetwork i = .ok s') :
    ∃ networks connected timeout p, s' = { s with
      networks := networks, connectedNetworks := connected, reconnectTimeout := timeout,
      filters := s.filters.filter p } := by
  obtain ⟨r, c, -, -, rfl⟩ := disconnectNetwork_cases h
  rw [updateReconnectTimer_eq]
  exact ⟨_, _, _, _, rfl⟩

/-- A turn changes only the networks and the reconnect timer, and removes filters
when the message is not sent. -/
theorem sendQueued_frame {s t : State} {record : SendRecord} {sent : Bool}
    (h : s.sendQueued record = .ok (t, sent)) :
    ∃ networks connected timeout p, t = { s with
      networks := networks, connectedNetworks := connected, reconnectTimeout := timeout,
      filters := s.filters.filter p } ∧ (sent = true → ∀ f, p f = true) := by
  rcases sendQueued_cases h with ⟨-, rfl, rfl⟩ | ⟨-, hlost, rfl⟩ | ⟨n, c', -, -, rfl, rfl⟩
  · exact ⟨t.networks, t.connectedNetworks, t.reconnectTimeout, fun _ => true, by simp,
      fun h => by cases h⟩
  · obtain ⟨networks, connected, timeout, p, rfl⟩ := disconnectNetwork_frame hlost
    exact ⟨networks, connected, timeout, p, rfl, fun h => by cases h⟩
  · exact ⟨s.networks.set record.network { n with connection := some c' }, s.connectedNetworks,
      s.reconnectTimeout, fun _ => true, by simp, fun _ _ => rfl⟩

/-! ### Starting and stopping -/

/-- **What `stop` does when it returns from a started router.** -/
theorem stop_cases {s s' : State} (hstarted : s.started = true) (h : s.stop = .ok s') :
    (∀ r ∈ s.networks, r.connection.isSome = true) ∧ (∀ r ∈ s.bindings, r.server = true) ∧
      s' = { s with
        started := false
        sendTimer := false
        networks := s.networks.map fun r => { r with connection := none }
        connectedNetworks := 0
        reconnectTimeout := false
        bindings := s.bindings.map fun r => { r with server := false }
        connections := .empty
        filters := [] } := by
  unfold stop at h
  rw [if_neg (by simp [hstarted])] at h
  obtain ⟨t, ht, h⟩ := bind_eq_ok_iff.mp h
  obtain ⟨t', ht', h⟩ := bind_eq_ok_iff.mp h
  unfold disconnectNetworks at ht
  split at ht
  · cases ht
  · next hnetworks =>
    cases ht
    unfold stopBindings at ht'
    split at ht'
    · cases ht'
    · next hbindings =>
      cases ht'
      cases h
      -- the loops get past a record only when it has its connection, or its server
      refine ⟨fun r hr => ?_, fun r hr => ?_, rfl⟩
      · by_contra hnot
        exact hnetworks (List.any_eq_true.mpr ⟨r, hr, by simpa using hnot⟩)
      · by_contra hnot
        exact hbindings (List.any_eq_true.mpr ⟨r, hr, by simpa using hnot⟩)

/-- **Everything an event can do.** -/
inductive Change (config : Config) (s : State) : Event → State → Prop
  /-- Nothing that concerns the queue, the timers or the networks. -/
  | quiet {e : Event} {s' : State} (haccepted : accepted config s e = []) (hturn : turn s e = [])
      (h : Quiet s s') : Change config s e s'
  /-- A message is accepted. -/
  | queued {e : Event} {s' : State} (record : SendRecord) (hstarted : s.started = true)
      (haccepted : accepted config s e = [record]) (hturn : turn s e = [])
      (hrecord : Answerable record) (h : Quiet (s.enqueue record) s') : Change config s e s'
  /-- The send timer fires, and there is nothing to do. -/
  | idle (hidle : s.started = false ∨ s.sendQueue = []) :
      Change config s .sendTick { s with sendTimer := false }
  /-- A message has its turn. -/
  | turned (record : SendRecord) (queue : List SendRecord) (t : State) (sent : Bool)
      (hstarted : s.started = true) (htimer : s.sendTimer = true)
      (hqueue : s.sendQueue = record :: queue)
      (hsend : sendQueued { s with sendTimer := false, sendQueue := queue } record
        = .ok (t, sent)) : Change config s .sendTick (finishSend record t sent)
  /-- A network is lost. -/
  | lost {s' : State} (i : ℕ) (hstarted : s.started = true)
      (h : s.disconnectNetwork i = .ok s') : Change config s (.devicePacket i none) s'
  /-- The reconnect timer fires. -/
  | reconnected (connects : ℕ → Bool) : Change config s (.reconnectTick connects)
      (onReconnectTimeout { s with reconnectTimeout := false } connects)
  /-- A binding cannot be started. -/
  | startFailed (listens connects : ℕ → Bool) (bindings : List BindingRecord)
      (hstarted : s.started = false)
      (hbindings : startBindings listens 0 s.bindings = .ok (bindings, false)) :
      Change config s (.start listens connects) { s with bindings := bindings }
  /-- The router is started. -/
  | started (listens connects : ℕ → Bool) (bindings : List BindingRecord)
      (hstarted : s.started = false)
      (hbindings : startBindings listens 0 s.bindings = .ok (bindings, true)) :
      Change config s (.start listens connects)
        { connectNetworks { s with bindings := bindings } connects with started := true }
  /-- The router is stopped. -/
  | stopped {s' : State} (hstarted : s.started = true) (h : s.stop = .ok s') :
      Change config s .stop s'

variable {config : Config}

theorem change_start {s : State} {listens connects : ℕ → Bool} {r : State × Option Exception}
    (h : s.start listens connects = .ok r) :
    Change config s (.start listens connects) r.1 := by
  unfold start at h
  split at h
  · cases h
    exact .quiet rfl rfl (.refl s)
  · next hnot =>
    have hstarted : s.started = false := by simpa using hnot
    obtain ⟨⟨bindings, done⟩, hbindings, h⟩ := bind_eq_ok_iff.mp h
    cases done with
    | false =>
      cases h
      exact .startFailed listens connects bindings hstarted hbindings
    | true =>
      cases h
      exact .started listens connects bindings hstarted hbindings

theorem change_stop {s s' : State} (h : s.stop = .ok s') : Change config s .stop s' := by
  by_cases hstarted : s.started = true
  · exact .stopped hstarted h
  · unfold stop at h
    rw [if_pos (by simpa using hstarted)] at h
    cases h
    exact .quiet rfl rfl (.refl s)

theorem change_devicePacket {s s' : State} {packet : Option Packet} {i : ℕ}
    (h : s.onDevicePacketReceived config packet i = .ok s') :
    Change config s (.devicePacket i packet) s' := by
  unfold onDevicePacketReceived at h
  split at h
  · cases h
    exact .quiet rfl rfl (.refl s)
  · next hnot =>
    have hstarted : s.started = true := by simpa using hnot
    split at h
    · exact .lost i hstarted h
    · exact .quiet rfl rfl (quiet_handleDevicePacket hstarted h)

theorem change_sendTick {s s' : State} (h : s.handle config .sendTick = .ok s') :
    Change config s .sendTick s' := by
  rw [handle] at h
  split at h
  · next htimer =>
    obtain ⟨hidle, rfl⟩ | ⟨record, queue, t, sent, hstarted, hqueue, hsend, rfl⟩ :=
      onSendTimer_cases h
    · exact .idle hidle
    · exact .turned record queue t sent hstarted htimer hqueue hsend
  · next htimer =>
    cases h
    exact .quiet rfl (by rw [turn, if_neg (by simp [htimer])]) (.refl s)

/-- **An event that comes back does one of the changes.** -/
theorem change_of_handle {s s' : State} {e : Event} (h : s.handle config e = .ok s') :
    Change config s e s' := by
  cases e with
  | start listens connects =>
    obtain ⟨r, hstart, rfl⟩ := start_of_handle h
    exact change_start hstart
  | stop => exact change_stop h
  | accept => exact .quiet rfl rfl (quiet_onAcceptedConnection h)
  | clientPacket id packet unset =>
    rcases onConnectionPacketReceived_cases h with
      ⟨haccepted, hquiet⟩ | ⟨record, haccepted, hrecord, hstarted, hquiet⟩
    · exact .quiet haccepted rfl hquiet
    · exact .queued record hstarted haccepted rfl hrecord hquiet
  | clientRead id outcome =>
    exact .quiet rfl rfl (quiet_onClientSocket (fun _ _ => subscribed_of_read) h)
  | clientWrite id outcomes =>
    exact .quiet rfl rfl (quiet_onClientSocket (fun _ _ => subscribed_of_write) h)
  | devicePacket i packet => exact change_devicePacket h
  | networkRead i outcome =>
    exact .quiet rfl rfl (quiet_onNetworkSocket (fun _ _ => subscribed_of_read) h)
  | networkWrite i outcomes =>
    exact .quiet rfl rfl (quiet_onNetworkSocket (fun _ _ => subscribed_of_write) h)
  | sendTick => exact change_sendTick h
  | reconnectTick connects =>
    rw [handle] at h
    split at h
    · cases h
      exact .reconnected connects
    · cases h
      exact .quiet rfl rfl (.refl s)

/-! ### Every connection is subscribed -/

theorem networksSubscribed_connectNetworks {s : State} (hs : NetworksSubscribed s.networks)
    (connects : ℕ → Bool) : NetworksSubscribed (s.connectNetworks connects).networks := by
  unfold connectNetworks
  split
  · exact hs
  · rw [updateReconnectTimer_eq]
    intro r' hr' c hc
    obtain ⟨⟨r, i⟩, hr, rfl⟩ := List.mem_map.mp hr'
    unfold connectNetwork at hc
    split at hc
    -- a network that is connected is left alone
    · exact hs r (List.mem_of_getElem? (List.mk_mem_zipIdx_iff_getElem?.mp hr)) c hc
    · next hnone =>
      -- a new connection is subscribed before it is stored
      dsimp only at hc hnone
      split at hc
      · cases hc
        rfl
      · rw [hnone] at hc
        cases hc

theorem networksSubscribed_disconnectNetwork {s s' : State} (hs : NetworksSubscribed s.networks)
    {i : ℕ} (h : s.disconnectNetwork i = .ok s') : NetworksSubscribed s'.networks := by
  obtain ⟨r, c, -, -, rfl⟩ := disconnectNetwork_cases h
  rw [updateReconnectTimer_eq]
  exact hs.set i fun c hc => by cases hc

theorem networksSubscribed_sendQueued {s t : State} (hs : NetworksSubscribed s.networks)
    {record : SendRecord} {sent : Bool} (h : s.sendQueued record = .ok (t, sent)) :
    NetworksSubscribed t.networks := by
  cases handedOver_of_sendQueued h with
  | down => exact hs
  | overflowed _ _ _ hlost => exact networksSubscribed_disconnectNetwork hs hlost
  | taken hn hc hsend =>
    refine hs.set record.network fun d hd => ?_
    cases hd
    exact (SocketConnection.send_ok hsend).1.trans (hs.get hn hc)

/-- **One step**: the connections of a router are subscribed as long as it has them. -/
theorem allSubscribed_of_change {s s' : State} {e : Event} (hs : s.AllSubscribed)
    (h : Change config s e s') : s'.AllSubscribed := by
  cases h with
  | quiet _ _ h => exact h.subscribed hs
  | queued record _ _ _ _ h => exact h.subscribed ⟨hs.clients, hs.networks⟩
  | idle => exact ⟨hs.clients, hs.networks⟩
  | turned record queue t sent _ _ _ hsend =>
    -- a turn sends to the network, and not to a client
    have hconnections : t.connections = s.connections := by
      rw [connections_sendQueued hsend]
    have hnetworks : NetworksSubscribed t.networks :=
      networksSubscribed_sendQueued (s := { s with sendTimer := false, sendQueue := queue })
        hs.networks hsend
    exact ⟨hconnections ▸ hs.clients, hnetworks⟩
  | lost i _ h =>
    have hconnections := connections_disconnectNetwork h
    exact ⟨hconnections ▸ hs.clients, networksSubscribed_disconnectNetwork hs.networks h⟩
  | reconnected connects =>
    obtain ⟨networks, connected, timeout, h⟩ :=
      onReconnectTimeout_frame { s with reconnectTimeout := false } connects
    refine ⟨by rw [h]; exact hs.clients, ?_⟩
    unfold onReconnectTimeout
    split
    · exact hs.networks
    · exact networksSubscribed_connectNetworks (s := { s with reconnectTimeout := false })
        hs.networks connects
  | startFailed => exact ⟨hs.clients, hs.networks⟩
  | started listens connects bindings =>
    obtain ⟨networks, connected, timeout, h⟩ :=
      connectNetworks_frame { s with bindings := bindings } connects
    refine ⟨by rw [h]; exact hs.clients, ?_⟩
    exact networksSubscribed_connectNetworks (s := { s with bindings := bindings }) hs.networks
      connects
  | stopped hstarted h =>
    obtain ⟨-, -, rfl⟩ := stop_cases hstarted h
    -- no connection is left
    refine ⟨fun id c hc => ?_, fun r' hr' c hc => ?_⟩
    · cases hc
    · obtain ⟨r, -, rfl⟩ := List.mem_map.mp hr'
      cases hc

end State
end Router
end HomeAutomation
