import HomeAutomation.Proto.RoundTrip
import HomeAutomation.Router.Step

/-!
# Filters and the connections they belong to

Every filter should belong to a client that is still connected.  Filters come
from two places: `handle_filter` adds one for the client whose command it runs,
and `on_send_timer` adds the filter for the reply to a query when the query's turn
in the queue comes.  The client may be gone by then: closing a connection removes
its filters but leaves its queries in the queue.

## Main definitions

* `Referenced` — every filter's connection is open.
* `Keeps` — a step adds no filter and closes no connection.
* `HandsOverOrphan` — the send timer is about to hand over a query whose client is
  gone.

## Main results

* `referenced_handle` — every other step keeps the references.
* `always_referenced_iff` — the references hold throughout exactly the runs in
  which no query is handed over for a client that is gone.
* `not_cleansUp` — the end of a client's connection is never handled.

## References

`router/Router.cpp`.
-/

namespace HomeAutomation
namespace Router
namespace State

/-- **The reference invariant**: every filter's connection is open. -/
def Referenced (s : State) : Prop :=
  ∀ f ∈ s.filters, (s.connections.find f.connectionId).isSome = true

/-- From `s` to `s'` no filter is added and no connection is closed. -/
structure Keeps (s s' : State) : Prop where
  filters : ∀ f ∈ s'.filters, f ∈ s.filters
  connections : ∀ id, (s.connections.find id).isSome = true → (s'.connections.find id).isSome = true

theorem Keeps.refl (s : State) : Keeps s s := ⟨fun _ h => h, fun _ h => h⟩

theorem Keeps.of_eq {s s' : State} (hf : s'.filters = s.filters)
    (hc : s'.connections = s.connections) : Keeps s s' :=
  ⟨fun _ h => hf ▸ h, fun _ h => hc ▸ h⟩

theorem Referenced.keeps {s s' : State} (hs : s.Referenced) (h : Keeps s s') : s'.Referenced :=
  fun f hf => h.connections _ (hs f (h.filters f hf))

/-- Storing a connection under a key closes none. -/
theorem keeps_insert (s : State) (id : ℕ) (c : SocketConnection) :
    Keeps s { s with connections := s.connections.insert id c } := by
  refine ⟨fun _ h => h, fun id' h => ?_⟩
  show ((s.connections.insert id c).find id').isSome = true
  rw [OrderedMap.find_insert]
  split
  · rfl
  · exact h

/-! ### Networks -/

theorem keeps_connectNetworks (s : State) (connects : ℕ → Bool) :
    Keeps s (s.connectNetworks connects) := by
  unfold connectNetworks
  split
  · exact .refl s
  · exact .of_eq (filters_updateReconnectTimer _) (connections_updateReconnectTimer _)

theorem connections_disconnectNetwork {s s' : State} {i : ℕ}
    (h : s.disconnectNetwork i = .ok s') : s'.connections = s.connections := by
  obtain ⟨r, c, -, -, rfl⟩ := disconnectNetwork_cases h
  exact connections_updateReconnectTimer _

theorem keeps_disconnectNetwork {s s' : State} {i : ℕ} (h : s.disconnectNetwork i = .ok s') :
    Keeps s s' := by
  have hconnections := connections_disconnectNetwork h
  obtain ⟨r, c, -, -, rfl⟩ := disconnectNetwork_cases h
  exact ⟨fun f hf => (List.mem_filter.mp hf).1, fun id hid => by rwa [hconnections]⟩

/-! ### Messages from devices -/

theorem keeps_routeTo {s s' : State} {message : Message} {device : Device} {id : ℕ} {reply : Bool}
    {routed : Bool} (h : s.routeTo message device id reply = .ok (s', routed)) : Keeps s s' := by
  obtain ⟨rfl, -⟩ | ⟨_, connection, _, -, -, rfl, -⟩ := exists_of_routeTo h
  · exact .refl s'
  · exact keeps_insert s id connection

/-- The loop leaves filters that were there, and closes no connection. -/
theorem keeps_routeLoop {message : Message} {network : Network} {device : Device} :
    ∀ (fuel : ℕ) (s : State) (kept rest : List FilterRecord) (dead : OrderedMap ℕ Unit)
      {r : State × OrderedMap ℕ Unit},
      routeLoop message network device fuel s kept rest dead = .ok r →
      (∀ f ∈ r.1.filters, f ∈ kept ∨ f ∈ rest) ∧
        ∀ id, (s.connections.find id).isSome = true → (r.1.connections.find id).isSome = true := by
  intro fuel s kept rest dead
  fun_induction routeLoop message network device fuel s kept rest dead with
  -- behind the last filter the list is what was kept
  | case1 fuel s kept dead =>
    intro r h
    cases h
    exact ⟨fun f hf => Or.inl hf, fun _ h => h⟩
  -- a loop that does not get to its end returns nothing
  | case2 => intro r h; cases h
  | case3 fuel s kept f rest dead hpass ih =>
    intro r h
    obtain ⟨hfilters, hconnections⟩ := ih h
    refine ⟨fun g hg => ?_, hconnections⟩
    have := hfilters g hg
    simp only [List.mem_append, List.mem_cons] at this ⊢
    tauto
  | case4 fuel s kept f rest dead hpass ih1 ih2 ih3 =>
    intro r h
    obtain ⟨⟨s', routed⟩, hroute, h⟩ := bind_eq_ok_iff.mp h
    have hkeeps := keeps_routeTo hroute
    dsimp only at h
    -- by whether the connection took the command, and whether its filter goes then
    split at h
    · obtain ⟨hfilters, hconnections⟩ := ih1 s' h
      exact ⟨hfilters, fun id hid => hconnections id (hkeeps.connections id hid)⟩
    · split at h
      · obtain ⟨hfilters, hconnections⟩ := ih2 s' h
        refine ⟨fun g hg => ?_, fun id hid => hconnections id (hkeeps.connections id hid)⟩
        exact (hfilters g hg).imp_right (List.mem_cons_of_mem f)
      · obtain ⟨hfilters, hconnections⟩ := ih3 s' h
        refine ⟨fun g hg => ?_, fun id hid => hconnections id (hkeeps.connections id hid)⟩
        have := hfilters g hg
        simp only [List.mem_append, List.mem_cons] at this ⊢
        tauto

/-- **Closing a connection takes its filters along.** -/
theorem referenced_closeConnection {s : State} (hs : s.Referenced) (id : ℕ) :
    (s.closeConnection id).Referenced := by
  intro f hf
  obtain ⟨hmem, hne⟩ := List.mem_filter.mp hf
  have hne : f.connectionId ≠ id := by simpa using hne
  show ((s.connections.erase id).find f.connectionId).isSome = true
  rw [OrderedMap.find_erase, if_neg hne]
  exact hs f hmem

theorem referenced_closeConnections {s : State} (hs : s.Referenced) (dead : List (ℕ × Unit)) :
    (dead.foldl (fun s e => s.closeConnection e.1) s).Referenced := by
  induction dead generalizing s with
  | nil => exact hs
  | cons e dead ih => exact ih (referenced_closeConnection hs e.1)

theorem referenced_handleDevicePacket {config : Config} {s s' : State} (hs : s.Referenced)
    {packet : Packet} {i : ℕ} (h : s.handleDevicePacket config packet i = .ok s') :
    s'.Referenced := by
  obtain rfl | ⟨message, network, device, t, dead, hloop, rfl⟩ := exists_of_handleDevicePacket h
  · exact hs
  · obtain ⟨hfilters, hconnections⟩ := keeps_routeLoop _ _ _ _ _ hloop
    refine referenced_closeConnections (hs.keeps ⟨fun f hf => ?_, hconnections⟩) dead.entries
    exact (hfilters f hf).resolve_left List.not_mem_nil

theorem referenced_onDevicePacketReceived {config : Config} {s s' : State} (hs : s.Referenced)
    {packet : Option Packet} {i : ℕ} (h : s.onDevicePacketReceived config packet i = .ok s') :
    s'.Referenced := by
  unfold onDevicePacketReceived at h
  split at h
  · cases h
    exact hs
  · split at h
    · exact hs.keeps (keeps_disconnectNetwork h)
    · exact referenced_handleDevicePacket hs h

/-! ### Commands from clients -/

/-- **A filter built from a command**, before its options: it belongs to the client that
sent the command, and has no flags. -/
theorem filterRecord_eq {config : Config} {command : ServiceCommand} {id : ℕ}
    {f : FilterRecord} (h : filterRecord config command id = some f) :
    ∃ f₂ : FilterRecord, f₂.connectionId = id ∧ f₂.flags = 0 ∧ f = filterOptions command f₂ := by
  obtain ⟨f₁, h₁, h⟩ := Option.bind_eq_some_iff.mp h
  obtain ⟨f₂, h₂, h⟩ := Option.bind_eq_some_iff.mp h
  -- the device of the filter
  have hdevice : f₁.connectionId = id ∧ f₁.flags = 0 := by
    unfold filterDevice at h₁
    dsimp only at h₁
    split at h₁
    · cases h₁
      exact ⟨rfl, rfl⟩
    · obtain ⟨device, -, rfl⟩ := Option.map_eq_some_iff.mp h₁
      exact ⟨rfl, rfl⟩
  -- its address
  have haddress : f₂.connectionId = f₁.connectionId ∧ f₂.flags = f₁.flags := by
    unfold filterAddress at h₂
    dsimp only at h₂
    split at h₂
    · split at h₂
      · cases h₂
      · cases h₂
        exact ⟨rfl, rfl⟩
    · cases h₂
      exact ⟨rfl, rfl⟩
  exact ⟨f₂, haddress.1.trans hdevice.1, haddress.2.trans hdevice.2, (Option.some.inj h).symm⟩

theorem connectionId_filterRecord {config : Config} {command : ServiceCommand} {id : ℕ}
    {f : FilterRecord} (h : filterRecord config command id = some f) : f.connectionId = id := by
  obtain ⟨f₂, hid, -, rfl⟩ := filterRecord_eq h
  unfold filterOptions
  split
  · exact hid
  · exact hid

theorem keeps_handleSend {config : Config} {s : State} {command : ServiceCommand} {id : ℕ}
    {type : MessageType} {r : State × Bool} (h : s.handleSend config command id type = .ok r) :
    Keeps s r.1 := by
  obtain rfl | ⟨device, network, message, -, -, -, -, -, rfl⟩ := handleSend_cases h
  · exact .refl s
  · exact .of_eq rfl rfl

theorem referenced_handleFilter {config : Config} {s : State} (hs : s.Referenced)
    {command : ServiceCommand} {id : ℕ} (hid : (s.connections.find id).isSome = true)
    (unset : Bool) : (s.handleFilter config command id unset).1.Referenced := by
  unfold handleFilter
  split
  · exact hs
  · next f hf =>
    intro g hg
    rcases List.mem_append.mp hg with hg | hg
    · exact hs g hg
    · rw [List.mem_singleton.mp hg, connectionId_filterRecord hf]
      exact hid

theorem referenced_handleCommand {config : Config} {s : State} (hs : s.Referenced)
    {command : ServiceCommand} {id : ℕ} (hid : (s.connections.find id).isSome = true)
    {unset : Bool} {r : State × Bool} (h : s.handleCommand config command id unset = .ok r) :
    r.1.Referenced := by
  obtain ⟨-, rfl⟩ | ⟨-, h⟩ | ⟨-, h⟩ | ⟨-, -, rfl⟩ := actions_of_handleCommand h
  · exact referenced_handleFilter hs hid unset
  · exact hs.keeps (keeps_handleSend h)
  · exact hs.keeps (keeps_handleSend h)
  · exact hs

theorem referenced_onConnectionPacketReceived {config : Config} {s s' : State} (hs : s.Referenced)
    {packet : Option Packet} {id : ℕ} {unset : Bool}
    (h : s.onConnectionPacketReceived config packet id unset = .ok s') : s'.Referenced := by
  unfold onConnectionPacketReceived at h
  split at h
  · cases h
    exact hs
  · split at h
    · cases h
    · cases h
      exact hs
    · cases h
      exact hs
    · split at h
      -- the client is gone
      · cases h
        exact hs
      · next command connection hfind =>
        obtain ⟨⟨t, result⟩, hcommand, h⟩ := bind_eq_ok_iff.mp h
        obtain ⟨reply, -, h⟩ := bind_eq_ok_iff.mp h
        obtain ⟨sent, -, h⟩ := bind_eq_ok_iff.mp h
        have ht : t.Referenced := referenced_handleCommand hs (by simp [hfind]) hcommand
        cases sent with
        -- its buffer is full, and it is closed with its filters
        | none =>
          cases h
          exact referenced_closeConnection ht id
        | some connection =>
          cases h
          exact ht.keeps (keeps_insert t id connection)

/-! ### The send timer -/

/-- The connection of a queued message takes it. -/
def Delivers (s : State) (record : SendRecord) : Prop :=
  ∃ n c c', s.networks[record.network]? = some n ∧ n.connection = some c ∧
    c.send (.message record.message) = .ok (.ok c')

/-- **The send timer is about to hand over a query whose client is gone.** -/
def HandsOverOrphan (s : State) : Prop :=
  s.started = true ∧ s.sendTimer = true ∧ ∃ record queue, s.sendQueue = record :: queue ∧
    record.type = .request ∧ Delivers s record ∧
    s.connections.find record.responseFilter.connectionId = none

/-- What becomes of a message at its turn, with the state behind it and whether it was
sent. -/
inductive HandedOver (s : State) (record : SendRecord) : State → Bool → Prop
  /-- The network is down. -/
  | down {n : NetworkRecord} (hn : s.networks[record.network]? = some n)
      (hc : n.connection = none) : HandedOver s record s false
  /-- The buffer of the connection has no room, and the network is disconnected. -/
  | overflowed {n : NetworkRecord} {c : SocketConnection} {what : String} {t : State}
      (hn : s.networks[record.network]? = some n) (hc : n.connection = some c)
      (hsend : c.send (.message record.message) = .ok (.error (.rangeError what)))
      (hlost : s.disconnectNetwork record.network = .ok t) : HandedOver s record t false
  /-- The connection takes it. -/
  | taken {n : NetworkRecord} {c c' : SocketConnection}
      (hn : s.networks[record.network]? = some n) (hc : n.connection = some c)
      (hsend : c.send (.message record.message) = .ok (.ok c')) :
      HandedOver s record { s with
        networks := s.networks.set record.network { n with connection := some c' } } true

/-- **What `on_send_timer` does with a message.** -/
theorem handedOver_of_sendQueued {s t : State} {record : SendRecord} {sent : Bool}
    (h : s.sendQueued record = .ok (t, sent)) : HandedOver s record t sent := by
  unfold sendQueued at h
  split at h
  · cases h
  · next n hn =>
    split at h
    -- the network is down
    · next hc =>
      cases h
      exact .down hn hc
    · next c hc =>
      obtain ⟨taken, hsend, h⟩ := bind_eq_ok_iff.mp h
      cases taken with
      -- the buffer is full, and the connection is lost
      | none =>
        obtain ⟨t', hlost, h⟩ := bind_eq_ok_iff.mp h
        cases h
        obtain ⟨what, hwhat⟩ := catchRangeError_eq_none_iff.mp hsend
        exact .overflowed hn hc hwhat hlost
      | some c' =>
        cases h
        exact .taken hn hc (catchRangeError_eq_some_iff.mp hsend)

theorem keeps_sendQueued {s s' : State} {record : SendRecord} {sent : Bool}
    (h : s.sendQueued record = .ok (s', sent)) : Keeps s s' := by
  cases handedOver_of_sendQueued h with
  | down => exact .refl s
  | overflowed _ _ _ hlost => exact keeps_disconnectNetwork hlost
  | taken => exact .of_eq rfl rfl

/-- **A message counts as sent exactly when its connection takes it.** -/
theorem delivers_iff {s : State} {record : SendRecord} :
    Delivers s record ↔ ∃ s', s.sendQueued record = .ok (s', true) := by
  constructor
  · rintro ⟨n, c, c', hn, hc, hsend⟩
    simp only [sendQueued, hn, hc, catchRangeError_eq_some_iff.mpr hsend, ok_bind]
    exact ⟨_, rfl⟩
  · rintro ⟨s', h⟩
    cases handedOver_of_sendQueued h with
    | taken hn hc hsend => exact ⟨_, _, _, hn, hc, hsend⟩

/-- Handing over a message touches no client. -/
theorem connections_sendQueued {s s' : State} {record : SendRecord} {sent : Bool}
    (h : s.sendQueued record = .ok (s', sent)) : s'.connections = s.connections := by
  cases handedOver_of_sendQueued h with
  | down => rfl
  | overflowed _ _ _ hlost => exact connections_disconnectNetwork hlost
  | taken => rfl

theorem referenced_onSendTimer {s s' : State} (hs : s.Referenced)
    (hok : ∀ record queue, s.started = true → s.sendQueue = record :: queue →
      record.type = .request → Delivers s record →
        (s.connections.find record.responseFilter.connectionId).isSome = true)
    (h : s.onSendTimer = .ok s') : s'.Referenced := by
  obtain ⟨-, rfl⟩ | ⟨record, queue, t, sent, hstarted, hqueue, hsend, rfl⟩ :=
    onSendTimer_cases h
  · exact hs
  · have hkeeps := keeps_sendQueued hsend
    have hct := connections_sendQueued hsend
    -- the filter that comes in is that of a query which is handed over
    have hnew : record.type = .request ∧ sent = true →
        (s.connections.find record.responseFilter.connectionId).isSome = true := by
      rintro ⟨htype, rfl⟩
      -- a message's network does not depend on the queue
      have hdelivers : Delivers { s with sendQueue := queue } record := delivers_iff.mpr ⟨t, hsend⟩
      exact hok record queue hstarted hqueue htype hdelivers
    intro f hf
    show (t.connections.find f.connectionId).isSome = true
    rw [hct]
    unfold finishSend at hf
    dsimp only at hf
    -- by whether the filter for the reply comes in
    split at hf
    · next hc =>
      rcases List.mem_append.mp hf with hf | hf
      · exact hs f (hkeeps.filters f hf)
      · rw [List.mem_singleton.mp hf]
        exact hnew hc
    · exact hs f (hkeeps.filters f hf)

/-! ### Every event -/

theorem keeps_start {s : State} {listens connects : ℕ → Bool} {r : State × Option Exception}
    (h : s.start listens connects = .ok r) : Keeps s r.1 := by
  unfold start at h
  split at h
  · cases h
    exact .refl s
  · obtain ⟨⟨bindings, done⟩, -, h⟩ := bind_eq_ok_iff.mp h
    cases done with
    | false =>
      cases h
      exact .of_eq rfl rfl
    | true =>
      cases h
      have hkeeps := keeps_connectNetworks { s with bindings := bindings } connects
      exact ⟨hkeeps.filters, hkeeps.connections⟩

theorem referenced_stop {s s' : State} (hs : s.Referenced) (h : s.stop = .ok s') :
    s'.Referenced := by
  unfold stop at h
  split at h
  · cases h
    exact hs
  · obtain ⟨t, -, h⟩ := bind_eq_ok_iff.mp h
    obtain ⟨t', -, h⟩ := bind_eq_ok_iff.mp h
    cases h
    intro f hf
    cases hf

theorem keeps_onAcceptedConnection {s s' : State} (h : s.onAcceptedConnection = .ok s') :
    Keeps s s' := by
  unfold onAcceptedConnection at h
  split at h
  · cases h
    exact .refl s
  · dsimp only at h
    split at h
    · cases h
    · cases h
      have hkeeps := keeps_insert s ((s.nextConnectionId + 1) % 2 ^ 32)
        SocketConnection.fresh.subscribe
      exact ⟨hkeeps.filters, hkeeps.connections⟩

theorem keeps_onClientSocket {s s' : State} {id : ℕ}
    {handler : SocketConnection → Except Fault SocketConnection}
    (h : s.onClientSocket id handler = .ok s') : Keeps s s' := by
  unfold onClientSocket at h
  split at h
  · cases h
    exact .refl s
  · obtain ⟨c, -, h⟩ := bind_eq_ok_iff.mp h
    cases h
    exact keeps_insert s id c

theorem keeps_onNetworkSocket {s s' : State} {i : ℕ}
    {handler : SocketConnection → Except Fault SocketConnection}
    (h : s.onNetworkSocket i handler = .ok s') : Keeps s s' := by
  unfold onNetworkSocket at h
  split at h
  · cases h
    exact .refl s
  · split at h
    · cases h
      exact .refl s
    · obtain ⟨c, -, h⟩ := bind_eq_ok_iff.mp h
      cases h
      exact .of_eq rfl rfl

theorem keeps_onReconnectTimeout (s : State) (connects : ℕ → Bool) :
    Keeps s (s.onReconnectTimeout connects) := by
  unfold onReconnectTimeout
  split
  · exact .refl s
  · exact keeps_connectNetworks s connects

/-- The event does not hand over a query whose client is gone. -/
def Admissible (s : State) : Event → Prop
  | .sendTick => ¬ s.HandsOverOrphan
  | _ => True

/-- **One step**: every admissible event keeps the references. -/
theorem referenced_handle {config : Config} {s s' : State} {e : Event} (hs : s.Referenced)
    (he : s.Admissible e) (h : s.handle config e = .ok s') : s'.Referenced := by
  cases e with
  | start listens connects =>
    obtain ⟨r, hstart, rfl⟩ := start_of_handle h
    exact hs.keeps (keeps_start hstart)
  | stop => exact referenced_stop hs h
  | accept => exact hs.keeps (keeps_onAcceptedConnection h)
  | clientPacket id packet unset => exact referenced_onConnectionPacketReceived hs h
  | clientRead id outcome => exact hs.keeps (keeps_onClientSocket h)
  | clientWrite id outcomes => exact hs.keeps (keeps_onClientSocket h)
  | devicePacket i packet => exact referenced_onDevicePacketReceived hs h
  | networkRead i outcome => exact hs.keeps (keeps_onNetworkSocket h)
  | networkWrite i outcomes => exact hs.keeps (keeps_onNetworkSocket h)
  | sendTick =>
    rw [handle] at h
    split at h
    · next htimer =>
      -- the orphan is ruled out by the hypothesis on the event
      refine referenced_onSendTimer (s := { s with sendTimer := false }) hs ?_ h
      intro record queue hstarted hqueue htype hdelivers
      rw [Option.isSome_iff_ne_none]
      intro hnone
      exact he ⟨hstarted, htimer, record, queue, hqueue, htype, hdelivers, hnone⟩
    · cases h
      exact hs
  | reconnectTick connects =>
    rw [handle] at h
    split at h
    · cases h
      have hkeeps := keeps_onReconnectTimeout { s with reconnectTimeout := false } connects
      exact hs.keeps ⟨hkeeps.filters, hkeeps.connections⟩
    · cases h
      exact hs

/-- Handing over a query whose client is gone adds a filter for it. -/
theorem handle_orphan (config : Config) {s : State} (h : s.HandsOverOrphan) :
    ∃ s', s.handle config .sendTick = .ok s' ∧ ¬ s'.Referenced := by
  obtain ⟨hstarted, htimer, record, queue, hqueue, htype, hdelivers, hnone⟩ := h
  obtain ⟨t, hsend⟩ :=
    delivers_iff (s := { s with sendTimer := false, sendQueue := queue }).mp hdelivers
  have hct := connections_sendQueued hsend
  dsimp only at hct
  have hrun : s.handle config .sendTick = .ok (finishSend record t true) := by
    rw [handle, if_pos htimer]
    exact onSendTimer_eq hstarted hqueue hsend
  refine ⟨_, hrun, fun hreferenced => ?_⟩
  have hfind : (t.connections.find record.responseFilter.connectionId).isSome = true :=
    hreferenced record.responseFilter (by simp [finishSend, htype])
  rw [hct, hnone] at hfind
  cases hfind

theorem referenced_create {config : Config} {s : State} (h : create config = .ok s) :
    s.Referenced := by
  rw [eq_of_create h]
  intro f hf
  cases hf

/-- **Every filter belongs to an open connection throughout a run exactly when no
query is handed over for a client that is gone.** -/
theorem always_referenced_iff {config : Config} {s : State} (h : create config = .ok s)
    (es : List Event) :
    Run.Always (step config) Referenced s es ↔ Run.Along (step config) Admissible s es := by
  refine Run.always_iff_along ?_ (fun _ hs => hs) ?_ es s (referenced_create h)
  · intro s e s' hs he hstep
    exact referenced_handle hs he (step_eq_some_iff.mp hstep)
  · intro s e hs he
    cases e with
    | sendTick =>
      obtain ⟨s', hs', hn⟩ := handle_orphan config (not_not.mp he)
      exact ⟨s', step_eq_some_iff.mpr hs', hn⟩
    | _ => exact absurd trivial he

/-- The references hold while a client connects. -/
theorem always_referenced_accept : ∃ s, create sampleConfig = .ok s ∧
    Run.Always (step sampleConfig) Referenced s
      [.start (fun _ => true) (fun _ => true), .accept,
        .clientPacket 1 (some (.message .default)) true] :=
  ⟨_, rfl, (always_referenced_iff rfl _).mpr
    ⟨trivial, fun _ _ => ⟨trivial, fun _ _ => ⟨trivial, fun _ _ => trivial⟩⟩⟩⟩

/-! ### A query that outlives its client -/

/-- The command that carries the answer. -/
def replyCommand (action : Text) (result : Bool) : ServiceCommand :=
  ⟨if result then "ok".toList else "fail".toList, OrderedMap.empty.insert "command".toList action⟩

theorem commandReply_eq {action : Text} (h : checkString action = true) (result : Bool) :
    commandReply action result = .ok (replyCommand action result) := by
  have hword : checkString (if result then "ok".toList else "fail".toList) = true := by
    cases result <;> decide
  rw [commandReply, ServiceCommand.create_eq hword, ok_bind,
    ServiceCommand.addArgument_eq (by decide) (by decide) h]
  rfl

/-- The text of the answer. -/
def replyText (action : Text) (result : Bool) : Text :=
  "cmd:".toList ++ ((if result then "ok".toList else "fail".toList) ++
    (" command:".toList ++ action))

theorem convertToString_replyCommand (action : Text) (result : Bool) :
    Packet.convertToString (.serviceCommand (replyCommand action result))
      = .ok (replyText action result) := by
  have hne : (replyCommand action result).action ≠ [] := by
    cases result <;> simp [replyCommand]
  refine (ServiceCommand.serialize_eq_line hne).trans (congrArg Except.ok ?_)
  show "cmd:".toList ++ ((if result then "ok".toList else "fail".toList) ++
    ((" command:".toList ++ action) ++ [])) = _
  rw [List.append_nil, replyText]

/-- A command the router does not know. -/
def unknownCommand (action : Text) : ServiceCommand := ⟨action, .empty⟩

/-- A query for address `0x0102` of the one device. -/
def sampleQuery : ServiceCommand :=
  ⟨"query".toList,
    (OrderedMap.empty.insert "device".toList "lamp".toList).insert "address".toList "0102".toList⟩

/-- The answer to an unknown command stays in the buffer of a client that does not
read. -/
theorem step_unknown (client : SocketConnection) (hclient : client.gotError = false) {action : Text}
    (hcheck : checkString action = true) (hfilter : action ≠ "filter".toList)
    (hsend : action ≠ "send".toList) (hquery : action ≠ "query".toList)
    (hroom : client.writeBuffer.length + (replyText action false ++ "\r\n".toList).length
      ≤ writeBufferLimit) :
    (sampleState client).step sampleConfig
        (.clientPacket 1 (some (.serviceCommand (unknownCommand action))) true)
      = some (sampleState { client with
          writeBuffer := client.writeBuffer ++ (replyText action false ++ "\r\n".toList)
          writeListener := true }) := by
  have hcommand : (sampleState client).handleCommand sampleConfig (unknownCommand action) 1 true
      = .ok (sampleState client, false) := by
    unfold handleCommand unknownCommand
    rw [if_neg hfilter, if_neg hsend, if_neg hquery]
  have hreply := SocketConnection.send_eq hclient (convertToString_replyCommand action false)
  rw [if_neg (by omega)] at hreply
  rw [step_eq_some_iff, handle, onConnectionPacketReceived_eq (some _) rfl rfl hcommand
    (commandReply_eq hcheck false) (catchRangeError_eq_some_iff.mpr hreply)]
  rfl

/-- The queue holds the query of a client that is gone. -/
def orphanedState : State :=
  { sampleState SocketConnection.fresh with
    connections := .empty
    sendTimer := true
    sendQueue := [⟨.request, 0, ⟨.request, 5, 0x0102, Body.nil⟩,
      responseFilter 1 sampleDevice 0x0102⟩] }

/-- The answer to the query finds no room: the client is dropped, its query is not. -/
theorem step_query_overflow (client : SocketConnection) (hclient : client.gotError = false)
    (hfull : writeBufferLimit ≤ client.writeBuffer.length) :
    (sampleState client).step sampleConfig
        (.clientPacket 1 (some (.serviceCommand sampleQuery)) true) = some orphanedState := by
  have hcommand : (sampleState client).handleCommand sampleConfig sampleQuery 1 true
      = .ok ({ sampleState client with
        sendTimer := true, sendQueue := orphanedState.sendQueue }, true) := by
    rfl
  have hreply := SocketConnection.send_eq hclient (convertToString_replyCommand "query".toList true)
  rw [if_pos (by simp; omega)] at hreply
  rw [step_eq_some_iff, handle, onConnectionPacketReceived_eq none rfl rfl hcommand
    (commandReply_eq (by decide) true) (by rw [sampleQuery, hreply]; rfl)]
  rfl

/-- A client sends a command and a query, and never reads. -/
def sampleRun (action : Text) : List Event :=
  [.start (fun _ => true) (fun _ => true), .accept,
    .clientPacket 1 (some (.serviceCommand (unknownCommand action))) true,
    .clientPacket 1 (some (.serviceCommand sampleQuery)) true, .sendTick]

theorem length_replyText_false {action : Text} (h : action.length + 19 = writeBufferLimit) :
    (replyText action false ++ "\r\n".toList).length = writeBufferLimit := by
  simp only [replyText, List.length_append, ← h, if_neg Bool.false_ne_true]
  rw [show "cmd:".toList.length = 4 from rfl, show "fail".toList.length = 4 from rfl,
    show " command:".toList.length = 9 from rfl, show "\r\n".toList.length = 2 from rfl]
  omega

/-- When the answer to the command fills the client's buffer, the client is gone by
the time its query is handed over. -/
theorem exec_sampleRun {action : Text} (hcheck : checkString action = true)
    (hlen : action.length + 19 = writeBufferLimit) :
    ∃ s₀ s, create sampleConfig = .ok s₀ ∧
      Run.exec (step sampleConfig) s₀ (sampleRun action) = some s ∧ ¬ s.Referenced := by
  have hopen : ∃ s₀ s₁, create sampleConfig = .ok s₀ ∧
      s₀.step sampleConfig (.start (fun _ => true) (fun _ => true)) = some s₁ ∧
      s₁.step sampleConfig .accept = some (sampleState SocketConnection.fresh.subscribe) :=
    ⟨_, _, rfl, rfl, rfl⟩
  obtain ⟨s₀, s₁, hcreate, hstart, haccept⟩ := hopen
  -- the action is longer than the words that the router knows
  have hne : ∀ word : Text, word.length < 19 → action ≠ word := by
    rintro word hword rfl
    rw [writeBufferLimit] at hlen
    omega
  have hline := length_replyText_false hlen
  -- the answer to the first command fills the buffer but for a few bytes
  have hunknown := step_unknown SocketConnection.fresh.subscribe rfl hcheck
    (hne _ (by decide)) (hne _ (by decide)) (hne _ (by decide)) (by
      rw [hline, show SocketConnection.fresh.subscribe.writeBuffer = [] from rfl]
      simp)
  -- the answer to the query does not fit any more
  have hquery := step_query_overflow { SocketConnection.fresh.subscribe with
    writeBuffer := SocketConnection.fresh.subscribe.writeBuffer ++
      (replyText action false ++ "\r\n".toList)
    writeListener := true } rfl (by rw [List.length_append, hline]; exact Nat.le_add_left _ _)
  -- the tick finds the query of a client that is gone
  obtain ⟨s, htick, hs⟩ := handle_orphan sampleConfig (s := orphanedState)
    ⟨rfl, rfl, _, _, rfl, rfl, ⟨_, _, _, rfl, rfl, rfl⟩, rfl⟩
  refine ⟨s₀, s, hcreate, ?_, hs⟩
  simp only [sampleRun, Run.exec, hstart, haccept, Option.bind_some, hunknown, hquery,
    step_eq_some_iff.mpr htick]

/-- A client whose unread answers fill its buffer is dropped with its query still in
the queue; the filter for the reply then belongs to no connection. -/
theorem query_outlives_client : ∃ s₀ s, create sampleConfig = .ok s₀ ∧
    Run.exec (step sampleConfig) s₀ (sampleRun (List.replicate (writeBufferLimit - 19) 'a'))
      = some s ∧ ¬ s.Referenced := by
  refine exec_sampleRun (checkString_iff.mpr fun c hc => ?_) ?_
  · rw [List.eq_of_mem_replicate hc]
    decide
  · rw [List.length_replicate, writeBufferLimit]

/-! ### The end of a client's connection -/

/-- `s'` is `s` without the connection and its filters. -/
structure WithoutClient (s s' : State) (id : ℕ) : Prop where
  closed : s'.connections.find id = none
  others : ∀ other, other ≠ id → s'.connections.find other = s.connections.find other
  filters : s'.filters = s.filters.filter fun f => f.connectionId ≠ id

/-- `close_connection` takes the client away and nothing else. -/
theorem withoutClient_closeConnection (s : State) (id : ℕ) :
    WithoutClient s (s.closeConnection id) id := by
  refine ⟨?_, fun other hother => ?_, rfl⟩
  · show (s.connections.erase id).find id = none
    rw [OrderedMap.find_erase, if_pos rfl]
  · show (s.connections.erase id).find other = _
    rw [OrderedMap.find_erase, if_neg hother]

/-- **The handler cleans up after a client**: called with the null packet, it comes
back, and the client and its filters are gone. -/
def CleansUp (config : Config) (s : State) (id : ℕ) (unset : Bool) : Prop :=
  ∃ s', s.onConnectionPacketReceived config none id unset = .ok s' ∧ WithoutClient s s' id

/-- **The end of a client's connection is never handled**: a started router
dereferences the null packet before it compares it with null. -/
theorem not_cleansUp (config : Config) {s : State} (hs : s.started = true) (id : ℕ)
    (unset : Bool) : ¬ s.CleansUp config id unset := by
  rintro ⟨s', hs', -⟩
  unfold onConnectionPacketReceived at hs'
  rw [if_neg (by simp [hs])] at hs'
  cases hs'

/-- The router of the sample run does not survive the end of its only client. -/
theorem not_cleansUp_sample : (sampleState SocketConnection.fresh.subscribe).started = true ∧
    ¬ (sampleState SocketConnection.fresh.subscribe).CleansUp sampleConfig 1 true :=
  ⟨rfl, not_cleansUp sampleConfig rfl 1 true⟩

/-- The handler stops the program with the client still connected. -/
theorem null_packet_stops_router : (sampleState SocketConnection.fresh.subscribe).started = true ∧
    (sampleState SocketConnection.fresh.subscribe).onConnectionPacketReceived sampleConfig none 1
      true = .error .nullDereference ∧
    ¬ (sampleState SocketConnection.fresh.subscribe).CleansUp sampleConfig 1 true := by
  refine ⟨rfl, rfl, ?_⟩
  rintro ⟨s', hs', -⟩
  cases hs'

end State
end Router
end HomeAutomation
