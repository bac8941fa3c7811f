import HomeAutomation.Router.Queue

/-!
# What a router leaves behind

The destructors of routers, servers, listeners and timeouts check that the object is
stopped.  `Breach` names what they find, and a call that ends so is an error beside the
crashes of the program.

A router that serves has every server started and every connection subscribed, so that
whatever an event destroys is stopped first, and `stop` leaves nothing started.  The
exception of `start_bindings` leaves the servers started that came before it.

## Main definitions

* `destroyed` — the connections that an event of the router destroys.
* `handleChecked`, `destroy` — an event and the destructor, with the checks.
* `Idle`, `Serving`, `Halfway` — nothing is started, everything is, and some servers are.
* `StopsSafely` — `stop` returns with everything dropped and both timers stopped.
* `ListensWhole` — the listen calls all succeed, or the first one fails.

## Main results

* `released_of_destroyed` — what an event destroys has its listeners stopped.
* `Serving.handle`, `Serving.stop_of_up` — events and `stop`.
* `always_stopsSafely_iff` — in every run, `stop` is safe while no network is down.
* `start_fresh` — what `start` does with a new router.

## References

`router/Router.cpp`, `common/source/proto/SocketServer.cpp`,
`common/source/util/EventLoop.cpp`.
-/

namespace HomeAutomation
namespace Router

open SocketConnection

/-! ### What is destroyed -/

/-- What a run must not do: call a method of a null router, or destroy an object that
is still started. -/
inductive Breach
  | nullRouter
  | startedRouter
  | startedServer
  | startedListener
  | startedTimeout
  deriving DecidableEq

/-- A call that does not return: a breach, or another end of the program. -/
inductive Failure
  | breach (b : Breach)
  | crash (f : Fault)
  deriving DecidableEq

/-- One of the listeners of a connection is started. -/
def listening (c : SocketConnection) : Bool := c.readListener || c.writeListener

/-- A call of `start` or `stop`, made by the application and not by the loop. -/
def Event.isCall : Event → Bool
  | .start _ _ => true
  | .stop => true
  | _ => false

namespace State

/-- The connections that an event destroys, as they are then.  All but one are
unsubscribed first: an accepted connection whose number is taken is not in the map
and is dropped subscribed. -/
def destroyed (config : Config) (s : State) : Event → List SocketConnection
  | .stop =>
    if !s.started then []
    else
      let connected := s.networks.takeWhile fun r => r.connection.isSome
      let clients :=
        if connected.length = s.networks.length then s.connections.entries.map Prod.snd else []
      (connected.filterMap NetworkRecord.connection ++ clients).map unsubscribe
  | .accept =>
    if !s.started then []
    else if (s.connections.find ((s.nextConnectionId + 1) % 2 ^ 32)).isSome then [fresh.subscribe]
    else []
  | .clientPacket id (some (.serviceCommand command)) unset =>
    if !s.started then []
    else
      match s.connections.find id with
      | none => []
      | some c =>
        let answer : Except Fault (Option SocketConnection) := do
          let (_, result) ← s.handleCommand config command id unset
          let reply ← commandReply command.action result
          catchRangeError (c.send (.serviceCommand reply))
        match answer with
        | .ok none => [c.unsubscribe]
        | _ => []
  | .devicePacket i none =>
    if !s.started then [] else (s.connectionOf i).toList.map unsubscribe
  | .devicePacket i (some (.message message)) =>
    if !s.started then []
    else
      match s.networks[i]? with
      | none => []
      | some record =>
        match config.findDeviceById record.network.name message.deviceId with
        | none => []
        | some device =>
          match routeLoop message record.network device s.filters.length s [] s.filters .empty with
          | .error _ => []
          | .ok (t, dead) =>
            dead.entries.filterMap fun e => (t.connections.find e.1).map unsubscribe
  | .sendTick =>
    if !(s.started && s.sendTimer) then []
    else
      match s.sendQueue with
      | [] => []
      | record :: _ =>
        match s.connectionOf record.network with
        | none => []
        | some c =>
          match catchRangeError (c.send (.message record.message)) with
          | .ok none => [c.unsubscribe]
          | _ => []
  | _ => []

/-- An event of the router, with the destructors it runs. -/
def handleChecked (config : Config) (s : State) (e : Event) : Except Failure State :=
  if (s.destroyed config e).any listening then .error (.breach .startedListener)
  else
    match s.handle config e with
    | .error f => .error (.crash f)
    | .ok s' => .ok s'

/-- The destructor, with those of the members in their order. -/
def destroy (s : State) : Except Failure Unit :=
  if s.started then .error (.breach .startedRouter)
  else if s.connections.entries.any fun e => listening e.2 then .error (.breach .startedListener)
  else if s.bindings.any BindingRecord.server then .error (.breach .startedServer)
  else if s.reconnectTimeout then .error (.breach .startedTimeout)
  else if (s.networks.filterMap NetworkRecord.connection).any listening then
    .error (.breach .startedListener)
  else if s.sendTimer then .error (.breach .startedTimeout)
  else .ok ()

/-! ### Routers that can be destroyed, and routers that serve -/

/-- Nothing of the router is started. -/
structure Idle (s : State) : Prop where
  started : s.started = false
  sendTimer : s.sendTimer = false
  reconnectTimeout : s.reconnectTimeout = false
  bindings : ∀ r ∈ s.bindings, r.server = false
  connections : s.connections = .empty
  networks : ∀ r ∈ s.networks, r.connection = none

/-- The router is started in full. -/
structure Serving (s : State) : Prop where
  started : s.started = true
  bindings : ∀ r ∈ s.bindings, r.server = true
  subscribed : s.AllSubscribed

theorem listening_unsubscribe {c : SocketConnection} (h : c.subscribed = true) :
    listening c.unsubscribe = false := by
  simp [listening, unsubscribe, h]

theorem subscribed_of_connectionOf {s : State} (hs : s.AllSubscribed) {i : ℕ}
    {c : SocketConnection} (hc : s.connectionOf i = some c) : c.subscribed = true := by
  obtain ⟨r, hr, hc⟩ := Option.bind_eq_some_iff.mp hc
  exact hs.networks.get hr hc

/-- The number of the next accepted connection is in use. -/
def NumberTaken (s : State) : Prop :=
  (s.connections.find ((s.nextConnectionId + 1) % 2 ^ 32)).isSome = true

/-- **What an event destroys has its listeners stopped**, but for an accepted connection
whose number is taken. -/
theorem released_of_destroyed {config : Config} {s : State} {e : Event} (hs : s.AllSubscribed)
    (haccept : e = .accept → s.started = true → ¬ s.NumberTaken) :
    (s.destroyed config e).any listening = false := by
  rw [List.any_eq_false]
  intro c hc hlistening
  -- a connection that had its subscriber has none behind `destroy`
  have hreleased : ∀ c₀ : SocketConnection, c₀.subscribed = true → c ≠ c₀.unsubscribe := by
    rintro c₀ h₀ rfl
    rw [listening_unsubscribe h₀] at hlistening
    cases hlistening
  unfold destroyed at hc
  split at hc
  · -- `stop`: the networks up to the first that is down, then the clients
    split at hc
    · cases hc
    · obtain ⟨c₀, hc₀, rfl⟩ := List.mem_map.mp hc
      refine hreleased c₀ ?_ rfl
      rcases List.mem_append.mp hc₀ with hnetwork | hclient
      · obtain ⟨r, hr, hc₀⟩ := List.mem_filterMap.mp hnetwork
        exact hs.networks r ((List.takeWhile_sublist _).subset hr) c₀ hc₀
      · split at hclient
        · obtain ⟨⟨id, d⟩, hentry, rfl⟩ := List.mem_map.mp hclient
          exact hs.clients id d (OrderedMap.mem_entries_iff.mp hentry)
        · cases hclient
  · -- the one connection that is dropped subscribed
    split at hc
    · cases hc
    · next hstarted =>
      split at hc
      · next htaken => exact haccept rfl (by simpa using hstarted) htaken
      · cases hc
  · -- a client whose buffer has no room for the answer
    split at hc
    · cases hc
    · split at hc
      · cases hc
      · next c₀ hfind =>
        dsimp only at hc
        split at hc
        · exact hreleased c₀ (hs.clients _ c₀ hfind) (List.mem_singleton.mp hc)
        · cases hc
  · split at hc
    · cases hc
    · obtain ⟨c₀, hc₀, rfl⟩ := List.mem_map.mp hc
      exact hreleased c₀ (subscribed_of_connectionOf hs (Option.mem_toList.mp hc₀)) rfl
  · -- dead clients, as the loop over the filters has left them
    split at hc
    · cases hc
    · next hnot =>
      have hstarted : s.started = true := by simpa using hnot
      split at hc
      · cases hc
      · split at hc
        · cases hc
        · split at hc
          · cases hc
          · next t dead hloop =>
            have hquiet := quiet_routeLoop _ _ _ _ _ hloop hstarted (List.Sublist.refl _)
            obtain ⟨e, -, hc⟩ := List.mem_filterMap.mp hc
            obtain ⟨c₀, hc₀, rfl⟩ := Option.map_eq_some_iff.mp hc
            exact hreleased c₀ ((hquiet.subscribed hs).clients e.1 c₀ hc₀) rfl
  · -- a network whose buffer has no room for the message
    split at hc
    · cases hc
    · split at hc
      · cases hc
      · split at hc
        · cases hc
        · next c₀ hc₀ =>
          split at hc
          · exact hreleased c₀ (subscribed_of_connectionOf hs hc₀) (List.mem_singleton.mp hc)
          · cases hc
  · cases hc

/-- A router whose connections are subscribed runs its events without a breach. -/
theorem handleChecked_eq {config : Config} {s : State} {e : Event} (hs : s.AllSubscribed)
    (haccept : e = .accept → s.started = true → ¬ s.NumberTaken) :
    s.handleChecked config e = (s.handle config e).mapError .crash := by
  rw [handleChecked, released_of_destroyed hs haccept, if_neg Bool.false_ne_true]
  cases s.handle config e with
  | error f => rfl
  | ok s' => rfl

namespace Idle

theorem allSubscribed {s : State} (hs : s.Idle) : s.AllSubscribed where
  clients id c hc := by
    rw [hs.connections] at hc
    cases hc
  networks r hr c hc := by
    rw [hs.networks r hr] at hc
    cases hc

theorem destroy {s : State} (hs : s.Idle) : s.destroy = .ok () := by
  have hclients : (s.connections.entries.any fun e => listening e.2) = false := by
    rw [hs.connections]
    rfl
  have hservers : s.bindings.any BindingRecord.server = false :=
    List.any_eq_false.mpr fun r hr => by simp [hs.bindings r hr]
  have hnetworks : s.networks.filterMap NetworkRecord.connection = [] :=
    List.filterMap_eq_nil_iff.mpr hs.networks
  simp [State.destroy, hs.started, hs.reconnectTimeout, hs.sendTimer, hclients, hservers, hnetworks]

/-- The loop has nothing to do for a router that is not started. -/
theorem handle {s : State} (hs : s.Idle) (config : Config) {e : Event} (he : e.isCall = false) :
    s.handle config e = .ok s := by
  have hclient : ∀ id handler, s.onClientSocket id handler = .ok s := by
    intro id handler
    rw [onClientSocket, hs.connections]
    rfl
  -- the records of the networks hold no connection
  have hnetwork : ∀ i handler, s.onNetworkSocket i handler = .ok s := by
    intro i handler
    cases hr : s.networks[i]? with
    | none => simp only [onNetworkSocket, hr]
    | some r => simp only [onNetworkSocket, hr, hs.networks r (List.mem_of_getElem? hr)]
  cases e with
  | start => cases he
  | stop => cases he
  | accept => simp [State.handle, onAcceptedConnection, hs.started]
  | clientPacket => simp [State.handle, onConnectionPacketReceived, hs.started]
  | clientRead => exact hclient _ _
  | clientWrite => exact hclient _ _
  | devicePacket => simp [State.handle, onDevicePacketReceived, hs.started]
  | networkRead => exact hnetwork _ _
  | networkWrite => exact hnetwork _ _
  | sendTick => simp [State.handle, hs.sendTimer]
  | reconnectTick => simp [State.handle, hs.reconnectTimeout]

theorem stop {s : State} (hs : s.Idle) : s.stop = .ok s := by
  simp [State.stop, hs.started]

end Idle

/-- Only `start` and `stop` change whether the router is started, and its servers. -/
theorem frame_of_change {config : Config} {s s' : State} {e : Event} (h : Change config s e s')
    (he : e.isCall = false) : s'.started = s.started ∧ s'.bindings = s.bindings := by
  cases h with
  | quiet _ _ h => exact ⟨h.started, h.bindings⟩
  | queued record _ _ _ _ h => exact ⟨h.started, h.bindings⟩
  | idle => exact ⟨rfl, rfl⟩
  | turned record queue t sent _ _ _ hsend =>
    obtain ⟨networks, connected, timeout, p, rfl, -⟩ := sendQueued_frame hsend
    exact ⟨rfl, rfl⟩
  | lost i _ h =>
    obtain ⟨networks, connected, timeout, p, rfl⟩ := disconnectNetwork_frame h
    exact ⟨rfl, rfl⟩
  | reconnected connects =>
    obtain ⟨networks, connected, timeout, h⟩ :=
      onReconnectTimeout_frame { s with reconnectTimeout := false } connects
    rw [h]
    exact ⟨rfl, rfl⟩
  | startFailed => cases he
  | started => cases he
  | stopped => cases he

/-- A router that serves goes on serving. -/
theorem Serving.handle {config : Config} {s s' : State} {e : Event} (hs : s.Serving)
    (he : e.isCall = false) (h : s.handle config e = .ok s') : s'.Serving := by
  have hchange := change_of_handle h
  obtain ⟨hstarted, hbindings⟩ := frame_of_change hchange he
  refine ⟨hstarted.trans hs.started, ?_, allSubscribed_of_change hs.subscribed hchange⟩
  rw [hbindings]
  exact hs.bindings

/-- Some network of the router is not connected. -/
def SomeNetworkDown (s : State) : Prop := ∃ r ∈ s.networks, r.connection = none

/-- `stop` does not survive a network that is not connected. -/
theorem Serving.stop_of_down {s : State} (hs : s.Serving) (hdown : s.SomeNetworkDown) :
    s.stop = .error .nullDereference := by
  obtain ⟨r, hr, hnone⟩ := hdown
  have hany : s.networks.any (fun r => r.connection.isNone) = true :=
    List.any_eq_true.mpr ⟨r, hr, by rw [hnone]; rfl⟩
  simp [State.stop, hs.started, disconnectNetworks, hany]

/-- `stop` returns when every network is connected. -/
theorem exists_stop {s : State} (hstarted : s.started = true)
    (hservers : ∀ r ∈ s.bindings, r.server = true) (hup : ¬ s.SomeNetworkDown) :
    ∃ s', s.stop = .ok s' := by
  have hnetworks : s.networks.any (fun r => r.connection.isNone) = false :=
    List.any_eq_false.mpr fun r hr hnone => hup ⟨r, hr, Option.isNone_iff_eq_none.mp hnone⟩
  have hall : s.bindings.any (fun r => !r.server) = false :=
    List.any_eq_false.mpr fun r hr => by simp [hservers r hr]
  simp only [State.stop, hstarted, disconnectNetworks, hnetworks, stopBindings, hall,
    Bool.not_true, Bool.false_eq_true, if_false, ok_bind]
  exact ⟨_, rfl⟩

/-- **`stop` stops everything** when every network is connected. -/
theorem Serving.stop_of_up {s : State} (hs : s.Serving) (hup : ¬ s.SomeNetworkDown) :
    ∃ s', s.stop = .ok s' ∧ s'.Idle := by
  obtain ⟨s', hstop⟩ := exists_stop hs.started hs.bindings hup
  obtain ⟨-, -, rfl⟩ := stop_cases hs.started hstop
  refine ⟨_, hstop, rfl, rfl, rfl, fun r' hr' => ?_, rfl, fun r' hr' => ?_⟩
  · obtain ⟨r, -, rfl⟩ := List.mem_map.mp hr'
    rfl
  · obtain ⟨r, -, rfl⟩ := List.mem_map.mp hr'
    rfl

/-! ### Stopping in every run -/

/-- Every server of a started router is started. -/
def ServersUp (s : State) : Prop := s.started = true → ∀ r ∈ s.bindings, r.server = true

/-- The loop of `start_bindings` has started every server when it comes to its end. -/
theorem servers_of_startBindings {listens : ℕ → Bool} : ∀ {bindings bindings' : List BindingRecord}
    {k : ℕ}, startBindings listens k bindings = .ok (bindings', true) →
      ∀ r ∈ bindings', r.server = true := by
  intro bindings
  induction bindings with
  | nil =>
    -- no binding is left
    intro bindings' k h
    cases h
    exact fun r hr => absurd hr List.not_mem_nil
  | cons b bindings ih =>
    intro bindings' k h
    rw [startBindings] at h
    split at h
    · cases h
    · split at h
      · cases h
      -- the server of this binding is started, and the others are by the induction
      · obtain ⟨⟨rest, done⟩, hrest, h⟩ := bind_eq_ok_iff.mp h
        cases h
        intro r hr
        rcases List.mem_cons.mp hr with rfl | hr
        · rfl
        · exact ih hrest r hr

/-- **One step**: a started router has its servers started. -/
theorem serversUp_of_change {config : Config} {s s' : State} {e : Event} (hs : s.ServersUp)
    (h : Change config s e s') : s'.ServersUp := by
  cases hcall : e.isCall with
  -- only calls of the program itself touch the servers
  | false =>
    obtain ⟨hstarted, hbindings⟩ := frame_of_change h hcall
    intro h'
    rw [hbindings]
    exact hs (hstarted ▸ h')
  | true =>
    cases h with
    | quiet _ _ h =>
      intro h'
      rw [h.bindings]
      exact hs (h.started ▸ h')
    | queued record _ _ _ _ h =>
      intro h'
      rw [h.bindings]
      exact hs (h.started ▸ h')
    -- a start that fails leaves the router as not started
    | startFailed _ _ _ hnot =>
      intro h'
      rw [show s.started = true from h'] at hnot
      cases hnot
    | started listens connects bindings _ hbindings =>
      intro _
      obtain ⟨networks, connected, timeout, h⟩ :=
        connectNetworks_frame { s with bindings := bindings } connects
      rw [h]
      exact servers_of_startBindings hbindings
    | stopped hstarted h =>
      obtain ⟨-, -, rfl⟩ := stop_cases hstarted h
      exact fun h' => by cases h'
    | idle => cases hcall
    | turned => cases hcall
    | lost => cases hcall
    | reconnected => cases hcall

/-- **`stop` is safe**: it returns, and has dropped every connection and every filter and
stopped both timers. -/
def StopsSafely (s : State) : Prop :=
  ∃ s', s.stop = .ok s' ∧ (∀ r ∈ s'.networks, r.connection = none) ∧ s'.connections = .empty ∧
    s'.filters = [] ∧ s'.connectedNetworks = 0 ∧ s'.sendTimer = false ∧
    s'.reconnectTimeout = false

theorem stopsSafely_iff {s : State} (hstarted : s.started = true) (hs : s.ServersUp) :
    s.StopsSafely ↔ ¬ s.SomeNetworkDown := by
  constructor
  · rintro ⟨s', hstop, -⟩ ⟨r, hr, hnone⟩
    obtain ⟨hconnected, -⟩ := stop_cases hstarted hstop
    have hsome := hconnected r hr
    rw [hnone] at hsome
    cases hsome
  · intro hup
    obtain ⟨s', hstop⟩ := exists_stop hstarted (hs hstarted) hup
    obtain ⟨-, -, rfl⟩ := stop_cases hstarted hstop
    refine ⟨_, hstop, fun r' hr' => ?_, rfl, rfl, rfl, rfl, rfl⟩
    obtain ⟨r, -, rfl⟩ := List.mem_map.mp hr'
    rfl

/-- **When a router can be stopped**: in every state of a run in which it is started,
exactly when no network is down. -/
theorem always_stopsSafely_iff {config : Config} {s : State} (h : create config = .ok s)
    (es : List Event) :
    Run.Always (step config)
      (fun t => t.started = true → (t.StopsSafely ↔ ¬ t.SomeNetworkDown)) s es := by
  have hcreate : s.ServersUp := by
    rw [eq_of_create h]
    exact fun h' => by cases h'
  have hservers : Run.Always (step config) ServersUp s es :=
    Run.always_of_step
      (fun _ _ _ hs hstep => serversUp_of_change hs (change_of_handle (step_eq_some_iff.mp hstep)))
      es s hcreate
  exact hservers.mono fun t ht hstarted => stopsSafely_iff hstarted ht

/-- The sample router is started and stopped while its network is up. -/
theorem always_stopsSafely_up : ∃ s₀ s, create sampleConfig = .ok s₀ ∧
    Run.exec (step sampleConfig) s₀ [.start (fun _ => true) fun _ => true] = some s ∧
    s.StopsSafely := by
  have hrun : ∃ s₀ s, create sampleConfig = .ok s₀ ∧
      Run.exec (step sampleConfig) s₀ [.start (fun _ => true) fun _ => true] = some s ∧
      s.started = true ∧ s.networks.any (fun r => r.connection.isNone) = false :=
    ⟨_, _, rfl, rfl, rfl, rfl⟩
  obtain ⟨s₀, s, hcreate, hexec, hstarted, hnetworks⟩ := hrun
  refine ⟨s₀, s, hcreate, hexec,
    ((always_stopsSafely_iff hcreate _).exec hexec hstarted).mpr fun hdown => ?_⟩
  obtain ⟨r, hr, hnone⟩ := hdown
  exact List.any_eq_false.mp hnetworks r hr (by rw [hnone]; rfl)

/-- A router whose network is not reached when it starts does not survive `stop`. -/
theorem stop_crashes_while_down : ∃ s₀ s, create sampleConfig = .ok s₀ ∧
    Run.exec (step sampleConfig) s₀ [.start (fun _ => true) fun _ => false] = some s ∧
    s.started = true ∧ s.stop = .error .nullDereference ∧ ¬ s.StopsSafely := by
  have hrun : ∃ s₀ s, create sampleConfig = .ok s₀ ∧
      Run.exec (step sampleConfig) s₀ [.start (fun _ => true) fun _ => false] = some s ∧
      s.started = true ∧ s.stop = .error .nullDereference := ⟨_, _, rfl, rfl, rfl, rfl⟩
  obtain ⟨s₀, s, hcreate, hexec, hstarted, hstop⟩ := hrun
  refine ⟨s₀, s, hcreate, hexec, hstarted, hstop, ?_⟩
  rintro ⟨s', hstop', -⟩
  cases hstop.symm.trans hstop'

/-! ### Starting -/

/-- The listen calls of a configuration all succeed, or the first one fails. -/
def ListensWhole (config : Config) (listens : ℕ → Bool) : Prop :=
  listens 0 = true → ∀ i < config.bindings.length, listens i = true

/-- A server is started, and the router is not. -/
structure Halfway (s : State) : Prop where
  started : s.started = false
  connections : s.connections = .empty
  server : ∃ r ∈ s.bindings, r.server = true

theorem Halfway.destroy {s : State} (hs : s.Halfway) :
    s.destroy = .error (.breach .startedServer) := by
  have hclients : (s.connections.entries.any fun e => listening e.2) = false := by
    rw [hs.connections]
    rfl
  have hserver : s.bindings.any BindingRecord.server = true :=
    List.any_eq_true.mpr hs.server
  simp only [State.destroy, hs.started, hclients, hserver, Bool.false_eq_true, if_false, if_true]

/-- A router as it is constructed, for a configuration that has bindings. -/
theorem exists_create {config : Config} (hnetworks : config.getNetworks ≠ [])
    (hbindings : config.bindings ≠ []) : ∃ s, create config = .ok s ∧ s.Idle ∧
      s.bindings = config.bindings.map fun b => ⟨b, false⟩ := by
  have hn : config.getNetworks.isEmpty = false := by simpa using hnetworks
  have hb : config.bindings.isEmpty = false := by simpa using hbindings
  have hcreate : ∃ s, create config = .ok s := by
    rw [create, hb, hn]
    exact ⟨_, rfl⟩
  obtain ⟨s, hs⟩ := hcreate
  refine ⟨s, hs, ?_⟩
  rw [eq_of_create hs]
  refine ⟨⟨rfl, rfl, rfl, fun r hr => ?_, rfl, fun r hr => ?_⟩, rfl⟩
  · obtain ⟨b, -, rfl⟩ := List.mem_map.mp hr
    rfl
  · obtain ⟨n, -, rfl⟩ := List.mem_map.mp hr
    rfl

/-- The loop of `start_bindings` over records without servers: it comes to its end, or
leaves by an exception, and then the first server is started unless the first listen
call failed. -/
theorem startBindings_fresh (listens : ℕ → Bool) : ∀ {bindings : List BindingRecord} (k : ℕ),
    (∀ r ∈ bindings, r.server = false) →
      ∃ bindings' done, startBindings listens k bindings = .ok (bindings', done) ∧
        (done = true → ∀ r ∈ bindings', r.server = true) ∧
        (done = false → listens k = true → ∃ r ∈ bindings', r.server = true) := by
  intro bindings
  induction bindings with
  | nil => exact fun k _ => ⟨[], true, rfl, fun _ r hr => absurd hr List.not_mem_nil, nofun⟩
  | cons b bindings ih =>
    intro k hfresh
    cases hlisten : listens k with
    | false =>
      exact ⟨b :: bindings, false, by simp only [startBindings, hlisten]; rfl, nofun, nofun⟩
    | true =>
      -- the server of `b` is started whatever becomes of the others
      obtain ⟨rest, done, hrest, hall, -⟩ :=
        ih (k + 1) fun r hr => hfresh r (List.mem_cons_of_mem _ hr)
      have hb : b.server = false := hfresh b List.mem_cons_self
      refine ⟨{ b with server := true } :: rest, done, ?_, ?_, ?_⟩
      · simp only [startBindings, hlisten, hb, hrest]
        rfl
      · intro hdone r hr
        rcases List.mem_cons.mp hr with rfl | hr
        · rfl
        · exact hall hdone r hr
      · exact fun _ _ => ⟨_, List.mem_cons_self, rfl⟩

/-- **What `start` does with a new router**: it starts everything, or nothing, or some of
its servers. -/
theorem start_fresh {config : Config} {s : State} (hs : s.Idle)
    (hbindings : s.bindings = config.bindings.map fun b => ⟨b, false⟩)
    (hne : config.bindings ≠ []) (listens connects : ℕ → Bool) :
    ∃ s' thrown, s.start listens connects = .ok (s', thrown) ∧
      ((thrown = none ∧ s'.Serving ∧ ∀ i < config.bindings.length, listens i = true) ∨
        (thrown.isSome = true ∧ s'.Idle ∧ listens 0 = false) ∨
        (thrown.isSome = true ∧ s'.Halfway ∧ ¬ ListensWhole config listens)) := by
  -- every listen call is made for a binding of the configuration
  have hlength : s.bindings.length = config.bindings.length := by simp [hbindings]
  obtain ⟨bindings', done, hstart, hall, hsome⟩ := startBindings_fresh listens 0 hs.bindings
  cases done with
  | true =>
    -- every listen call succeeds
    have hrun : s.start listens connects
        = .ok ({ connectNetworks { s with bindings := bindings' } connects with started := true },
          none) := by
      rw [State.start, if_neg (by simp [hs.started]), hstart]
      rfl
    refine ⟨_, _, hrun, Or.inl ⟨rfl, ⟨rfl, ?_, ?_⟩, fun i hi => ?_⟩⟩
    · obtain ⟨networks, connected, timeout, h⟩ :=
        connectNetworks_frame { s with bindings := bindings' } connects
      rw [h]
      exact hall rfl
    · exact allSubscribed_of_change hs.allSubscribed
        (Change.started listens connects bindings' hs.started hstart : Change config s _ _)
    · obtain ⟨r, hr⟩ : ∃ r, s.bindings[i]? = some r :=
        ⟨_, List.getElem?_eq_getElem (hlength ▸ hi)⟩
      exact (canStart_iff.mpr ⟨bindings', hstart⟩ i r hr).1
  | false =>
    -- a listen call fails, and the exception leaves the bindings as they are then
    have hrun : s.start listens connects = .ok ({ s with bindings := bindings' },
        some (.runtimeError "binding to address failed")) := by
      rw [State.start, if_neg (by simp [hs.started]), hstart]
      rfl
    refine ⟨_, _, hrun, Or.inr ?_⟩
    -- the first listen call decides between nothing and a part
    cases hlisten : listens 0 with
    | false =>
      -- not even the first server listens
      have hsame : bindings' = s.bindings := by
        obtain ⟨b, bs, hcons⟩ := List.exists_cons_of_ne_nil
          (List.ne_nil_of_length_pos (by rw [hlength]; exact List.length_pos_iff.mpr hne))
        rw [hcons] at hstart ⊢
        simp only [startBindings, hlisten] at hstart
        cases hstart
        rfl
      exact Or.inl ⟨rfl, hsame ▸ hs, rfl⟩
    | true =>
      refine Or.inr ⟨rfl, ⟨hs.started, hs.connections, hsome rfl hlisten⟩, fun hwhole => ?_⟩
      -- otherwise every listen call would have to succeed
      have hcan : s.CanStart listens := by
        intro i r hr
        have hi : i < s.bindings.length := (List.getElem?_eq_some_iff.mp hr).1
        exact ⟨hwhole hlisten i (hlength ▸ hi), hs.bindings r (List.mem_of_getElem? hr)⟩
      obtain ⟨_, hdone⟩ := canStart_iff.mp hcan
      rw [hstart] at hdone
      cases hdone

end State

end Router
end HomeAutomation
