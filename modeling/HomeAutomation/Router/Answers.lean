import HomeAutomation.Router.Networks

/-!
# The answers of the router

A client's command is handled and answered with "ok" or "fail".  The answer should
tell whether the command took effect, and a command that fails should leave no
trace.  `handle_send` decides before it touches the queue.  `handle_filter` decides
before it adds its filter, but then ends without a `return`: whether the client hears
"ok" or "fail" for a filter that was added is left to chance.

## Main definitions

* `Received` — a command that came out of a line.
* `offer` — the answer is offered to the client's connection.
* `TookEffect` — one filter was added, or one message was queued.
* `Answered` — the command is answered once, truthfully, and leaves no trace when it
  fails.

## Main results

* `registered_of_reachable` — the networks of a router are those of its configuration,
  and only a started router has clients.
* `answered_iff` — which commands are answered truthfully.

## References

`router/Router.cpp`.
-/

namespace HomeAutomation
namespace Router

/-- A command that came out of a line. -/
def Received (command : ServiceCommand) : Prop :=
  ∃ line, Packet.create line = .ok (.serviceCommand command)

namespace State

variable {config : Config}

/-! ### Reachable states -/

/-- The states of a router in its runs. -/
def ReachableState (config : Config) (s : State) : Prop :=
  Run.Reachable (step config) (fun s => create config = .ok s) s

/-- The networks are those of the configuration, and only a started router has
clients. -/
structure Registered (config : Config) (s : State) : Prop where
  networks : s.networks.map NetworkRecord.network = config.getNetworks
  idle : s.started = false → s.connections = .empty

theorem registered_of_change {s s' : State} {e : Event} (hs : Registered config s)
    (h : Change config s e s') : Registered config s' := by
  refine ⟨(networks_of_change h).trans hs.networks, ?_⟩
  cases h with
  | quiet _ _ h => exact fun hnot => h.idle (h.started ▸ hnot) (hs.idle (h.started ▸ hnot))
  | queued record hstarted _ _ _ h =>
    -- commands are taken by a started router only
    intro hnot
    rw [h.started, show (s.enqueue record).started = s.started from rfl, hstarted] at hnot
    cases hnot
  | idle => exact hs.idle
  | turned record queue t sent hstarted _ _ hsend =>
    obtain ⟨networks, connected, timeout, p, rfl, -⟩ := sendQueued_frame hsend
    exact hs.idle
  | lost i _ h =>
    obtain ⟨networks, connected, timeout, p, rfl⟩ := disconnectNetwork_frame h
    exact hs.idle
  | reconnected connects =>
    obtain ⟨networks, connected, timeout, h⟩ :=
      onReconnectTimeout_frame { s with reconnectTimeout := false } connects
    rw [h]
    exact hs.idle
  | startFailed => exact hs.idle
  | started => exact fun h => Bool.noConfusion h
  | stopped hstarted h =>
    obtain ⟨-, -, rfl⟩ := stop_cases hstarted h
    exact fun _ => rfl

theorem registered_of_reachable {s : State} (h : ReachableState config s) :
    Registered config s := by
  refine Run.Reachable.invariant ?_ ?_ h
  · intro s hs
    rw [eq_of_create hs]
    refine ⟨?_, fun _ => rfl⟩
    simp [Function.comp_def]
  · intro s e s' hs hstep
    exact registered_of_change hs (change_of_handle (step_eq_some_iff.mp hstep))

/-- A router with a client is started. -/
theorem Registered.started {s : State} (hs : Registered config s) {id : ℕ}
    {connection : SocketConnection} (hfind : s.connections.find id = some connection) :
    s.started = true := by
  by_contra hnot
  rw [hs.idle (by simpa using hnot)] at hfind
  cases hfind

/-- The network of a device is among those of the router. -/
theorem Registered.findIdx {s : State} (hs : Registered config s) {name : Text} {device : Device}
    (hdevice : config.findDevice name = some device) :
    ∃ i, (s.networks.findIdx? fun r => r.network.name = device.networkName) = some i := by
  have hmem : (name, device) ∈ config.devices.entries := OrderedMap.mem_entries_iff.mpr hdevice
  obtain ⟨network, hnetwork⟩ := Option.isSome_iff_exists.mp (config.device_network _ hmem)
  have hentry := OrderedMap.mem_entries_iff.mpr hnetwork
  have hname : network.name = device.networkName := config.network_name _ hentry
  have hlist : network ∈ s.networks.map NetworkRecord.network := by
    rw [hs.networks]
    exact List.mem_map.mpr ⟨_, hentry, rfl⟩
  obtain ⟨r, hr, rfl⟩ := List.mem_map.mp hlist
  refine Option.isSome_iff_exists.mp ?_
  rw [List.findIdx?_isSome, List.any_eq_true]
  exact ⟨r, hr, by simpa using hname⟩

/-- The check of `handle_send` never fails. -/
theorem handleSend_returns {s : State} (hs : Registered config s) (command : ServiceCommand)
    (id : ℕ) (type : MessageType) : ∃ r, s.handleSend config command id type = .ok r := by
  unfold handleSend
  split
  · exact ⟨_, rfl⟩
  · next device hdevice =>
    obtain ⟨i, hi⟩ := hs.findIdx hdevice
    rw [hi]
    dsimp only
    split
    · exact ⟨_, rfl⟩
    · split
      · exact ⟨_, rfl⟩
      · split
        · exact ⟨_, rfl⟩
        · exact ⟨_, rfl⟩

/-- A command never stops a router that is reachable. -/
theorem handleCommand_returns {s : State} (hs : Registered config s) (command : ServiceCommand)
    (id : ℕ) (unset : Bool) : ∃ r, s.handleCommand config command id unset = .ok r := by
  unfold handleCommand
  split
  · exact ⟨_, rfl⟩
  · split
    · exact handleSend_returns hs command id .data
    · split
      · exact handleSend_returns hs command id .request
      · exact ⟨_, rfl⟩

/-! ### Answers -/

/-- The answer is offered to the client's connection, which is closed when it has no
room for it. -/
def offer (t : State) (id : ℕ) (connection : SocketConnection) (reply : ServiceCommand) :
    Except Fault State := do
  match ← catchRangeError (connection.send (.serviceCommand reply)) with
  | none => return t.closeConnection id
  | some connection => return { t with connections := t.connections.insert id connection }

/-- **The command took effect**: a filter command added one filter, or a send or query
command put one message into the queue. -/
def TookEffect (action : Text) (s t : State) : Prop :=
  (action = "filter".toList ∧ ∃ filter, t.filters = s.filters ++ [filter]) ∨
    ((action = "send".toList ∨ action = "query".toList) ∧
      ∃ record, t.sendQueue = s.sendQueue ++ [record])

/-- **The command is answered truthfully**, whatever stands for a result that nothing
sets: `handle_command` leads to a state `t`, in which one answer is offered to the
client; the answer is "ok" exactly when the command took effect, and where it is
"fail" everything is as it was. -/
def Answered (config : Config) (s : State) (id : ℕ) (connection : SocketConnection)
    (command : ServiceCommand) : Prop :=
  ∀ unset, ∃ t result, s.handleCommand config command id unset = .ok (t, result) ∧
    s.onConnectionPacketReceived config (some (.serviceCommand command)) id unset
      = t.offer id connection ⟨if result then "ok".toList else "fail".toList,
          OrderedMap.empty.insert "command".toList command.action⟩ ∧
    (result = true ↔ TookEffect command.action s t) ∧ (result = false → t = s)

/-- The handler offers one answer. -/
theorem onConnectionPacketReceived_offer {s : State} (hstarted : s.started = true) {id : ℕ}
    {connection : SocketConnection} (hfind : s.connections.find id = some connection)
    {command : ServiceCommand} (hcheck : checkString command.action = true) {unset : Bool}
    {t : State} {result : Bool}
    (hcommand : s.handleCommand config command id unset = .ok (t, result)) :
    s.onConnectionPacketReceived config (some (.serviceCommand command)) id unset
      = t.offer id connection (replyCommand command.action result) := by
  unfold onConnectionPacketReceived offer
  rw [if_neg (by simp [hstarted])]
  dsimp only
  rw [hfind]
  dsimp only
  rw [hcommand, ok_bind]
  have hreply := commandReply_eq hcheck result
  generalize commandReply command.action result = reply at hreply ⊢
  subst hreply
  rfl

/-- A state is not changed by adding nothing to a list of it. -/
theorem not_tookEffect_self (action : Text) (s : State) : ¬ TookEffect action s s := by
  rintro (⟨-, filter, h⟩ | ⟨-, record, h⟩)
  · simpa using congrArg List.length h
  · simpa using congrArg List.length h

/-- `handle_send` tells the truth and leaves no trace when it fails. -/
theorem handleSend_truthful {s t : State} {command : ServiceCommand} {id : ℕ} {type : MessageType}
    {result : Bool} (haction : command.action = "send".toList ∨ command.action = "query".toList)
    (h : s.handleSend config command id type = .ok (t, result)) :
    (result = true ↔ TookEffect command.action s t) ∧ (result = false → t = s) := by
  obtain h | ⟨device, network, message, -, -, -, -, -, h⟩ := handleSend_cases h
  · cases h
    exact ⟨iff_of_false Bool.false_ne_true (not_tookEffect_self _ s), fun _ => rfl⟩
  · cases h
    exact ⟨iff_of_true rfl (Or.inr ⟨haction, _, rfl⟩), fun h => Bool.noConfusion h⟩

/-- **Which commands are answered truthfully**: all but the filter commands whose
filter is added. -/
theorem answered_iff {s : State} (hs : ReachableState config s) {id : ℕ}
    {connection : SocketConnection} (hfind : s.connections.find id = some connection)
    {command : ServiceCommand} (hreceived : Received command) :
    Answered config s id connection command ↔
      (command.action = "filter".toList → filterRecord config command id = none) := by
  have hregistered := registered_of_reachable hs
  have hstarted := hregistered.started hfind
  obtain ⟨line, hline⟩ := hreceived
  have hcheck := (ServiceCommand.writable_of_create hline).action
  -- the answer is what `send` makes of the result, for a client that is there
  have hoffer : ∀ {unset t result}, s.handleCommand config command id unset = .ok (t, result) →
      s.onConnectionPacketReceived config (some (.serviceCommand command)) id unset
        = t.offer id connection (replyCommand command.action result) :=
    onConnectionPacketReceived_offer hstarted hfind hcheck
  constructor
  · -- a filter that is added may be answered with "fail"
    intro h haction
    by_contra hsome
    obtain ⟨filter, hfilter⟩ := Option.ne_none_iff_exists'.mp hsome
    obtain ⟨t, result, hcommand, -, -, hfail⟩ := h false
    rw [handleCommand, if_pos haction, handleFilter, hfilter] at hcommand
    cases hcommand
    have hsame : s.filters ++ [filter] = s.filters := congrArg filters (hfail rfl)
    simpa using congrArg List.length hsame
  · intro hfilter unset
    obtain ⟨⟨t, result⟩, hcommand⟩ := handleCommand_returns hregistered command id unset
    refine ⟨t, result, hcommand, hoffer hcommand, ?_⟩
    obtain ⟨haction, hresult⟩ | ⟨haction, hsend⟩ | ⟨haction, hsend⟩ | ⟨-, -, hresult⟩ :=
      actions_of_handleCommand hcommand
    -- the filter is refused, and nothing has happened
    · rw [handleFilter, hfilter haction] at hresult
      cases hresult
      exact ⟨iff_of_false Bool.false_ne_true (not_tookEffect_self _ s), fun _ => rfl⟩
    · exact handleSend_truthful (Or.inl haction) hsend
    · exact handleSend_truthful (Or.inr haction) hsend
    -- no such command, and nothing has happened
    · cases hresult
      exact ⟨iff_of_false Bool.false_ne_true (not_tookEffect_self _ s), fun _ => rfl⟩

/-- The sample router with one client is reachable. -/
theorem reachableState_sample :
    ReachableState sampleConfig (sampleState SocketConnection.fresh.subscribe) := by
  have hopen : ∃ s₀ s₁, create sampleConfig = .ok s₀ ∧
      s₀.step sampleConfig (.start (fun _ => true) (fun _ => true)) = some s₁ ∧
      s₁.step sampleConfig .accept = some (sampleState SocketConnection.fresh.subscribe) :=
    ⟨_, _, rfl, rfl, rfl⟩
  obtain ⟨s₀, s₁, hcreate, hstart, haccept⟩ := hopen
  exact .step _ (.step _ (.init hcreate) hstart) haccept

theorem received_of_writable {command : ServiceCommand} (h : command.Writable) :
    Received command :=
  ⟨command.line, ServiceCommand.create_line h⟩

/-- A query of the sample client is answered truthfully. -/
theorem answered_query : Received sampleQuery ∧
    Answered sampleConfig (sampleState SocketConnection.fresh.subscribe) 1
      SocketConnection.fresh.subscribe sampleQuery := by
  have hreceived : Received sampleQuery := received_of_writable
    (((ServiceCommand.writable_create (by decide) (by decide)).insert "device".toList (by decide)
      (by decide) (by decide)).insert "address".toList (by decide) (by decide) (by decide))
  exact ⟨hreceived, (answered_iff reachableState_sample rfl hreceived).mpr fun h => by cases h⟩

/-- A filter for all values of all devices. -/
def sampleFilterCommand : ServiceCommand := ⟨"filter".toList, .empty⟩

/-- The router adds the filter and may answer "fail". -/
theorem accepted_filter_answered_fail :
    ReachableState sampleConfig (sampleState SocketConnection.fresh.subscribe) ∧
    Received sampleFilterCommand ∧
    ¬ Answered sampleConfig (sampleState SocketConnection.fresh.subscribe) 1
      SocketConnection.fresh.subscribe sampleFilterCommand := by
  refine ⟨reachableState_sample, received_of_writable
    (ServiceCommand.writable_create (by decide) (by decide)), fun h => ?_⟩
  obtain ⟨t, result, hcommand, -, -, hfail⟩ := h false
  cases hcommand
  have hsame := congrArg (fun s : State => s.filters.length) (hfail rfl)
  exact absurd hsame (by decide)

end State
end Router
end HomeAutomation
