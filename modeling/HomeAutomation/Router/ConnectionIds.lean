import HomeAutomation.Router.ClientConnection

/-!
# Connection ids

The router knows a client by a number that it takes from a counter.  Filters and queued
queries keep the number after the client is gone, so a client that is accepted must not
be given one that anything still mentions: it would get the replies of another.

The counter has 32 bits.  As long as it does not wrap, every number that is mentioned
anywhere is at most the counter, and the next one is new.

## Main definitions

* `Within P s` — every id that the state mentions satisfies `P`.
* `accepts es` — the number of clients that a run accepts.

## Main results

* `within_of_handle` — no event mentions an id that was not mentioned, but for the one
  that a client is accepted under.
* `accepted_is_fresh` — **in a run with less than `2 ^ 32` clients the next one is
  accepted under an id that nothing mentions.**

## References

`router/Router.cpp`.
-/

namespace HomeAutomation
namespace Router
namespace State

/-- Every id that the state mentions satisfies `P`: those of connections, of filters, and
of queries that wait in the queue. -/
structure Within (P : ℕ → Prop) (s : State) : Prop where
  connections : ∀ id, (s.connections.find id).isSome = true → P id
  filters : ∀ f ∈ s.filters, P f.connectionId
  queue : ∀ r ∈ s.sendQueue, r.type = .request → P r.responseFilter.connectionId

/-- From `s` to `s'` nothing is mentioned that was not, and the counter stays. -/
structure Shrinks (s s' : State) : Prop where
  connections : ∀ id, (s'.connections.find id).isSome = true → (s.connections.find id).isSome = true
  filters : ∀ f ∈ s'.filters, f ∈ s.filters
  queue : ∀ r ∈ s'.sendQueue, r ∈ s.sendQueue
  nextConnectionId : s'.nextConnectionId = s.nextConnectionId

theorem Shrinks.refl (s : State) : Shrinks s s := ⟨fun _ h => h, fun _ h => h, fun _ h => h, rfl⟩

theorem Shrinks.trans {s₁ s₂ s₃ : State} (h₁ : Shrinks s₁ s₂) (h₂ : Shrinks s₂ s₃) :
    Shrinks s₁ s₃ where
  connections id h := h₁.connections id (h₂.connections id h)
  filters f h := h₁.filters f (h₂.filters f h)
  queue r h := h₁.queue r (h₂.queue r h)
  nextConnectionId := h₂.nextConnectionId.trans h₁.nextConnectionId

variable {P : ℕ → Prop} {config : Config} {s s' : State}

theorem Within.shrinks (hs : s.Within P) (h : Shrinks s s') : s'.Within P where
  connections id hid := hs.connections id (h.connections id hid)
  filters f hf := hs.filters f (h.filters f hf)
  queue r hr := hs.queue r (h.queue r hr)

/-- Only clients, their filters and the networks change, and nothing is mentioned that was
not. -/
theorem shrinks_of_subset {connections : OrderedMap ℕ SocketConnection}
    {filters : List FilterRecord}
    (hconnections : ∀ id, s.connections.find id = none → connections.find id = none)
    (hfilters : ∀ f ∈ filters, f ∈ s.filters) :
    Shrinks s { s with connections := connections, filters := filters } := by
  refine ⟨fun id hid => ?_, hfilters, fun _ h => h, rfl⟩
  by_contra hnone
  have hnone := hconnections id (by simpa using hnone)
  have hid : (connections.find id).isSome = true := hid
  rw [hnone] at hid
  cases hid

/-- Storing a connection under a key that is in use mentions nothing new. -/
theorem shrinks_insert {id : ℕ} (hid : (s.connections.find id).isSome = true)
    (c : SocketConnection) : Shrinks s { s with connections := s.connections.insert id c } := by
  apply shrinks_of_subset
  · intro i hi
    rw [OrderedMap.find_insert]
    split
    · next heq =>
      rw [← heq, hi] at hid
      cases hid
    · exact hi
  · exact fun _ h => h

theorem shrinks_closeConnection (s : State) (id : ℕ) : Shrinks s (s.closeConnection id) := by
  apply shrinks_of_subset
  · intro i hi
    rw [OrderedMap.find_erase]
    split
    · rfl
    · exact hi
  · exact fun f hf => (List.mem_filter.mp hf).1

theorem shrinks_closeConnections : ∀ (dead : List (ℕ × Unit)) (s : State),
    Shrinks s (dead.foldl (fun s e => s.closeConnection e.1) s) := by
  intro dead
  induction dead with
  | nil => exact fun s => .refl s
  | cons e dead ih => exact fun s => (shrinks_closeConnection s e.1).trans (ih _)

/-! ### Networks and devices -/

theorem shrinks_connectNetworks (s : State) (connects : ℕ → Bool) :
    Shrinks s (s.connectNetworks connects) := by
  rcases connectNetworks_frame s connects with ⟨networks, connected, timeout, h⟩
  rw [h]
  exact ⟨fun _ h => h, fun _ h => h, fun _ h => h, rfl⟩

theorem shrinks_disconnectNetwork {i : ℕ} (h : s.disconnectNetwork i = .ok s') : Shrinks s s' := by
  rcases disconnectNetwork_frame h with ⟨networks, connected, timeout, p, rfl⟩
  exact ⟨fun _ h => h, fun f hf => (List.mem_filter.mp hf).1, fun _ h => h, rfl⟩

/-- The loop over the filters changes only clients and filters. -/
theorem frame_routeLoop {message : Message} {network : Network} {device : Device} :
    ∀ (fuel : ℕ) (s : State) (kept rest : List FilterRecord) (dead : OrderedMap ℕ Unit)
      {r : State × OrderedMap ℕ Unit},
      routeLoop message network device fuel s kept rest dead = .ok r →
      ∃ connections filters, r.1 = { s with connections := connections, filters := filters } := by
  intro fuel s kept rest dead
  fun_induction routeLoop message network device fuel s kept rest dead with
  | case1 fuel s kept dead =>
    intro r h
    cases h
    exact ⟨_, _, rfl⟩
  -- a loop that does not get to its end returns nothing
  | case2 => intro r h; cases h
  | case3 fuel s kept f rest dead hpass ih => exact fun h => ih h
  | case4 fuel s kept f rest dead hpass ih1 ih2 ih3 =>
    intro r h
    rcases bind_eq_ok_iff.mp h with ⟨⟨s', routed⟩, hroute, h⟩
    rcases routeTo_cases hroute with ⟨connections, rfl, -⟩
    dsimp only at h
    split at h
    · rcases ih1 _ h with ⟨_, _, hr⟩
      exact ⟨_, _, hr⟩
    · split at h
      · rcases ih2 _ h with ⟨_, _, hr⟩
        exact ⟨_, _, hr⟩
      · rcases ih3 _ h with ⟨_, _, hr⟩
        exact ⟨_, _, hr⟩

theorem shrinks_onDevicePacketReceived {packet : Option Packet} {i : ℕ}
    (h : s.onDevicePacketReceived config packet i = .ok s') : Shrinks s s' := by
  unfold onDevicePacketReceived at h
  split at h
  · cases h
    exact .refl s
  · split at h
    · exact shrinks_disconnectNetwork h
    · rcases exists_of_handleDevicePacket h with
        rfl | ⟨message, network, device, t, dead, hloop, rfl⟩
      · exact .refl s'
      · apply Shrinks.trans _ (shrinks_closeConnections dead.entries t)
        rcases keeps_routeLoop _ _ _ _ _ hloop with ⟨hfilters, -⟩
        rcases frame_routeLoop _ _ _ _ _ hloop with ⟨connections, filters, rfl⟩
        apply shrinks_of_subset
        · exact fun id hid => find_eq_none_routeLoop _ _ _ _ _ hloop hid
        · exact fun f hf => (hfilters f hf).resolve_left List.not_mem_nil

/-! ### Commands -/

/-- A filter or a query of a client mentions no one else. -/
theorem within_handleCommand {command : ServiceCommand} {i : ℕ} {unset result : Bool}
    (hs : s.Within P) (hi : P i) (h : s.handleCommand config command i unset = .ok (s', result)) :
    s'.Within P ∧ s'.nextConnectionId = s.nextConnectionId := by
  -- `send` and `query`: the filter for the reply names the client itself
  have hsend : ∀ type, s.handleSend config command i type = .ok (s', result) →
      s'.Within P ∧ s'.nextConnectionId = s.nextConnectionId := by
    intro type h
    rcases handleSend_cases h with h | ⟨device, network, message, -, -, -, -, -, h⟩
    · cases h
      exact ⟨hs, rfl⟩
    · cases h
      refine ⟨⟨hs.connections, hs.filters, fun r hr hrequest => ?_⟩, rfl⟩
      rcases List.mem_append.mp hr with hr | hr
      · exact hs.queue r hr hrequest
      · rw [List.mem_singleton.mp hr] at hrequest ⊢
        have htype : type = .request := hrequest
        simpa [htype, responseFilter, FilterRecord.create] using hi
  rcases actions_of_handleCommand h with ⟨-, h⟩ | ⟨-, h⟩ | ⟨-, h⟩ | ⟨-, -, h⟩
  · unfold handleFilter at h
    split at h
    · cases h
      exact ⟨hs, rfl⟩
    · next f hf =>
      cases h
      -- the new filter is for the client itself
      refine ⟨⟨hs.connections, fun g hg => ?_, hs.queue⟩, rfl⟩
      rcases List.mem_append.mp hg with hg | hg
      · exact hs.filters g hg
      · rw [List.mem_singleton.mp hg, connectionId_filterRecord hf]
        exact hi
  · exact hsend .data h
  · exact hsend .request h
  · cases h
    exact ⟨hs, rfl⟩

theorem within_onConnectionPacketReceived {packet : Option Packet} {i : ℕ} {unset : Bool}
    (hs : s.Within P) (h : s.onConnectionPacketReceived config packet i unset = .ok s') :
    s'.Within P ∧ s'.nextConnectionId = s.nextConnectionId := by
  unfold onConnectionPacketReceived at h
  split at h
  · cases h
    exact ⟨hs, rfl⟩
  · split at h
    · cases h
    · cases h
      exact ⟨hs, rfl⟩
    · cases h
      exact ⟨hs, rfl⟩
    · split at h
      · cases h
        exact ⟨hs, rfl⟩
      · next command connection hfind =>
        rcases bind_eq_ok_iff.mp h with ⟨⟨t, result⟩, hcommand, h⟩
        rcases bind_eq_ok_iff.mp h with ⟨reply, -, h⟩
        rcases bind_eq_ok_iff.mp h with ⟨sent, -, h⟩
        -- the client is one of those that are there
        have hi : P i := hs.connections i (by rw [hfind]; rfl)
        have hconnections := connections_handleCommand hcommand
        rcases within_handleCommand hs hi hcommand with ⟨ht, hnext⟩
        cases sent with
        | none =>
          cases h
          exact ⟨ht.shrinks (shrinks_closeConnection t i), hnext⟩
        | some c =>
          cases h
          -- the answer goes to a connection that is there
          have hthere : (t.connections.find i).isSome = true := by
            rw [show t.connections = s.connections from hconnections, hfind]
            rfl
          exact ⟨ht.shrinks (shrinks_insert hthere c), hnext⟩

/-! ### Every event -/

/-- A query at its turn is a filter instead. -/
theorem within_onSendTimer {s s' : State} (hs : s.Within P) (h : s.onSendTimer = .ok s') :
    s'.Within P ∧ s'.nextConnectionId = s.nextConnectionId := by
  rcases onSendTimer_cases h with ⟨-, rfl⟩ | ⟨record, queue, t, sent, -, hqueue, hsend, rfl⟩
  · exact ⟨hs, rfl⟩
  · rcases sendQueued_frame hsend with ⟨networks, connected, timeout, p, rfl, -⟩
    refine ⟨⟨hs.connections, fun f hf => ?_, fun r hr => ?_⟩, rfl⟩
    · have hold : ∀ f ∈ s.filters.filter p, P f.connectionId := fun f hf =>
        hs.filters f (List.mem_filter.mp hf).1
      unfold finishSend at hf
      dsimp only at hf
      split at hf
      · next hrequest =>
        rcases List.mem_append.mp hf with hf | hf
        · exact hold f hf
        · rw [List.mem_singleton.mp hf]
          exact hs.queue record (by rw [hqueue]; exact List.mem_cons_self) hrequest.1
      · exact hold f hf
    · exact hs.queue r (by rw [hqueue]; exact List.mem_cons_of_mem _ hr)

theorem shrinks_onClientSocket {i : ℕ} {handler : SocketConnection → Except Fault SocketConnection}
    (h : s.onClientSocket i handler = .ok s') : Shrinks s s' := by
  unfold onClientSocket at h
  split at h
  · cases h
    exact .refl s
  · next c hfind =>
    rcases bind_eq_ok_iff.mp h with ⟨c', -, h⟩
    cases h
    exact shrinks_insert (by rw [hfind]; rfl) c'

theorem shrinks_onNetworkSocket {i : ℕ} {handler : SocketConnection → Except Fault SocketConnection}
    (h : s.onNetworkSocket i handler = .ok s') : Shrinks s s' := by
  unfold onNetworkSocket at h
  split at h
  · cases h
    exact .refl s
  · split at h
    · cases h
      exact .refl s
    · rcases bind_eq_ok_iff.mp h with ⟨c', -, h⟩
      cases h
      exact ⟨fun _ h => h, fun _ h => h, fun _ h => h, rfl⟩

theorem shrinks_start {listens connects : ℕ → Bool} {r : State × Option Exception}
    (h : s.start listens connects = .ok r) : Shrinks s r.1 := by
  unfold start at h
  split at h
  · cases h
    exact .refl s
  · rcases bind_eq_ok_iff.mp h with ⟨⟨bindings, done⟩, -, h⟩
    cases done with
    | false =>
      cases h
      exact ⟨fun _ h => h, fun _ h => h, fun _ h => h, rfl⟩
    | true =>
      cases h
      have hshrinks := shrinks_connectNetworks { s with bindings := bindings } connects
      exact ⟨hshrinks.connections, hshrinks.filters, hshrinks.queue, hshrinks.nextConnectionId⟩

theorem shrinks_stop (h : s.stop = .ok s') : Shrinks s s' := by
  by_cases hstarted : s.started = true
  · rcases stop_cases hstarted h with ⟨-, -, rfl⟩
    refine ⟨fun id hid => ?_, fun f hf => ?_, fun _ h => h, rfl⟩
    · cases hid
    · cases hf
  · unfold stop at h
    rw [if_pos (by simpa using hstarted)] at h
    cases h
    exact .refl s

/-- **No event mentions an id that was not mentioned**, but for the one that a client is
accepted under; and the counter is for nothing else. -/
theorem within_of_handle {e : Event} (hs : s.Within P) (he : e ≠ .accept)
    (h : s.handle config e = .ok s') :
    s'.Within P ∧ s'.nextConnectionId = s.nextConnectionId := by
  -- most events open no connection, and add neither filters nor queries
  have hshrinks : Shrinks s s' → s'.Within P ∧ s'.nextConnectionId = s.nextConnectionId :=
    fun h => ⟨hs.shrinks h, h.nextConnectionId⟩
  cases e with
  | start listens connects =>
    rcases start_of_handle h with ⟨r, hstart, rfl⟩
    exact hshrinks (shrinks_start hstart)
  | stop => exact hshrinks (shrinks_stop h)
  | accept => exact absurd rfl he
  | clientPacket i packet unset => exact within_onConnectionPacketReceived hs h
  | clientRead i outcome => exact hshrinks (shrinks_onClientSocket h)
  | clientWrite i outcomes => exact hshrinks (shrinks_onClientSocket h)
  | devicePacket i packet => exact hshrinks (shrinks_onDevicePacketReceived h)
  | networkRead i outcome => exact hshrinks (shrinks_onNetworkSocket h)
  | networkWrite i outcomes => exact hshrinks (shrinks_onNetworkSocket h)
  | sendTick =>
    rw [handle] at h
    split at h
    · have hs : Within P { s with sendTimer := false } := ⟨hs.connections, hs.filters, hs.queue⟩
      rcases within_onSendTimer hs h with ⟨hwithin, hnext⟩
      exact ⟨hwithin, hnext⟩
    · cases h
      exact ⟨hs, rfl⟩
  | reconnectTick connects =>
    rw [handle] at h
    split at h
    · cases h
      rcases onReconnectTimeout_frame { s with reconnectTimeout := false } connects with
        ⟨networks, connected, timeout, h⟩
      rw [h]
      exact ⟨⟨hs.connections, hs.filters, hs.queue⟩, rfl⟩
    · cases h
      exact ⟨hs, rfl⟩

/-! ### Runs -/

/-- Every id that is mentioned has been given out. -/
def Numbered (s : State) : Prop := s.Within (· ≤ s.nextConnectionId)

/-- The event is a client's connection. -/
def isAccept : Event → Bool
  | .accept => true
  | _ => false

/-- The number of clients that a run accepts. -/
def accepts (es : List Event) : ℕ := es.countP isAccept

/-- **Accepting a client whose number is not taken.** -/
theorem onAcceptedConnection_eq (hstarted : s.started = true)
    (hnone : s.connections.find ((s.nextConnectionId + 1) % 2 ^ 32) = none) :
    s.onAcceptedConnection = .ok { s with
      nextConnectionId := (s.nextConnectionId + 1) % 2 ^ 32
      connections := s.connections.insert ((s.nextConnectionId + 1) % 2 ^ 32)
        SocketConnection.fresh.subscribe } := by
  unfold onAcceptedConnection
  rw [if_neg (by simp [hstarted])]
  dsimp only
  rw [hnone]

/-- What is above the counter is not in use. -/
theorem Numbered.find_eq_none (hs : s.Numbered) {id : ℕ} (hid : s.nextConnectionId < id) :
    s.connections.find id = none := by
  by_contra hsome
  have hle : id ≤ s.nextConnectionId := hs.connections id (Option.isSome_iff_ne_none.mpr hsome)
  omega

/-- **One step**: the numbers given out stay at most the counter. -/
theorem numbered_of_handle {e : Event} (hs : s.Numbered) (hwrap : s.nextConnectionId + 1 < 2 ^ 32)
    (h : s.handle config e = .ok s') :
    s'.Numbered ∧ s'.nextConnectionId ≤ s.nextConnectionId + if isAccept e then 1 else 0 := by
  by_cases he : e = .accept
  · subst he
    have h : s.onAcceptedConnection = .ok s' := h
    by_cases hstarted : s.started = true
    · have hmod : (s.nextConnectionId + 1) % 2 ^ 32 = s.nextConnectionId + 1 := Nat.mod_eq_of_lt hwrap
      -- nothing has the next number yet
      have hnone := hs.find_eq_none (Nat.lt_succ_self s.nextConnectionId)
      rw [onAcceptedConnection_eq hstarted (by rwa [hmod]), hmod] at h
      cases h
      -- the new connection has it, and all else has a smaller one
      refine ⟨⟨fun id hid => ?_, fun f hf => ?_, fun r hr hrequest => ?_⟩, by simp [isAccept]⟩
      · dsimp only at hid ⊢
        rw [OrderedMap.find_insert] at hid
        split at hid
        · next heq => exact heq.le
        · exact (hs.connections id hid).trans (Nat.le_succ _)
      · exact (hs.filters f hf).trans (Nat.le_succ _)
      · exact (hs.queue r hr hrequest).trans (Nat.le_succ _)
    · unfold onAcceptedConnection at h
      rw [if_pos (by simpa using hstarted)] at h
      cases h
      exact ⟨hs, Nat.le_add_right _ _⟩
  · rcases within_of_handle hs he h with ⟨hwithin, hnext⟩
    refine ⟨?_, by omega⟩
    unfold Numbered
    rwa [hnext]

/-- **Runs**: the counter is at most the number of clients accepted, as long as it does not
wrap. -/
theorem numbered_of_exec : ∀ {es : List Event} {s s' : State}, s.Numbered →
    s.nextConnectionId + accepts es + 1 < 2 ^ 32 → Run.exec (step config) s es = some s' →
    s'.Numbered ∧ s'.nextConnectionId ≤ s.nextConnectionId + accepts es := by
  intro es
  induction es with
  | nil =>
    intro s s' hs _ h
    cases h
    exact ⟨hs, Nat.le_add_right _ _⟩
  | cons e es ih =>
    intro s s' hs hwrap h
    rcases Option.bind_eq_some_iff.mp h with ⟨t, ht, h⟩
    have hcount : accepts (e :: es) = accepts es + if isAccept e then 1 else 0 :=
      List.countP_cons
    rw [hcount] at hwrap ⊢
    rcases numbered_of_handle hs (by omega) (step_eq_some_iff.mp ht) with ⟨hnumbered, hnext⟩
    rcases ih hnumbered (by omega) h with ⟨hs', hle⟩
    exact ⟨hs', by omega⟩

theorem numbered_create (h : create config = .ok s) : s.Numbered := by
  rw [eq_of_create h]
  refine ⟨fun id hid => ?_, fun f hf => ?_, fun r hr => ?_⟩
  · cases hid
  · cases hf
  · cases hr

/-- **In a run with less than `2 ^ 32` clients the next one is accepted under a new id**:
the router does not come to the collision that would end it, the id is that of no
connection, no filter and no query in the queue, and no reply is on its way to it. -/
theorem accepted_is_fresh {s₀ : State} (hcreate : create config = .ok s₀) {es : List Event}
    (hrun : Run.exec (step config) s₀ es = some s) (hcount : accepts es + 1 < 2 ^ 32)
    (hstarted : s.started = true) :
    ∃ s', s.step config .accept = some s' ∧
      s'.connections.find s'.nextConnectionId = some SocketConnection.fresh.subscribe ∧
      s.Within (· ≠ s'.nextConnectionId) ∧ s'.awaiting s'.nextConnectionId = 0 := by
  have hzero : s₀.nextConnectionId = 0 := by rw [eq_of_create hcreate]
  rcases numbered_of_exec (numbered_create hcreate) (by omega) hrun with ⟨hs, hle⟩
  -- the counter does not wrap
  have hmod : (s.nextConnectionId + 1) % 2 ^ 32 = s.nextConnectionId + 1 := by omega
  have hnone := hs.find_eq_none (Nat.lt_succ_self s.nextConnectionId)
  have haccept := onAcceptedConnection_eq hstarted (by rwa [hmod])
  -- all that is there is of earlier clients
  have hnew : s.Within (· ≠ s.nextConnectionId + 1) := by
    refine ⟨fun id hid => ?_, fun f hf => ?_, fun r hr hrequest => ?_⟩
    · exact (Nat.lt_succ_of_le (hs.connections id hid)).ne
    · exact (Nat.lt_succ_of_le (hs.filters f hf)).ne
    · exact (Nat.lt_succ_of_le (hs.queue r hr hrequest)).ne
  rw [hmod] at haccept
  refine ⟨_, step_eq_some_iff.mpr haccept, by simp, hnew, ?_⟩
  -- so no filter waits for a reply to the new one
  have hreplies : replyCount (s.nextConnectionId + 1) s.filters = 0 := by
    unfold replyCount
    rw [List.countP_eq_zero]
    intro f hf
    simp [hnew.filters f hf]
  -- and no query in the queue is its own
  have hqueries : s.sendQueue.countP (fun r => decide (r.type = .request) &&
      decide (r.responseFilter.connectionId = s.nextConnectionId + 1)) = 0 := by
    rw [List.countP_eq_zero]
    intro r hr
    by_cases hrequest : r.type = .request
    · simp [hnew.queue r hr hrequest]
    · simp [hrequest]
  unfold awaiting
  dsimp only
  rw [hreplies, hqueries]

/-- The second client of the sample configuration, after the first has sent a query. -/
theorem accepted_is_fresh_second : ∃ s₀ s, create sampleConfig = .ok s₀ ∧
    Run.exec (step sampleConfig) s₀ [.start (fun _ => true) (fun _ => true), .accept,
      .clientPacket 1 (some (.serviceCommand sampleQuery)) true] = some s ∧
    ∃ s', s.step sampleConfig .accept = some s' ∧
      s'.connections.find s'.nextConnectionId = some SocketConnection.fresh.subscribe ∧
      s.Within (· ≠ s'.nextConnectionId) ∧ s'.awaiting s'.nextConnectionId = 0 := by
  have hcreate : ∃ s, create sampleConfig = .ok s := ⟨_, rfl⟩
  rcases hcreate with ⟨s₀, hs₀⟩
  have hrun : ∃ s, Run.exec (step sampleConfig) s₀ [.start (fun _ => true) (fun _ => true),
      .accept, .clientPacket 1 (some (.serviceCommand sampleQuery)) true] = some s ∧
      s.started = true := by
    rw [eq_of_create hs₀]
    exact ⟨_, rfl, rfl⟩
  rcases hrun with ⟨s, hrun, hstarted⟩
  exact ⟨s₀, s, hs₀, hrun, accepted_is_fresh hs₀ hrun (by decide) hstarted⟩

end State
end Router
end HomeAutomation
