import HomeAutomation.Proto.RoundTrip
import HomeAutomation.Router.Answers

/-!
# The connection of one client

Between two events that concern a client's own socket or its own packets, the router
does one of two things to the client's connection: it sends some commands over it, each
of them for a message that a device has just sent and a filter of this client, or it
drops it.  Nothing else reaches a client that it has not asked for.

A reply needs a filter that a query has left behind, and takes it along.  What a client
may still get replies for is counted over both, the queries that wait in the queue and
the filters of those that have been handed over.

## Main definitions

* `Takes` — a connection takes packets one after the other.
* `Due` — a command that a device's message makes the router send to a client.
* `awaiting` — the replies that a client may still get.
* `Foreign` — the events that do not concern the client's own socket or packets.

## Main results

* `takes_routeLoop` — the loop of `handle_device_packet` sends what is due.
* `answer_of_onConnectionPacketReceived` — a client's own packets.
* `takes_of_handle` — **what becomes of a connection in a foreign event.**
* `awaiting_of_handle` — a reply that is sent is no longer awaited.

## References

`router/Router.cpp`.
-/

namespace HomeAutomation
namespace Router

open ServiceCommand

/-- The connection takes the packets one after the other. -/
inductive Takes : SocketConnection → List Packet → SocketConnection → Prop
  | nil (c : SocketConnection) : Takes c [] c
  | cons {c c₁ c₂ : SocketConnection} {p : Packet} {ps : List Packet}
      (hsend : c.send p = .ok (.ok c₁)) (h : Takes c₁ ps c₂) : Takes c (p :: ps) c₂

/-- The packet carries a reply of a device. -/
def isReplyPacket : Packet → Bool
  | .serviceCommand c => c.action = "reply".toList
  | _ => false

/-- The packet is a query. -/
def isQueryPacket : Packet → Bool
  | .serviceCommand c => c.action = "query".toList
  | _ => false

/-- The number of replies among packets. -/
def replies (ps : List Packet) : ℕ := ps.countP isReplyPacket

@[simp] theorem replies_nil : replies [] = 0 := rfl

@[simp] theorem replies_append (ps qs : List Packet) :
    replies (ps ++ qs) = replies ps + replies qs :=
  List.countP_append

theorem Takes.append {c c₁ c₂ : SocketConnection} {ps qs : List Packet} (h : Takes c ps c₁)
    (h' : Takes c₁ qs c₂) : Takes c (ps ++ qs) c₂ := by
  induction h with
  | nil => exact h'
  | cons hsend _ ih => exact .cons hsend (ih h')

namespace State

/-! ### Commands that are routed -/

/-- The checked setter keeps a command writable. -/
theorem writable_of_addArgument {c c' : ServiceCommand} {key value : Text} (hc : c.Writable)
    (hne : key ≠ []) (h : c.addArgument key value = .ok c') : c'.Writable := by
  rcases of_addArgument h with ⟨hkey, hvalue, rfl⟩
  exact hc.insert key hne hkey hvalue

theorem action_of_addArgument {c c' : ServiceCommand} {key value : Text}
    (h : c.addArgument key value = .ok c') : c'.action = c.action := by
  rcases of_addArgument h with ⟨-, -, rfl⟩
  rfl

/-- **A routed command can be written**, and is either a "send" or a "reply". -/
theorem writable_routedCommand {message : Message} {device : Device} {reply : Bool}
    {command : ServiceCommand} (h : routedCommand message device reply = .ok command) :
    command.Writable ∧
      command.action = if reply then "reply".toList else "send".toList := by
  rcases bind_eq_ok_iff.mp h with ⟨c₁, h₁, hrest⟩
  rcases bind_eq_ok_iff.mp hrest with ⟨c₂, h₂, hrest⟩
  rcases bind_eq_ok_iff.mp hrest with ⟨c₃, h₃, hrest⟩
  rcases bind_eq_ok_iff.mp hrest with ⟨c₄, h₄, h₅⟩
  -- both words the command may begin with are accepted
  have hword : checkString (if reply then "reply".toList else "send".toList) = true ∧
      (if reply then "reply".toList else "send".toList) ≠ [] := by
    cases reply <;> decide
  rw [ServiceCommand.create_eq hword.1] at h₁
  cases h₁
  constructor
  -- every argument is added to a command that can be written
  · apply writable_of_addArgument _ _ h₅
    · apply writable_of_addArgument _ _ h₄
      · apply writable_of_addArgument _ _ h₃
        · exact writable_of_addArgument (writable_create hword.2 hword.1) (by simp) h₂
        · simp
      · simp
    · simp
  · rw [action_of_addArgument h₅, action_of_addArgument h₄, action_of_addArgument h₃,
      action_of_addArgument h₂]

/-- A routed command is a reply if it was to be one. -/
theorem replies_routedCommand {message : Message} {device : Device} {reply : Bool}
    {command : ServiceCommand} (h : routedCommand message device reply = .ok command) :
    replies [.serviceCommand command] = if reply then 1 else 0 := by
  have haction := (writable_routedCommand h).2
  cases reply
  · simp [replies, isReplyPacket, haction]
  · simp [replies, isReplyPacket, haction]

/-- An answer can be written. -/
theorem writable_replyCommand {action : Text} (h : checkString action = true) (result : Bool) :
    (replyCommand action result).Writable := by
  have hword : Writable ⟨if result then "ok".toList else "fail".toList, .empty⟩ := by
    cases result with
    | false => exact writable_create (by decide) (by decide)
    | true => exact writable_create (by decide) (by decide)
  exact hword.insert "command".toList (by decide) (by decide) h

/-- What an answer is. -/
theorem of_commandReply {action : Text} {result : Bool} {reply : ServiceCommand}
    (h : commandReply action result = .ok reply) :
    checkString action = true ∧ reply = replyCommand action result := by
  rcases bind_eq_ok_iff.mp h with ⟨c, hc, h'⟩
  rcases of_addArgument h' with ⟨-, haction, -⟩
  rw [commandReply_eq haction] at h
  cases h
  exact ⟨haction, rfl⟩

variable {config : Config}

/-- **The command is due**: the event brings a message from a configured device, which
passes a filter of the client, and the command reports it. -/
def Due (config : Config) (s : State) (e : Event) (id : ℕ) (command : ServiceCommand) : Prop :=
  ∃ i message record device f, e = .devicePacket i (some (.message message)) ∧
    s.networks[i]? = some record ∧
    config.findDeviceById record.network.name message.deviceId = some device ∧
    f ∈ s.filters ∧ f.connectionId = id ∧ passesFilter message record.network f = true ∧
    routedCommand message device f.isReply = .ok command

/-- The event is none of the client's own, and its id is not given out again. -/
def Foreign (s : State) (id : ℕ) : Event → Prop
  | .clientPacket i _ _ => i ≠ id
  | .clientRead i _ => i ≠ id
  | .clientWrite i _ => i ≠ id
  | .accept => (s.nextConnectionId + 1) % 2 ^ 32 ≠ id
  | _ => True

instance (s : State) (id : ℕ) : DecidablePred (s.Foreign id) := fun e => by
  cases e <;> unfold Foreign <;> infer_instance

/-! ### The loop over the filters -/

/-- One call of `route_to`, as it is seen at a connection. -/
theorem takes_routeTo {s s' : State} {message : Message} {device : Device} {id i : ℕ}
    {reply routed : Bool} {c : SocketConnection}
    (h : s.routeTo message device i reply = .ok (s', routed))
    (hc : s.connections.find id = some c) :
    ∃ ps c', s'.connections.find id = some c' ∧ Takes c ps c' ∧
      (∀ p ∈ ps, i = id ∧ ∃ command, routedCommand message device reply = .ok command ∧
        p = .serviceCommand command) ∧
      replies ps ≤ (if reply = true ∧ i = id ∧ routed = true then 1 else 0) := by
  unfold routeTo at h
  split at h
  -- there is no such connection
  · cases h
    exact ⟨[], c, hc, .nil c, by simp, Nat.zero_le _⟩
  · next c₀ hfind =>
    rcases bind_eq_ok_iff.mp h with ⟨command, hcommand, h⟩
    rcases bind_eq_ok_iff.mp h with ⟨sent, hsend, h⟩
    cases sent with
    -- its buffer is full
    | none =>
      cases h
      exact ⟨[], c, hc, .nil c, by simp, Nat.zero_le _⟩
    | some c' =>
      cases h
      -- the command goes to the one connection that has the filter
      by_cases hi : i = id
      · subst hi
        rw [hfind] at hc
        cases hc
        refine ⟨[.serviceCommand command], c', by simp, ?_, ?_, ?_⟩
        · exact .cons (catchRangeError_eq_some_iff.mp hsend) (.nil c')
        · simp [hcommand]
        · simp [replies_routedCommand hcommand]
      · exact ⟨[], c, by simp [Ne.symm hi, hc], .nil c, by simp, Nat.zero_le _⟩

/-- The reply filters of a client. -/
def replyCount (id : ℕ) (filters : List FilterRecord) : ℕ :=
  filters.countP fun f => f.isReply && decide (f.connectionId = id)

theorem replyCount_append (id : ℕ) (l l' : List FilterRecord) :
    replyCount id (l ++ l') = replyCount id l + replyCount id l' :=
  List.countP_append

theorem replyCount_cons (id : ℕ) (f : FilterRecord) (l : List FilterRecord) :
    replyCount id (f :: l)
      = replyCount id l + if f.isReply = true ∧ f.connectionId = id then 1 else 0 := by
  simp [replyCount, List.countP_cons]

/-- Filters that are removed are no longer counted. -/
theorem replyCount_filter_le (id : ℕ) (p : FilterRecord → Bool) (l : List FilterRecord) :
    replyCount id (l.filter p) ≤ replyCount id l :=
  List.Sublist.countP_le List.filter_sublist

/-- The command is sent for a filter among the given ones. -/
def SentFor (message : Message) (network : Network) (device : Device) (id : ℕ)
    (filters : List FilterRecord) (p : Packet) : Prop :=
  ∃ f ∈ filters, f.connectionId = id ∧ passesFilter message network f = true ∧
    ∃ command, routedCommand message device f.isReply = .ok command ∧ p = .serviceCommand command

/-- What one turn of the loop sends comes before what the others do. -/
theorem takes_turn {message : Message} {network : Network} {device : Device} {id : ℕ} {t : State}
    {c c₁ : SocketConnection} {ps : List Packet} {filters rest : List FilterRecord} {m n : ℕ}
    (htakes : Takes c ps c₁) (hdue : ∀ p ∈ ps, SentFor message network device id filters p)
    (hsub : rest ⊆ filters) (hn : replies ps + n ≤ m)
    (h : ∃ qs c', t.connections.find id = some c' ∧ Takes c₁ qs c' ∧
      (∀ p ∈ qs, SentFor message network device id rest p) ∧
      replies qs + replyCount id t.filters ≤ n) :
    ∃ qs c', t.connections.find id = some c' ∧ Takes c qs c' ∧
      (∀ p ∈ qs, SentFor message network device id filters p) ∧
      replies qs + replyCount id t.filters ≤ m := by
  rcases h with ⟨qs, c', hc', htakes', hqs, hcount⟩
  refine ⟨ps ++ qs, c', hc', htakes.append htakes', fun p hp => ?_, ?_⟩
  · rcases List.mem_append.mp hp with hp | hp
    · exact hdue p hp
    · rcases hqs p hp with ⟨g, hg, hdue⟩
      exact ⟨g, hsub hg, hdue⟩
  · rw [replies_append]
    omega

/-- **The loop sends to each connection what its filters ask for**, and takes a reply
filter out for every reply. -/
theorem takes_routeLoop {message : Message} {network : Network} {device : Device} {id : ℕ} :
    ∀ (fuel : ℕ) (s : State) (kept rest : List FilterRecord) (dead : OrderedMap ℕ Unit)
      {r : State × OrderedMap ℕ Unit} {c : SocketConnection},
      routeLoop message network device fuel s kept rest dead = .ok r →
      s.connections.find id = some c →
      ∃ ps c', r.1.connections.find id = some c' ∧ Takes c ps c' ∧
        (∀ p ∈ ps, SentFor message network device id rest p) ∧
        replies ps + replyCount id r.1.filters ≤ replyCount id (kept ++ rest) := by
  intro fuel s kept rest dead
  fun_induction routeLoop message network device fuel s kept rest dead with
  | case1 fuel s kept dead =>
    intro r c h hc
    cases h
    exact ⟨[], c, hc, .nil c, by simp, by simp⟩
  -- a loop that does not get to its end returns nothing
  | case2 => intro r c h; cases h
  | case3 fuel s kept f rest dead hpass ih =>
    intro r c h hc
    rcases ih h hc with ⟨ps, c', hc', htakes, hps, hcount⟩
    refine ⟨ps, c', hc', htakes, fun p hp => ?_, ?_⟩
    · rcases hps p hp with ⟨g, hg, hdue⟩
      exact ⟨g, List.mem_cons_of_mem f hg, hdue⟩
    · simpa using hcount
  | case4 fuel s kept f rest dead hpass ih1 ih2 ih3 =>
    intro r c h hc
    have hpass : passesFilter message network f = true := by simpa using hpass
    rcases bind_eq_ok_iff.mp h with ⟨⟨s', routed⟩, hroute, h⟩
    rcases takes_routeTo hroute hc with ⟨ps, c₁, hc₁, htakes, hps, hreplies⟩
    have hdue : ∀ p ∈ ps, SentFor message network device id (f :: rest) p :=
      fun p hp => ⟨f, List.mem_cons_self, (hps p hp).1, hpass, (hps p hp).2⟩
    -- the filter of this turn is counted if it is for a reply
    obtain ⟨n, hn⟩ : ∃ n, n = if f.isReply = true ∧ f.connectionId = id then 1 else 0 := ⟨_, rfl⟩
    have hall : replyCount id (kept ++ f :: rest)
        = replyCount id kept + (replyCount id rest + n) := by
      rw [replyCount_append, replyCount_cons, hn]
    dsimp only at h
    split at h
    · next hrouted =>
      apply takes_turn htakes hdue (List.Subset.refl _) _ (ih1 _ h hc₁)
      -- nothing was sent in this turn, and the filter is still counted
      have hnone : replies ps = 0 := by simpa [show routed = false by simpa using hrouted] using hreplies
      omega
    · next hrouted =>
      have hrouted : routed = true := by simpa using hrouted
      have hone : replies ps ≤ n := by simpa [hrouted, hn] using hreplies
      split at h
      · apply takes_turn htakes hdue (List.subset_cons_self f rest) _ (ih2 _ h hc₁)
        rw [replyCount_append]
        omega
      · next hkeep =>
        apply takes_turn htakes hdue (List.subset_cons_self f rest) _ (ih3 _ h hc₁)
        -- a filter that stays is not for a reply
        have hzero : n = 0 := by
          have hnot : f.isReply = false := by
            cases hreply : f.isReply
            · rfl
            · simp [hreply] at hkeep
          simp [hn, hnot]
        have hkept : replyCount id (kept ++ [f]) = replyCount id kept + n := by
          rw [replyCount_append, replyCount_cons, hn]
          simp [replyCount]
        rw [replyCount_append, hkept]
        omega

/-- No connection comes from the loop. -/
theorem find_eq_none_routeLoop {message : Message} {network : Network} {device : Device} {id : ℕ} :
    ∀ (fuel : ℕ) (s : State) (kept rest : List FilterRecord) (dead : OrderedMap ℕ Unit)
      {r : State × OrderedMap ℕ Unit},
      routeLoop message network device fuel s kept rest dead = .ok r →
      s.connections.find id = none → r.1.connections.find id = none := by
  intro fuel s kept rest dead
  fun_induction routeLoop message network device fuel s kept rest dead with
  | case1 =>
    intro r h hc
    cases h
    exact hc
  | case2 => intro r h; cases h
  | case3 fuel s kept f rest dead hpass ih => exact fun h hc => ih h hc
  | case4 fuel s kept f rest dead hpass ih1 ih2 ih3 =>
    intro r h hc
    rcases bind_eq_ok_iff.mp h with ⟨⟨s', routed⟩, hroute, h⟩
    -- `route_to` opens no connection
    have hnone : s'.connections.find id = none := by
      rcases exists_of_routeTo hroute with ⟨rfl, -⟩ | ⟨c, c', command, hfind, -, rfl, -⟩
      · exact hc
      · have hne : id ≠ f.connectionId := by
          rintro rfl
          rw [hc] at hfind
          cases hfind
        simp [hne, hc]
    dsimp only at h
    split at h
    · exact ih1 _ h hnone
    · split at h
      · exact ih2 _ h hnone
      · exact ih3 _ h hnone

/-- Closing connections drops one or leaves it alone. -/
theorem find_closeConnections {id : ℕ} : ∀ (dead : List (ℕ × Unit)) (s : State),
    (dead.foldl (fun s e => s.closeConnection e.1) s).connections.find id = none ∨
      (dead.foldl (fun s e => s.closeConnection e.1) s).connections.find id
        = s.connections.find id := by
  intro dead
  induction dead with
  -- no connection is closed any more
  | nil => exact fun s => .inr rfl
  | cons e dead ih =>
    intro s
    have hfind : (s.closeConnection e.1).connections.find id
        = if id = e.1 then none else s.connections.find id :=
      OrderedMap.find_erase s.connections e.1 id
    rw [List.foldl_cons]
    -- one closed later is as good as one closed now
    rcases ih (s.closeConnection e.1) with h | h
    · exact .inl h
    · rw [h, hfind]
      split
      · exact .inl rfl
      · exact .inr rfl

/-- Closing connections only removes filters, and leaves the queue alone. -/
theorem awaiting_closeConnections (id : ℕ) : ∀ (dead : List (ℕ × Unit)) (s : State),
    (dead.foldl (fun s e => s.closeConnection e.1) s).sendQueue = s.sendQueue ∧
      replyCount id (dead.foldl (fun s e => s.closeConnection e.1) s).filters
        ≤ replyCount id s.filters := by
  intro dead
  induction dead with
  | nil => exact fun s => ⟨rfl, le_rfl⟩
  | cons e dead ih =>
    intro s
    rcases ih (s.closeConnection e.1) with ⟨hqueue, hcount⟩
    exact ⟨hqueue, hcount.trans (replyCount_filter_le id _ s.filters)⟩

/-- The replies that a client may still get: its queries in the queue, and the filters
of those that have been handed over. -/
def awaiting (s : State) (id : ℕ) : ℕ :=
  replyCount id s.filters + s.sendQueue.countP fun r =>
    decide (r.type = .request) && decide (r.responseFilter.connectionId = id)

/-- Less is awaited when filters go and the queue stays. -/
theorem awaiting_le {s s' : State} {id : ℕ} (hqueue : s'.sendQueue = s.sendQueue)
    (hfilters : replyCount id s'.filters ≤ replyCount id s.filters) :
    s'.awaiting id ≤ s.awaiting id := by
  unfold awaiting
  rw [hqueue]
  omega

/-- The loop leaves the queue alone. -/
theorem sendQueue_routeLoop {message : Message} {network : Network} {device : Device} :
    ∀ (fuel : ℕ) (s : State) (kept rest : List FilterRecord) (dead : OrderedMap ℕ Unit)
      {r : State × OrderedMap ℕ Unit},
      routeLoop message network device fuel s kept rest dead = .ok r →
      r.1.sendQueue = s.sendQueue := by
  intro fuel s kept rest dead
  fun_induction routeLoop message network device fuel s kept rest dead with
  | case1 =>
    intro r h
    cases h
    rfl
  | case2 => intro r h; cases h
  | case3 fuel s kept f rest dead hpass ih => exact fun h => ih h
  | case4 fuel s kept f rest dead hpass ih1 ih2 ih3 =>
    intro r h
    rcases bind_eq_ok_iff.mp h with ⟨⟨s', routed⟩, hroute, h⟩
    -- commands for clients leave the queue of the router alone
    have hsame : s'.sendQueue = s.sendQueue := by
      rcases routeTo_cases hroute with ⟨connections, rfl, -⟩
      rfl
    dsimp only at h
    split at h
    · exact (ih1 _ h).trans hsame
    · split at h
      · exact (ih2 _ h).trans hsame
      · exact (ih3 _ h).trans hsame

/-- What becomes of a connection that is not its client's own doing: it takes what is
due, and as many replies less are awaited. -/
structure TakesDue (config : Config) (s s' : State) (e : Event) (id : ℕ) (c c' : SocketConnection)
    (ps : List Packet) : Prop where
  find : s'.connections.find id = some c'
  takes : Takes c ps c'
  due : ∀ p ∈ ps, ∃ command, s.Due config e id command ∧ p = .serviceCommand command
  awaiting : replies ps + s'.awaiting id ≤ s.awaiting id

/-- Nothing is sent. -/
theorem takesDue_nil {s s' : State} {e : Event} {id : ℕ} {c : SocketConnection}
    (hfind : s'.connections.find id = some c) (hawaiting : s'.awaiting id ≤ s.awaiting id) :
    TakesDue config s s' e id c c [] :=
  ⟨hfind, .nil c, by simp, by simpa using hawaiting⟩

/-- The loss of a network only removes filters. -/
theorem awaiting_disconnectNetwork {s s' : State} {i : ℕ} (h : s.disconnectNetwork i = .ok s')
    (id : ℕ) : s'.awaiting id ≤ s.awaiting id := by
  rcases disconnectNetwork_frame h with ⟨networks, connected, timeout, p, rfl⟩
  exact awaiting_le rfl (replyCount_filter_le id p s.filters)

/-- The clients of a device's message. -/
theorem takes_onDevicePacketReceived {s s' : State} {packet : Option Packet} {i id : ℕ}
    {c : SocketConnection} (h : s.onDevicePacketReceived config packet i = .ok s')
    (hc : s.connections.find id = some c) :
    s'.connections.find id = none ∨
      ∃ ps c', TakesDue config s s' (.devicePacket i packet) id c c' ps := by
  have hsame : ∃ ps c', TakesDue config s s (.devicePacket i packet) id c c' ps :=
    ⟨[], c, takesDue_nil hc le_rfl⟩
  unfold onDevicePacketReceived at h
  split at h
  · cases h
    exact .inr hsame
  · cases packet with
    -- a lost network takes filters away, and no connection
    | none =>
      refine .inr ⟨[], c, takesDue_nil ?_ (awaiting_disconnectNetwork h id)⟩
      rwa [connections_disconnectNetwork h]
    | some packet =>
      dsimp only at h
      unfold handleDevicePacket at h
      split at h
      · cases h
        exact .inr hsame
      · cases h
        exact .inr hsame
      · next message =>
        -- a message, from a network that is there and a device that is configured
        split at h
        · cases h
        · next record hrecord =>
          split at h
          · cases h
            exact .inr hsame
          · next device hdevice =>
            rcases bind_eq_ok_iff.mp h with ⟨⟨t, dead⟩, hloop, h⟩
            cases h
            rcases takes_routeLoop _ _ _ _ _ hloop hc with ⟨ps, c', hc', htakes, hps, hcount⟩
            rcases awaiting_closeConnections id dead.entries t with ⟨hqueue, hclosed⟩
            -- either this client is closed for its dead connection, or it has what the loop sent
            rcases find_closeConnections dead.entries t with hnone | hkeep
            · exact .inl hnone
            · refine .inr ⟨ps, c', hkeep.trans hc', htakes, fun p hp => ?_, ?_⟩
              · rcases hps p hp with ⟨f, hf, hid, hpass, command, hcommand, rfl⟩
                exact ⟨command, ⟨i, message, record, device, f, rfl, hrecord, hdevice, hf, hid, hpass,
                  hcommand⟩, rfl⟩
              · unfold awaiting
                rw [hqueue, sendQueue_routeLoop _ _ _ _ _ hloop]
                rw [List.nil_append] at hcount
                dsimp only at hcount hclosed
                omega

/-- No connection comes from a device's message. -/
theorem find_eq_none_onDevicePacketReceived {s s' : State} {packet : Option Packet} {i id : ℕ}
    (h : s.onDevicePacketReceived config packet i = .ok s') (hc : s.connections.find id = none) :
    s'.connections.find id = none := by
  unfold onDevicePacketReceived at h
  split at h
  · cases h
    exact hc
  · split at h
    · rwa [connections_disconnectNetwork h]
    · rcases exists_of_handleDevicePacket h with rfl | ⟨message, network, device, t, dead, hloop, rfl⟩
      · exact hc
      · have ht := find_eq_none_routeLoop _ _ _ _ _ hloop hc
        rcases find_closeConnections dead.entries t with hnone | hkeep
        · exact hnone
        · exact hkeep.trans ht

/-- A packet brings no connection back. -/
theorem find_eq_none_onConnectionPacketReceived {s s' : State} {packet : Option Packet} {id : ℕ}
    {unset : Bool} (h : s.onConnectionPacketReceived config packet id unset = .ok s')
    (hc : s.connections.find id = none) : s'.connections.find id = none := by
  unfold onConnectionPacketReceived at h
  rw [hc] at h
  split at h
  · cases h
    exact hc
  · split at h
    · cases h
    all_goals
      cases h
      exact hc

/-- **A packet of the client itself**: a command is answered once, or the client is
dropped; other packets do nothing. -/
theorem answer_of_onConnectionPacketReceived {s s' : State} {packet : Option Packet} {id : ℕ}
    {unset : Bool} {c : SocketConnection} (hstarted : s.started = true)
    (h : s.onConnectionPacketReceived config packet id unset = .ok s')
    (hc : s.connections.find id = some c) :
    (∃ p, packet = some p ∧ (∀ command, p ≠ .serviceCommand command) ∧
        s'.connections.find id = some c) ∨
      ∃ command, packet = some (.serviceCommand command) ∧
        (s'.connections.find id = none ∨ ∃ c' result, checkString command.action = true ∧
          c.send (.serviceCommand (replyCommand command.action result)) = .ok (.ok c') ∧
          s'.connections.find id = some c') := by
  unfold onConnectionPacketReceived at h
  rw [if_neg (by simp [hstarted])] at h
  split at h
  -- the null packet is dereferenced
  · cases h
  · next message =>
    cases h
    exact .inl ⟨.message message, rfl, by simp, hc⟩
  · next init =>
    cases h
    exact .inl ⟨.deviceInit init, rfl, by simp, hc⟩
  · next command =>
    rw [hc] at h
    rcases bind_eq_ok_iff.mp h with ⟨⟨t, result⟩, -, h⟩
    rcases bind_eq_ok_iff.mp h with ⟨reply, hreply, h⟩
    rcases bind_eq_ok_iff.mp h with ⟨sent, hsend, h⟩
    rcases of_commandReply hreply with ⟨hcheck, rfl⟩
    refine .inr ⟨command, rfl, ?_⟩
    cases sent with
    -- the buffer is full, and the client is closed
    | none =>
      cases h
      left
      show (t.connections.erase id).find id = none
      simp
    | some c' =>
      cases h
      right
      refine ⟨c', result, hcheck, catchRangeError_eq_some_iff.mp hsend, ?_⟩
      simp

/-! ### The events of the router -/

/-- The answer to another client leaves a connection alone. -/
theorem find_onConnectionPacketReceived {s s' : State} {packet : Option Packet} {id i : ℕ}
    {unset : Bool} (h : s.onConnectionPacketReceived config packet i unset = .ok s') (hi : i ≠ id) :
    s'.connections.find id = s.connections.find id := by
  unfold onConnectionPacketReceived at h
  split at h
  · cases h
    rfl
  · split at h
    · cases h
    · cases h
      rfl
    · cases h
      rfl
    · split at h
      · cases h
        rfl
      · next command connection hfind =>
        rcases bind_eq_ok_iff.mp h with ⟨⟨t, result⟩, hcommand, h⟩
        rcases bind_eq_ok_iff.mp h with ⟨reply, -, h⟩
        rcases bind_eq_ok_iff.mp h with ⟨sent, -, h⟩
        -- a command changes no connection but by its answer
        have hsame : t.connections = s.connections := connections_handleCommand hcommand
        cases sent with
        | none =>
          cases h
          show (t.connections.erase i).find id = _
          rw [OrderedMap.find_erase, if_neg (Ne.symm hi), hsame]
        | some connection =>
          cases h
          show (t.connections.insert i connection).find id = _
          rw [OrderedMap.find_insert, if_neg (Ne.symm hi), hsame]

/-- A socket of another client leaves a connection alone. -/
theorem find_onClientSocket {s s' : State} {id i : ℕ}
    {handler : SocketConnection → Except Fault SocketConnection}
    (h : s.onClientSocket i handler = .ok s') (hi : i ≠ id) :
    s'.connections.find id = s.connections.find id := by
  unfold onClientSocket at h
  split at h
  · cases h
    rfl
  · rcases bind_eq_ok_iff.mp h with ⟨c', -, h⟩
    cases h
    show (s.connections.insert i c').find id = _
    rw [OrderedMap.find_insert, if_neg (Ne.symm hi)]

theorem connections_onNetworkSocket {s s' : State} {i : ℕ}
    {handler : SocketConnection → Except Fault SocketConnection}
    (h : s.onNetworkSocket i handler = .ok s') : s'.connections = s.connections := by
  unfold onNetworkSocket at h
  split at h
  · cases h
    rfl
  · split at h
    · cases h
      rfl
    · rcases bind_eq_ok_iff.mp h with ⟨c', -, h⟩
      cases h
      rfl

/-- A handler of a socket has nothing to do with what is awaited. -/
theorem awaiting_onClientSocket {s s' : State} {i : ℕ}
    {handler : SocketConnection → Except Fault SocketConnection}
    (h : s.onClientSocket i handler = .ok s') (id : ℕ) : s'.awaiting id = s.awaiting id := by
  unfold onClientSocket at h
  split at h
  · cases h
    rfl
  · rcases bind_eq_ok_iff.mp h with ⟨c', -, h⟩
    cases h
    rfl

theorem awaiting_onNetworkSocket {s s' : State} {i : ℕ}
    {handler : SocketConnection → Except Fault SocketConnection}
    (h : s.onNetworkSocket i handler = .ok s') (id : ℕ) : s'.awaiting id = s.awaiting id := by
  unfold onNetworkSocket at h
  split at h
  · cases h
    rfl
  · split at h
    · cases h
      rfl
    · rcases bind_eq_ok_iff.mp h with ⟨c', -, h⟩
      cases h
      rfl

theorem connections_connectNetworks (s : State) (connects : ℕ → Bool) :
    (s.connectNetworks connects).connections = s.connections := by
  rcases connectNetworks_frame s connects with ⟨_, _, _, h⟩
  rw [h]

theorem connections_start {s : State} {listens connects : ℕ → Bool} {r : State × Option Exception}
    (h : s.start listens connects = .ok r) : r.1.connections = s.connections := by
  unfold start at h
  split at h
  · cases h
    rfl
  · rcases bind_eq_ok_iff.mp h with ⟨⟨bindings, done⟩, -, h⟩
    cases done with
    | false =>
      cases h
      rfl
    | true =>
      cases h
      exact connections_connectNetworks { s with bindings := bindings } connects

/-- A stop drops all connections, if it does anything. -/
theorem connections_stop {s s' : State} (h : s.stop = .ok s') :
    s'.connections = .empty ∨ s' = s := by
  by_cases hstarted : s.started = true
  · rcases stop_cases hstarted h with ⟨-, -, rfl⟩
    exact .inl rfl
  · unfold stop at h
    rw [if_pos (by simpa using hstarted)] at h
    cases h
    exact .inr rfl

theorem connections_onSendTimer {s s' : State} (h : s.onSendTimer = .ok s') :
    s'.connections = s.connections := by
  rcases onSendTimer_cases h with ⟨-, rfl⟩ | ⟨record, queue, t, sent, -, -, hsend, rfl⟩
  · rfl
  · show t.connections = s.connections
    rw [connections_sendQueued hsend]

/-- The events that have nothing to do with clients leave their connections alone, or
drop them all. -/
theorem connections_of_handle {s s' : State} {e : Event} (h : s.handle config e = .ok s')
    (he : ∀ i packet, e ≠ .devicePacket i packet) {id : ℕ} (hforeign : s.Foreign id e) :
    s'.connections.find id = none ∨ s'.connections.find id = s.connections.find id := by
  cases e with
  | start listens connects =>
    rcases start_of_handle h with ⟨r, hstart, rfl⟩
    exact .inr (by rw [connections_start hstart])
  | stop =>
    rcases connections_stop h with hempty | rfl
    · exact .inl (by rw [hempty]; rfl)
    · exact .inr rfl
  | accept =>
    have h : s.onAcceptedConnection = .ok s' := h
    unfold onAcceptedConnection at h
    right
    split at h
    · cases h
      rfl
    · dsimp only at h
      split at h
      · cases h
      · cases h
        have hne : id ≠ (s.nextConnectionId + 1) % 2 ^ 32 := Ne.symm hforeign
        dsimp only
        rw [OrderedMap.find_insert, if_neg hne]
  | clientPacket i packet unset => exact .inr (find_onConnectionPacketReceived h hforeign)
  | clientRead i outcome => exact .inr (find_onClientSocket h hforeign)
  | clientWrite i outcomes => exact .inr (find_onClientSocket h hforeign)
  | devicePacket i packet => exact absurd rfl (he i packet)
  | networkRead i outcome => exact .inr (by rw [connections_onNetworkSocket h])
  | networkWrite i outcomes => exact .inr (by rw [connections_onNetworkSocket h])
  | sendTick =>
    right
    rw [handle] at h
    split at h
    · rw [connections_onSendTimer h]
    · cases h
      rfl
  | reconnectTick connects =>
    right
    rw [handle] at h
    split at h
    · cases h
      rcases onReconnectTimeout_frame { s with reconnectTimeout := false } connects with ⟨_, _, _, h⟩
      rw [h]
    · cases h
      rfl

/-! ### What is awaited -/

/-- A query that is queued is one more reply to wait for. -/
theorem awaiting_enqueue (s : State) (record : SendRecord) (id : ℕ) :
    (s.enqueue record).awaiting id = s.awaiting id +
      if record.type = .request ∧ record.responseFilter.connectionId = id then 1 else 0 := by
  simp [awaiting, enqueue, List.countP_append, List.countP_cons, Nat.add_assoc]

/-- **Only a query of the client adds to what it waits for.** -/
theorem awaiting_handleCommand {s t : State} {command : ServiceCommand} {i : ℕ}
    {unset result : Bool} (h : s.handleCommand config command i unset = .ok (t, result))
    (id : ℕ) :
    t.awaiting id ≤ s.awaiting id +
      if i = id ∧ command.action = "query".toList then 1 else 0 := by
  rcases actions_of_handleCommand h with
    ⟨-, h⟩ | ⟨haction, h⟩ | ⟨haction, h⟩ | ⟨-, -, h⟩
  · -- a filter of a client is not for a reply
    unfold handleFilter at h
    split at h
    · cases h
      omega
    · next f hf =>
      cases h
      have hnot := isReply_filterRecord hf
      have : replyCount id (s.filters ++ [f]) = replyCount id s.filters := by
        rw [replyCount_append, replyCount_cons]
        simp [hnot, replyCount]
      have hle : awaiting { s with filters := s.filters ++ [f] } id ≤ s.awaiting id :=
        awaiting_le rfl this.le
      omega
  · rcases handleSend_cases h with h | ⟨device, network, message, -, -, -, -, -, h⟩
    · cases h
      omega
    · cases h
      rw [awaiting_enqueue]
      simp
  · rcases handleSend_cases h with h | ⟨device, network, message, -, -, -, -, -, h⟩
    · cases h
      omega
    · cases h
      rw [awaiting_enqueue]
      by_cases hi : i = id
      · simp [hi, haction, responseFilter, FilterRecord.create]
      · simp [hi, responseFilter, FilterRecord.create]
  · cases h
    omega

/-- A packet of a client. -/
theorem awaiting_onConnectionPacketReceived {s s' : State} {packet : Option Packet} {i : ℕ}
    {unset : Bool} (h : s.onConnectionPacketReceived config packet i unset = .ok s')
    (id : ℕ) :
    s'.awaiting id ≤ s.awaiting id +
      if i = id ∧ packet.any isQueryPacket = true then 1 else 0 := by
  unfold onConnectionPacketReceived at h
  split at h
  · cases h
    omega
  · split at h
    · cases h
    · cases h
      omega
    · cases h
      omega
    · next command =>
      split at h
      · cases h
        omega
      · rcases bind_eq_ok_iff.mp h with ⟨⟨t, result⟩, hcommand, h⟩
        rcases bind_eq_ok_iff.mp h with ⟨reply, -, h⟩
        rcases bind_eq_ok_iff.mp h with ⟨sent, -, h⟩
        -- the answer at most closes the client
        have ht : s'.awaiting id ≤ t.awaiting id := by
          cases sent with
          | none =>
            cases h
            exact awaiting_le rfl (replyCount_filter_le id _ t.filters)
          | some connection =>
            cases h
            exact awaiting_le rfl le_rfl
        have hcommand := awaiting_handleCommand hcommand id
        simpa [isQueryPacket] using ht.trans hcommand

/-- A message that has its turn: a query in the queue becomes a filter, or is lost. -/
theorem awaiting_onSendTimer {s s' : State} (h : s.onSendTimer = .ok s') (id : ℕ) :
    s'.awaiting id ≤ s.awaiting id := by
  rcases onSendTimer_cases h with ⟨-, rfl⟩ | ⟨record, queue, t, sent, -, hqueue, hsend, rfl⟩
  · exact le_rfl
  · rcases sendQueued_frame hsend with ⟨networks, connected, timeout, p, rfl, -⟩
    have hfilter := replyCount_filter_le id p s.filters
    -- the filter for the reply is the one that comes in
    have hone : ∀ l, replyCount id (l ++ [record.responseFilter]) ≤ replyCount id l +
        if record.responseFilter.connectionId = id then 1 else 0 := by
      intro l
      rw [replyCount_append, replyCount_cons]
      split <;> split <;> simp_all [replyCount]
    unfold awaiting finishSend
    rw [hqueue, List.countP_cons]
    dsimp only
    split
    · next hrequest =>
      have := hone (s.filters.filter p)
      simp only [hrequest.1, decide_true, Bool.true_and, decide_eq_true_eq]
      omega
    · omega

/-- **Nothing else adds to what a client waits for.** -/
theorem awaiting_of_handle {s s' : State} {e : Event} (h : s.handle config e = .ok s') {id : ℕ}
    (he : ∀ i packet, e ≠ .devicePacket i packet) (hforeign : s.Foreign id e) :
    s'.awaiting id ≤ s.awaiting id := by
  cases e with
  | start listens connects =>
    rcases start_of_handle h with ⟨r, hstart, rfl⟩
    unfold start at hstart
    split at hstart
    · cases hstart
      exact le_rfl
    -- a listen call fails, and nothing else has happened
    · rcases bind_eq_ok_iff.mp hstart with ⟨⟨bindings, done⟩, -, hstart⟩
      cases done with
      | false =>
        cases hstart
        exact le_rfl
      | true =>
        cases hstart
        rcases connectNetworks_frame { s with bindings := bindings } connects with ⟨_, _, _, h⟩
        rw [h]
        exact le_rfl
  | stop =>
    by_cases hstarted : s.started = true
    · rcases stop_cases hstarted h with ⟨-, -, rfl⟩
      -- no filter is left
      exact awaiting_le rfl (Nat.zero_le _)
    · have hstop : s.stop = .ok s' := h
      unfold stop at hstop
      rw [if_pos (by simpa using hstarted)] at hstop
      cases hstop
      exact le_rfl
  | accept =>
    have h : s.onAcceptedConnection = .ok s' := h
    unfold onAcceptedConnection at h
    split at h
    · cases h
      exact le_rfl
    · dsimp only at h
      split at h
      · cases h
      · cases h
        exact le_rfl
  | clientPacket i packet unset =>
    have hi : i ≠ id := hforeign
    simpa [hi] using awaiting_onConnectionPacketReceived h id
  | clientRead i outcome => exact (awaiting_onClientSocket h id).le
  | clientWrite i outcomes => exact (awaiting_onClientSocket h id).le
  | devicePacket i packet => exact absurd rfl (he i packet)
  | networkRead i outcome => exact (awaiting_onNetworkSocket h id).le
  | networkWrite i outcomes => exact (awaiting_onNetworkSocket h id).le
  | sendTick =>
    rw [handle] at h
    split at h
    · exact awaiting_onSendTimer h id
    · cases h
      exact le_rfl
  | reconnectTick connects =>
    rw [handle] at h
    split at h
    · cases h
      rcases onReconnectTimeout_frame { s with reconnectTimeout := false } connects with ⟨_, _, _, h⟩
      rw [h]
      exact le_rfl
    · cases h
      exact le_rfl

/-- **What becomes of a client's connection in an event that is not its own**: it is
dropped, or it takes what is due. -/
theorem takes_of_handle {s s' : State} {e : Event} (h : s.handle config e = .ok s') {id : ℕ}
    (hforeign : s.Foreign id e) {c : SocketConnection} (hc : s.connections.find id = some c) :
    s'.connections.find id = none ∨ ∃ ps c', TakesDue config s s' e id c c' ps := by
  by_cases he : ∃ i packet, e = .devicePacket i packet
  · rcases he with ⟨i, packet, rfl⟩
    exact takes_onDevicePacketReceived h hc
  · have he : ∀ i packet, e ≠ .devicePacket i packet := fun i packet h => he ⟨i, packet, h⟩
    rcases connections_of_handle h he hforeign with hnone | hkeep
    · exact .inl hnone
    · exact .inr ⟨[], c, takesDue_nil (hkeep.trans hc) (awaiting_of_handle h he hforeign)⟩

/-- A connection that is gone stays away. -/
theorem find_eq_none_of_handle {s s' : State} {e : Event} (h : s.handle config e = .ok s') {id : ℕ}
    (hforeign : s.Foreign id e) (hc : s.connections.find id = none) :
    s'.connections.find id = none := by
  by_cases he : ∃ i packet, e = .devicePacket i packet
  · rcases he with ⟨i, packet, rfl⟩
    exact find_eq_none_onDevicePacketReceived h hc
  · have he : ∀ i packet, e ≠ .devicePacket i packet := fun i packet h => he ⟨i, packet, h⟩
    rcases connections_of_handle h he hforeign with hnone | hkeep
    · exact hnone
    · exact hkeep.trans hc

end State
end Router
end HomeAutomation
