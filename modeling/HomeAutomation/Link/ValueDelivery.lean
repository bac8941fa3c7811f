import HomeAutomation.Link.ReplyPath

/-!
# The way of a device's value to all its clients

A value of a device goes to the connection of every filter that it passes.  The loop
over the filters moves on when the value was sent, and the connections that could not
take it are closed behind the loop; but the loop never gets past a filter whose
connection could not take the value.

A connection with several filters gets the value once for each of them, so its buffer
has to have room for all of these lines together.

## Main definitions

* `Delivers` — the handler returns, and has closed the connections that failed.
* `Served` — every filter that the value passes can be served.

## Main results

* `routeTo_eq_true_iff` — when `route_to` succeeds, and what it does then.
* `routeLoop_returns_iff` — the loop returns exactly when every filter can be served.
* `handleDevicePacket_delivers_iff` — and so does the handler.

## References

`router/Router.cpp`, `common/source/proto/SocketConnection.cpp`.
-/

namespace HomeAutomation
namespace ReplyLink

open ServiceCommand Router Router.State

/-! ### One connection -/

/-- The line that a client gets of a message. -/
def routedLine (m : Message) (d : Device) (reply : Bool) : Text :=
  (routed m d reply).line ++ "\r\n".toList

/-- A connection that has taken a line.  One that is in error takes it and drops it. -/
def taking (connection : SocketConnection) (line : Text) : SocketConnection :=
  if connection.gotError then connection
  else { connection with writeBuffer := connection.writeBuffer ++ line, writeListener := true }

/-- The connection can take so many characters. -/
def HasRoom (connection : SocketConnection) (n : ℕ) : Prop :=
  connection.gotError = true ∨ connection.writeBuffer.length + n ≤ writeBufferLimit

instance (connection : SocketConnection) (n : ℕ) : Decidable (HasRoom connection n) :=
  inferInstanceAs (Decidable (_ ∨ _))

/-- The names of the device can be written into a command. -/
def Nameable (d : Device) : Prop := checkString d.name = true ∧ checkString d.networkName = true

theorem hasRoom_taking {connection : SocketConnection} {line : Text} (n : ℕ) :
    HasRoom (taking connection line) n ↔ HasRoom connection (line.length + n) := by
  unfold HasRoom taking
  cases herror : connection.gotError with
  | true => simp [herror]
  | false => simp [Nat.add_assoc]

theorem HasRoom.mono {connection : SocketConnection} {k n : ℕ} (h : HasRoom connection n)
    (hle : k ≤ n) : HasRoom connection k :=
  h.imp_right fun hroom => le_trans (Nat.add_le_add_left hle _) hroom

theorem routedCommand_eq_ok {m : Message} {d : Device} {reply : Bool} {command : ServiceCommand}
    (h : routedCommand m d reply = .ok command) :
    Nameable d ∧ command = routed m d reply := by
  have hnames : Nameable d := by
    unfold routedCommand at h
    obtain ⟨c₁, -, h⟩ := bind_eq_ok_iff.mp h
    obtain ⟨c₂, hname, h⟩ := bind_eq_ok_iff.mp h
    obtain ⟨c₃, hnetwork, -⟩ := bind_eq_ok_iff.mp h
    constructor
    · by_contra hword
      rw [addArgument_eq_error (Bool.eq_false_iff.mpr hword)] at hname
      cases hname
    · by_contra hword
      rw [addArgument_eq_error (Bool.eq_false_iff.mpr hword)] at hnetwork
      cases hnetwork
  rw [routedCommand_eq hnames.1 hnames.2] at h
  exact ⟨hnames, (Except.ok.inj h).symm⟩

/-- What `send` does with the line of a message. -/
theorem catch_send_routed {d : Device} (hd : Nameable d) (m : Message) (reply : Bool)
    (connection : SocketConnection) :
    catchRangeError (connection.send (.serviceCommand (routed m d reply)))
      = .ok (if HasRoom connection (routedLine m d reply).length then
          some (taking connection (routedLine m d reply))
        else none) := by
  have hline : (Packet.serviceCommand (routed m d reply)).convertToString
      = .ok (routed m d reply).line :=
    serialize_eq_line (writable_routed hd.1 hd.2 m reply).action_ne
  -- an error seen before swallows the line, whatever its length
  cases herror : connection.gotError with
  | true =>
    have hroom : HasRoom connection (routedLine m d reply).length := Or.inl herror
    rw [if_pos hroom]
    unfold SocketConnection.send taking
    simp [herror, catchRangeError]
  | false =>
    rw [SocketConnection.send_eq herror hline]
    -- the limit is strict in the code
    change catchRangeError (if connection.writeBuffer.length + (routedLine m d reply).length
      > writeBufferLimit then _ else _) = _
    by_cases hfits : connection.writeBuffer.length + (routedLine m d reply).length
        ≤ writeBufferLimit
    · have hroom : HasRoom connection (routedLine m d reply).length := Or.inr hfits
      rw [if_neg (Nat.not_lt.mpr hfits), if_pos hroom]
      unfold taking
      rw [herror]
      rfl
    · have hfull : ¬ HasRoom connection (routedLine m d reply).length := by
        rintro (h | h)
        · exact absurd (herror.symm.trans h) Bool.noConfusion
        · exact hfits h
      rw [if_pos (Nat.not_le.mp hfits), if_neg hfull]
      rfl

/-- **When `route_to` succeeds, and what it does then.** -/
theorem routeTo_eq_true_iff {s s' : State} {m : Message} {d : Device} {id : ℕ} {reply : Bool} :
    s.routeTo m d id reply = .ok (s', true) ↔
      ∃ connection, s.connections.find id = some connection ∧ Nameable d ∧
        HasRoom connection (routedLine m d reply).length ∧
        s' = { s with connections :=
          s.connections.insert id (taking connection (routedLine m d reply)) } := by
  unfold routeTo
  cases s.connections.find id with
  | none => simp
  | some connection =>
    dsimp only
    constructor
    · intro h
      obtain ⟨command, hcommand, h⟩ := bind_eq_ok_iff.mp h
      obtain ⟨hnames, rfl⟩ := routedCommand_eq_ok hcommand
      rw [catch_send_routed hnames, ok_bind] at h
      -- the connection did not take the line, and `route_to` returns false
      split at h
      · next hsent =>
        split at hsent
        · cases hsent
        · cases h
      · next connection' hsent =>
        split at hsent
        · next hroom =>
          cases hsent
          cases h
          exact ⟨connection, rfl, hnames, hroom, rfl⟩
        · cases hsent
    · rintro ⟨_, ⟨⟩, hnames, hroom, rfl⟩
      rw [routedCommand_eq hnames.1 hnames.2, ok_bind, catch_send_routed hnames, if_pos hroom]
      rfl

/-! ### The loop over the filters -/

/-- The number of characters that a connection gets for a message. -/
def demand (m : Message) (network : Network) (d : Device) (filters : List FilterRecord) (id : ℕ) :
    ℕ :=
  ((filters.filter fun f => passesFilter m network f && f.connectionId == id).map
    fun f => (routedLine m d f.isReply).length).sum

/-- **Every filter that the message passes can be served**: its connection is there,
the names of the device can be written, and the connection has room for the lines of all
its filters. -/
def Served (m : Message) (network : Network) (d : Device) (s : State)
    (filters : List FilterRecord) : Prop :=
  ∀ f ∈ filters, passesFilter m network f = true →
    ∃ connection, s.connections.find f.connectionId = some connection ∧ Nameable d ∧
      HasRoom connection (demand m network d filters f.connectionId)

section Loop

variable {m : Message} {network : Network} {d : Device}

theorem demand_cons_of_not_pass {f : FilterRecord} (h : passesFilter m network f = false)
    (rest : List FilterRecord) (id : ℕ) :
    demand m network d (f :: rest) id = demand m network d rest id := by
  simp [demand, h]

theorem demand_cons_self {f : FilterRecord} (h : passesFilter m network f = true)
    (rest : List FilterRecord) :
    demand m network d (f :: rest) f.connectionId
      = (routedLine m d f.isReply).length + demand m network d rest f.connectionId := by
  simp [demand, h]

theorem demand_cons_other {f : FilterRecord} {id : ℕ} (h : f.connectionId ≠ id)
    (rest : List FilterRecord) :
    demand m network d (f :: rest) id = demand m network d rest id := by
  simp [demand, h]

/-- A connection that none of the filters is of gets nothing. -/
theorem demand_eq_zero {filters : List FilterRecord} {id : ℕ}
    (h : ∀ f ∈ filters, passesFilter m network f = true → f.connectionId ≠ id) :
    demand m network d filters id = 0 := by
  unfold demand
  rw [List.filter_eq_nil_iff.mpr, List.map_nil, List.sum_nil]
  intro f hf hmatch
  obtain ⟨hpass, hid⟩ := Bool.and_eq_true_iff.mp hmatch
  exact h f hf hpass (beq_iff_eq.mp hid)

/-- A filter that the message does not pass asks for nothing. -/
theorem served_cons_of_not_pass {f : FilterRecord} (h : passesFilter m network f = false)
    (s : State) (rest : List FilterRecord) :
    Served m network d s (f :: rest) ↔ Served m network d s rest := by
  unfold Served
  simp only [demand_cons_of_not_pass h, List.forall_mem_cons]
  exact and_iff_right fun hpass => absurd (h.symm.trans hpass) Bool.noConfusion

/-- **One turn**: all filters can be served exactly when the first one can, and the
others behind it. -/
theorem served_cons_of_pass {f : FilterRecord} (h : passesFilter m network f = true) (s : State)
    (rest : List FilterRecord) :
    Served m network d s (f :: rest) ↔
      ∃ s', s.routeTo m d f.connectionId f.isReply = .ok (s', true) ∧
        Served m network d s' rest := by
  constructor
  · intro hserved
    obtain ⟨connection, hfind, hnames, hroom⟩ := hserved f List.mem_cons_self h
    rw [demand_cons_self h] at hroom
    refine ⟨_, routeTo_eq_true_iff.mpr
      ⟨connection, hfind, hnames, hroom.mono (Nat.le_add_right _ _), rfl⟩, fun g hg hpass => ?_⟩
    obtain ⟨connection', hfind', -, hroom'⟩ := hserved g (List.mem_cons_of_mem f hg) hpass
    dsimp only
    rw [OrderedMap.find_insert]
    -- another filter of the same connection takes what is left of its room
    by_cases hid : g.connectionId = f.connectionId
    · rw [if_pos hid, hid]
      exact ⟨_, rfl, hnames, (hasRoom_taking _).mpr hroom⟩
    · rw [if_neg hid]
      rw [demand_cons_other (Ne.symm hid)] at hroom'
      exact ⟨connection', hfind', hnames, hroom'⟩
  · rintro ⟨s', hroute, hserved⟩ g hg hpass
    obtain ⟨connection, hfind, hnames, hroom, rfl⟩ := routeTo_eq_true_iff.mp hroute
    by_cases hid : g.connectionId = f.connectionId
    · rw [hid, demand_cons_self h]
      refine ⟨connection, hfind, hnames, ?_⟩
      -- either the rest asks for more on this connection, or the first line is all
      by_cases hmore : ∃ g ∈ rest, passesFilter m network g = true ∧
          g.connectionId = f.connectionId
      · obtain ⟨g', hg', hpass', hid'⟩ := hmore
        obtain ⟨connection', hfind', -, hroom'⟩ := hserved g' hg' hpass'
        rw [hid', OrderedMap.find_insert, if_pos rfl] at hfind'
        cases hfind'
        rw [hid'] at hroom'
        exact (hasRoom_taking _).mp hroom'
      · rw [demand_eq_zero fun g' hg' hpass' hid' => hmore ⟨g', hg', hpass', hid'⟩]
        exact hroom
    · obtain rfl | hg := List.mem_cons.mp hg
      · exact absurd rfl hid
      · obtain ⟨connection', hfind', -, hroom'⟩ := hserved g hg hpass
        rw [OrderedMap.find_insert, if_neg hid] at hfind'
        rw [demand_cons_other (Ne.symm hid)]
        exact ⟨connection', hfind', hnames, hroom'⟩

/-- **The loop returns exactly when every filter can be served**, and then it has found
no dead connection. -/
theorem routeLoop_returns_iff : ∀ (rest : List FilterRecord) (s : State)
    (kept : List FilterRecord) (dead : OrderedMap ℕ Unit),
    (∃ t, routeLoop m network d rest.length s kept rest dead = .ok (t, dead)) ↔
      Served m network d s rest := by
  intro rest
  induction rest with
  | nil => exact fun s kept dead => iff_of_true ⟨_, rfl⟩ fun f hf => absurd hf List.not_mem_nil
  | cons f rest ih =>
    intro s kept dead
    rw [List.length_cons]
    cases hpass : passesFilter m network f with
    | false =>
      rw [served_cons_of_not_pass hpass, ← ih s (kept ++ [f]) dead, routeLoop, hpass]
      rfl
    -- a filter that passes is served now, and the rest behind it
    | true =>
      rw [served_cons_of_pass hpass]
      cases hroute : s.routeTo m d f.connectionId f.isReply with
      | error fault =>
        rw [routeLoop, hpass, hroute]
        simp
      | ok r =>
        obtain ⟨s', routed⟩ := r
        cases routed with
        | false =>
          -- the next turn meets the same filter in the same state
          have hstate := routeTo_eq_false hroute
          subst hstate
          rw [routeLoop_stuck hpass hroute]
          simp
        | true =>
          have hturn : routeLoop m network d (rest.length + 1) s kept (f :: rest) dead
              = routeLoop m network d rest.length s'
                (if f.isReply || f.isOneTime then kept else kept ++ [f]) rest dead := by
            rw [routeLoop, hpass, hroute]
            cases f.isReply || f.isOneTime with
            | true => rfl
            | false => rfl
          rw [hturn, ih]
          constructor
          · exact fun hserved => ⟨s', rfl, hserved⟩
          · rintro ⟨_, ⟨⟩, hserved⟩
            exact hserved

/-- A loop that returns has found no dead connection. -/
theorem dead_of_routeLoop : ∀ (fuel : ℕ) (s : State) (kept rest : List FilterRecord)
    (dead : OrderedMap ℕ Unit) {r : State × OrderedMap ℕ Unit},
    routeLoop m network d fuel s kept rest dead = .ok r → r.2 = dead := by
  intro fuel s kept rest dead
  fun_induction routeLoop m network d fuel s kept rest dead with
  | case1 fuel s kept dead =>
    intro r h
    cases h
    rfl
  | case2 => intro r h; cases h
  | case3 fuel s kept f rest dead hpass ih => exact fun h => ih h
  | case4 fuel s kept f rest dead hpass ih₁ ih₂ ih₃ =>
    intro r h
    -- a connection is put into the list only where the filter is met again and again
    obtain ⟨⟨s', routed⟩, hroute, hloop⟩ := bind_eq_ok_iff.mp h
    cases routed with
    | false =>
      obtain rfl := routeTo_eq_false hroute
      have hstuck := routeLoop_stuck (by simpa using hpass) hroute kept rest fuel
        (dead.insert f.connectionId ())
      cases hstuck.symm.trans hloop
    | true =>
      dsimp only at hloop
      rw [if_neg (by decide)] at hloop
      split at hloop
      · exact ih₂ s' hloop
      · exact ih₃ s' hloop

end Loop

/-! ### The handler -/

/-- **The handler returns, and has closed the connections that failed**, each of them
with all its filters. -/
def Delivers (config : Config) (s : State) (m : Message) (networkIndex : ℕ) : Prop :=
  ∃ s', s.handleDevicePacket config (.message m) networkIndex = .ok s' ∧
    ∀ record device t dead id, s.networks[networkIndex]? = some record →
      config.findDeviceById record.network.name m.deviceId = some device →
      routeLoop m record.network device s.filters.length s [] s.filters .empty = .ok (t, dead) →
      (dead.find id).isSome = true →
      s'.connections.find id = none ∧ ∀ f ∈ s'.filters, f.connectionId ≠ id

/-- **The handler does its work exactly when every filter that the message passes can be
served**: otherwise it never returns. -/
theorem handleDevicePacket_delivers_iff {config : Config} {s : State} {m : Message}
    {networkIndex : ℕ} {record : NetworkRecord} {device : Device}
    (hrecord : s.networks[networkIndex]? = some record)
    (hdevice : config.findDeviceById record.network.name m.deviceId = some device) :
    Delivers config s m networkIndex ↔ Served m record.network device s s.filters := by
  have hhandler : s.handleDevicePacket config (.message m) networkIndex
      = (routeLoop m record.network device s.filters.length s [] s.filters .empty >>= fun r =>
        .ok (r.2.entries.foldl (fun s e => s.closeConnection e.1) r.1)) := by
    unfold handleDevicePacket
    simp only [hrecord, hdevice]
    rfl
  -- the handler closes no connection when the loop returns, so the loop decides
  rw [← routeLoop_returns_iff s.filters s [] .empty]
  constructor
  · rintro ⟨s', h, -⟩
    rw [hhandler] at h
    obtain ⟨⟨t, dead⟩, hloop, -⟩ := bind_eq_ok_iff.mp h
    obtain rfl : dead = .empty := dead_of_routeLoop _ _ _ _ _ hloop
    exact ⟨t, hloop⟩
  · rintro ⟨t, hloop⟩
    refine ⟨t, by rw [hhandler, hloop]; rfl, ?_⟩
    intro record' device' t' dead id hrecord' hdevice' hloop' hdead
    -- a loop that returns leaves no connection to be closed
    cases hrecord.symm.trans hrecord'
    cases hdevice.symm.trans hdevice'
    cases hloop.symm.trans hloop'
    cases hdead

/-- A value of the sample device. -/
def sampleReply : Message := ⟨.data, 5, 0x0102, Body.nil⟩

/-- A client with two filters gets the value twice, and the handler returns. -/
theorem handleDevicePacket_delivers_sample :
    Delivers sampleConfig { sampleState SocketConnection.fresh.subscribe with
      filters := [FilterRecord.create 1, FilterRecord.create 1] } sampleReply 0 := by
  have hdevice : sampleConfig.findDeviceById sampleNetwork.name sampleReply.deviceId
      = some sampleDevice := rfl
  refine (handleDevicePacket_delivers_iff rfl hdevice).mpr fun f hf _ => ?_
  obtain rfl : f = FilterRecord.create 1 := by simpa using hf
  exact ⟨SocketConnection.fresh.subscribe, rfl, ⟨by decide, by decide⟩, by decide⟩

/-- A query whose client is gone: the filter for its reply belongs to no connection, and
the handler of the reply never returns, however many turns its loop is given. -/
theorem handleDevicePacket_counterexample :
    sampleConfig.findDeviceById sampleNetwork.name sampleReply.deviceId = some sampleDevice ∧
      ¬ Delivers sampleConfig { sampleState SocketConnection.fresh with
        connections := .empty, filters := [responseFilter 1 sampleDevice 0x0102] } sampleReply 0 ∧
      ∀ fuel, routeLoop sampleReply sampleNetwork sampleDevice fuel
        { sampleState SocketConnection.fresh with
          connections := .empty, filters := [responseFilter 1 sampleDevice 0x0102] } []
        [responseFilter 1 sampleDevice 0x0102] .empty = .error .divergence := by
  refine ⟨rfl, ?_, fun fuel => routeLoop_stuck (by decide) rfl [] [] fuel .empty⟩
  rintro ⟨s', h, -⟩
  cases h

end ReplyLink
end HomeAutomation
