import Mathlib.Data.List.Count
import HomeAutomation.Router.Queue

/-!
# The networks of the router

A network is connected by `connect_networks`, and lost in two places: when its
connection reports its end, and when the connection has no room for a message.  The
router counts the connected networks, arms a timer while some are down, and drops
the filters for replies that will not come.

## Main definitions

* `Bookkept` — the counter is right, and the timer runs while a network is down.
* `Loses` — a step in which a connected network is lost.

## Main results

* `bookkept_of_change` — every step keeps the books.
* `no_replies_of_loses` — no reply filter of a network survives its loss.
* `network_bookkeeping` — the books along every run.

## References

`router/Router.cpp`.
-/

namespace HomeAutomation
namespace Router
namespace State

variable {config : Config}

/-! ### The counter and the timer -/

/-- The number of networks that are connected. -/
def connectedCount (s : State) : ℕ := s.networks.countP fun r => r.connection.isSome

/-- **The books of a router**: the counter is right, and the reconnect timer of a
started router runs while a network is down. -/
structure Bookkept (s : State) : Prop where
  count : s.connectedNetworks = s.connectedCount
  armed : s.started = true → s.connectedNetworks < s.networks.length → s.reconnectTimeout = true

/-- The links tell how many networks there are and how many are connected. -/
theorem count_of_links {l l' : List NetworkRecord}
    (h : l'.map NetworkRecord.link = l.map NetworkRecord.link) :
    (l'.countP fun r => r.connection.isSome) = (l.countP fun r => r.connection.isSome) ∧
      l'.length = l.length := by
  have hcount : ∀ l : List NetworkRecord, (l.countP fun r => r.connection.isSome)
      = (l.map NetworkRecord.link).countP fun k => k.2 := by
    intro l
    rw [List.countP_map]
    rfl
  refine ⟨by rw [hcount, h, ← hcount], ?_⟩
  simpa using congrArg List.length h

theorem Bookkept.quiet {s s' : State} (hs : s.Bookkept) (h : Quiet s s') : s'.Bookkept := by
  obtain ⟨hcount, hlength⟩ := count_of_links h.links
  refine ⟨?_, ?_⟩
  · rw [h.connectedNetworks, hs.count]
    exact hcount.symm
  · rw [h.started, h.connectedNetworks, hlength, h.reconnectTimeout]
    exact hs.armed

/-- The loop of `connect_networks` counts what it connects. -/
theorem countP_connectNetwork (connects : ℕ → Bool) : ∀ (networks : List NetworkRecord) (k : ℕ),
    ((networks.zipIdx k).map fun r => connectNetwork (connects r.2) r.1).countP
        (fun r => r.connection.isSome)
      = (networks.countP fun r => r.connection.isSome)
        + ((networks.zipIdx k).filter fun r => r.1.connection.isNone && connects r.2).length := by
  intro networks
  induction networks with
  | nil => intro k; rfl
  | cons r networks ih =>
    intro k
    simp only [List.zipIdx_cons, List.map_cons, List.countP_cons, ih, List.filter_cons]
    cases hc : r.connection with
    | some c =>
      simp [connectNetwork, hc]
      omega
    | none =>
      cases connects k with
      | true =>
        simp [connectNetwork, hc]
        omega
      | false => simp [connectNetwork, hc]

/-- **`connect_networks` keeps the books**, whatever the timer was. -/
theorem connectNetworks_bookkept {s : State} (hs : s.connectedNetworks = s.connectedCount)
    (connects : ℕ → Bool) :
    (s.connectNetworks connects).connectedNetworks = (s.connectNetworks connects).connectedCount ∧
      ((s.connectNetworks connects).connectedNetworks < (s.connectNetworks connects).networks.length
        → (s.connectNetworks connects).reconnectTimeout = true) := by
  unfold connectNetworks
  split
  · next hall => exact ⟨hs, fun hlt => absurd hall (Nat.not_le.mpr hlt)⟩
  · rw [updateReconnectTimer_eq]
    refine ⟨?_, fun hlt => ?_⟩
    · have hcount := countP_connectNetwork connects s.networks 0
      show s.connectedNetworks + newConnections connects s.networks = _
      rw [hs]
      exact hcount.symm
    · dsimp only at hlt ⊢
      rw [decide_eq_true hlt, Bool.or_true]

/-- Losing a connected network lowers the count by one. -/
theorem count_set_none {networks : List NetworkRecord} {i : ℕ} {r : NetworkRecord}
    {c : SocketConnection} (hr : networks[i]? = some r) (hc : r.connection = some c) :
    (networks.set i { r with connection := none }).countP (fun r => r.connection.isSome) + 1
      = networks.countP fun r => r.connection.isSome := by
  obtain ⟨hi, hget⟩ := List.getElem?_eq_some_iff.mp hr
  have hpos : 0 < networks.countP fun r => r.connection.isSome :=
    List.countP_pos_iff.mpr ⟨r, List.mem_of_getElem? hr, by simp [hc]⟩
  rw [List.countP_set hi, hget]
  simp only [hc, Option.isSome_some, Option.isSome_none, if_true]
  simp
  omega

theorem Bookkept.disconnectNetwork {s s' : State} (hs : s.Bookkept) {i : ℕ}
    (h : s.disconnectNetwork i = .ok s') : s'.Bookkept := by
  obtain ⟨r, c, hr, hc, rfl⟩ := disconnectNetwork_cases h
  have hlower := count_set_none hr hc
  have hcount : s.connectedNetworks = s.networks.countP fun r => r.connection.isSome := hs.count
  have hpred : pred64 s.connectedNetworks
      = (s.networks.set i { r with connection := none }).countP fun r => r.connection.isSome := by
    rw [pred64, if_neg (by omega)]
    omega
  rw [updateReconnectTimer_eq]
  refine ⟨hpred, fun _ hlt => ?_⟩
  dsimp only at hlt ⊢
  rw [decide_eq_true hlt, Bool.or_true]

/-- **One step**: every event keeps the books. -/
theorem bookkept_of_change {s s' : State} {e : Event} (hs : s.Bookkept)
    (h : Change config s e s') : s'.Bookkept := by
  cases h with
  | quiet _ _ h => exact hs.quiet h
  | queued record _ _ _ _ h => exact Bookkept.quiet (s := s.enqueue record) ⟨hs.count, hs.armed⟩ h
  | idle => exact ⟨hs.count, hs.armed⟩
  | turned record queue t sent _ _ _ hsend =>
    -- the turn leaves the networks as they are, loses one, or gives one the message
    have ht : t.Bookkept := by
      have hbefore : Bookkept { s with sendTimer := false, sendQueue := queue } :=
        ⟨hs.count, hs.armed⟩
      rcases sendQueued_cases hsend with ⟨-, rfl, -⟩ | ⟨-, hlost, -⟩ | ⟨n, c', hn, hc, rfl, -⟩
      · exact hbefore
      · exact hbefore.disconnectNetwork hlost
      · obtain ⟨hcount, hlength⟩ :=
          count_of_links (links_set hn (NetworkRecord.link_connected hc c'))
        refine ⟨hs.count.trans hcount.symm, ?_⟩
        dsimp only
        rw [hlength]
        exact hs.armed
    exact ⟨ht.count, ht.armed⟩
  | lost i _ h => exact hs.disconnectNetwork h
  | reconnected connects =>
    unfold onReconnectTimeout
    split
    -- the router is stopped, and no timer has to be armed
    · next hnot =>
      refine ⟨hs.count, fun hstarted => ?_⟩
      rw [show s.started = true from hstarted] at hnot
      cases hnot
    · obtain ⟨hcount, harmed⟩ :=
        connectNetworks_bookkept (s := { s with reconnectTimeout := false }) hs.count connects
      exact ⟨hcount, fun _ => harmed⟩
  | startFailed listens connects bindings => exact ⟨hs.count, hs.armed⟩
  | started listens connects bindings =>
    obtain ⟨hcount, harmed⟩ :=
      connectNetworks_bookkept (s := { s with bindings := bindings }) hs.count connects
    exact ⟨hcount, fun _ => harmed⟩
  | stopped hstarted h =>
    obtain ⟨-, -, rfl⟩ := stop_cases hstarted h
    -- no network is connected any more, and none was counted
    refine ⟨?_, fun h => Bool.noConfusion h⟩
    show 0 = (s.networks.map _).countP _
    rw [List.countP_map]
    exact (List.countP_eq_zero.mpr fun r _ => Bool.false_ne_true).symm

/-! ### Reply filters of a network that is lost -/

/-- The network at index `i` is connected. -/
def IsConnected (s : State) (i : ℕ) (network : Network) : Prop :=
  (s.networks.map NetworkRecord.link)[i]? = some (network, true)

/-- **A connected network is lost** between the two states. -/
def Loses (s s' : State) (name : Text) : Prop :=
  ∃ i network, network.name = name ∧ s.IsConnected i network ∧ ¬ s'.IsConnected i network

theorem Loses.links {s s' t t' : State} {name : Text} (h : Loses s s' name)
    (hs : t.networks.map NetworkRecord.link = s.networks.map NetworkRecord.link)
    (hs' : t'.networks.map NetworkRecord.link = s'.networks.map NetworkRecord.link) :
    Loses t t' name := by
  unfold Loses IsConnected at h ⊢
  rwa [hs, hs']

theorem not_loses_of_links {s s' : State} {name : Text}
    (h : s'.networks.map NetworkRecord.link = s.networks.map NetworkRecord.link) :
    ¬ Loses s s' name := by
  rintro ⟨i, network, -, hconnected, hnot⟩
  unfold IsConnected at hconnected hnot
  rw [h] at hnot
  exact hnot hconnected

/-- `connect_networks` loses none. -/
theorem not_loses_connectNetworks {s : State} {connects : ℕ → Bool} {name : Text} :
    ¬ Loses s (s.connectNetworks connects) name := by
  rintro ⟨i, network, -, hconnected, hnot⟩
  refine hnot ?_
  unfold connectNetworks
  split
  · exact hconnected
  · rw [updateReconnectTimer_eq]
    unfold IsConnected at hconnected ⊢
    dsimp only
    rw [List.getElem?_map, Option.map_eq_some_iff] at hconnected
    obtain ⟨r, hr, hlink⟩ := hconnected
    have hsome : r.connection.isSome = true := congrArg Prod.snd hlink
    obtain ⟨c, hc⟩ := Option.isSome_iff_exists.mp hsome
    have hkeep : connectNetwork (connects i) r = r := by
      unfold connectNetwork
      rw [hc]
    rw [List.getElem?_map, List.getElem?_map, List.getElem?_zipIdx, hr]
    simp only [Option.map_some, Nat.zero_add]
    rw [hkeep, hlink]

/-- **`disconnect_network` takes the reply filters of its network along.** -/
theorem no_replies_disconnectNetwork {s s' : State} {i : ℕ} {name : Text}
    (h : s.disconnectNetwork i = .ok s') (hloses : Loses s s' name) :
    ∀ f ∈ s'.filters, isReplyFilterOf name f = false := by
  obtain ⟨r, c, hr, hc, rfl⟩ := disconnectNetwork_cases h
  obtain ⟨j, network, rfl, hconnected, hnot⟩ := hloses
  rw [updateReconnectTimer_eq] at hnot ⊢
  unfold IsConnected at hconnected hnot
  dsimp only at hnot
  -- the network that is lost is the one that is disconnected
  have hij : i = j := by
    by_contra hne
    refine hnot ?_
    rw [List.map_set, List.getElem?_set_ne hne]
    exact hconnected
  subst hij
  rw [List.getElem?_map, hr, Option.map_some, Option.some.injEq] at hconnected
  have hnetwork : r.network = network := congrArg Prod.fst hconnected
  intro f hf
  have := (List.mem_filter.mp hf).2
  rw [hnetwork] at this
  simpa using this

/-- **One step**: no reply filter of a network survives its loss. -/
theorem no_replies_of_loses {s s' : State} {e : Event} {name : Text}
    (h : Change config s e s') (hloses : Loses s s' name) :
    ∀ f ∈ s'.filters, isReplyFilterOf name f = false := by
  cases h with
  | quiet _ _ h => exact absurd hloses (not_loses_of_links h.links)
  | queued record _ _ _ _ h => exact absurd hloses (not_loses_of_links h.links)
  | idle => exact absurd hloses (not_loses_of_links rfl)
  | turned record queue t sent _ _ _ hsend =>
    rcases sendQueued_cases hsend with ⟨-, rfl, -⟩ | ⟨-, hlost, rfl⟩ | ⟨n, c', hn, hc, rfl, -⟩
    · exact absurd hloses (not_loses_of_links rfl)
    · have hfilters : (finishSend record t false).filters = t.filters := by
        unfold finishSend
        dsimp only
        rw [if_neg (by simp)]
      rw [hfilters]
      exact no_replies_disconnectNetwork hlost (hloses.links rfl rfl)
    · exact absurd hloses (not_loses_of_links (links_set hn (NetworkRecord.link_connected hc c')))
  | lost i _ h => exact no_replies_disconnectNetwork h hloses
  | reconnected connects =>
    unfold onReconnectTimeout at hloses
    split at hloses
    · exact absurd hloses (not_loses_of_links rfl)
    · exact absurd (hloses.links (t := { s with reconnectTimeout := false }) rfl rfl)
        not_loses_connectNetworks
  | startFailed => exact absurd hloses (not_loses_of_links rfl)
  | started listens connects bindings =>
    have hconnect : Loses { s with bindings := bindings }
        (connectNetworks { s with bindings := bindings } connects) name := hloses.links rfl rfl
    exact absurd hconnect not_loses_connectNetworks
  | stopped hstarted h =>
    obtain ⟨-, -, rfl⟩ := stop_cases hstarted h
    intro f hf
    cases hf

/-! ### The networks are those of the configuration -/

theorem networks_connectNetworks (s : State) (connects : ℕ → Bool) :
    (s.connectNetworks connects).networks.map NetworkRecord.network
      = s.networks.map NetworkRecord.network := by
  -- a connection attempt does not change the network itself
  have hone : ∀ (succeeds : Bool) (r : NetworkRecord),
      (connectNetwork succeeds r).network = r.network := by
    intro succeeds r
    unfold connectNetwork
    cases r.connection with
    | some c => rfl
    | none => cases succeeds <;> rfl
  unfold connectNetworks
  split
  · rfl
  · rw [updateReconnectTimer_eq]
    have hzip : s.networks.zipIdx.map (fun r => r.1.network)
        = (s.networks.zipIdx.map Prod.fst).map NetworkRecord.network := by
      rw [List.map_map]
      rfl
    simp only [List.map_map, Function.comp_def, hone]
    rw [hzip, List.zipIdx_map_fst]

theorem networks_set {networks : List NetworkRecord} {i : ℕ} {r : NetworkRecord}
    (hr : networks[i]? = some r) (connection : Option SocketConnection) :
    (networks.set i { r with connection := connection }).map NetworkRecord.network
      = networks.map NetworkRecord.network := by
  obtain ⟨hi, -⟩ := List.getElem?_eq_some_iff.mp hr
  refine List.ext_getElem? fun j => ?_
  rw [List.getElem?_map, List.getElem?_map]
  by_cases hij : i = j
  · rw [← hij, List.getElem?_set_self hi, hr]
    rfl
  · rw [List.getElem?_set_ne hij]

/-- No event changes which networks there are. -/
theorem networks_of_change {s s' : State} {e : Event} (h : Change config s e s') :
    s'.networks.map NetworkRecord.network = s.networks.map NetworkRecord.network := by
  -- events that keep the links keep the networks
  have hlinks : ∀ {t t' : State}, t'.networks.map NetworkRecord.link
      = t.networks.map NetworkRecord.link →
      t'.networks.map NetworkRecord.network = t.networks.map NetworkRecord.network := by
    intro t t' h
    simpa [NetworkRecord.link, Function.comp_def] using congrArg (List.map Prod.fst) h
  -- a loss takes the connection of a network only
  have hlost : ∀ {t t' : State} {i : ℕ}, t.disconnectNetwork i = .ok t' →
      t'.networks.map NetworkRecord.network = t.networks.map NetworkRecord.network := by
    intro t t' i h
    obtain ⟨r, c, hr, -, rfl⟩ := disconnectNetwork_cases h
    rw [updateReconnectTimer_eq]
    exact networks_set hr none
  cases h with
  | quiet _ _ h => exact hlinks h.links
  | queued record _ _ _ _ h => exact hlinks h.links
  | idle => rfl
  | turned record queue t sent _ _ _ hsend =>
    rcases sendQueued_cases hsend with ⟨-, rfl, -⟩ | ⟨-, h, -⟩ | ⟨n, c', hn, -, rfl, -⟩
    · rfl
    · have ht := hlost h
      exact ht
    · exact networks_set hn (some c')
  | lost i _ h => exact hlost h
  | reconnected connects =>
    unfold onReconnectTimeout
    split
    · rfl
    · exact networks_connectNetworks _ connects
  | startFailed => rfl
  | started listens connects bindings => exact networks_connectNetworks _ connects
  | stopped hstarted h =>
    obtain ⟨-, -, rfl⟩ := stop_cases hstarted h
    simp [Function.comp_def]

/-! ### Along a run -/

/-- A reply filter is there because it was there or has been installed. -/
theorem count_replyFilters (config : Config) (f : FilterRecord) : ∀ (es : List Event) (s : State),
    (Run.last (step config) s es).replyFilters.count f ≤
      s.replyFilters.count f
        + ((steps config s es).flatMap fun t => installed t.1 t.2.2).count f := by
  intro es
  induction es with
  | nil => intro s; simp [Run.last, steps, Run.trace]
  | cons e es ih =>
    intro s
    unfold steps Run.last Run.trace
    split
    · simp
    · next s' hs' =>
      -- what is installed in this step, and what was there
      have hone : s'.replyFilters.count f
          ≤ s.replyFilters.count f + (installed s s').count f := by
        rw [installed, List.count_diff]
        omega
      have hrest := ih s'
      rw [steps] at hrest
      rw [List.flatMap_cons, List.count_append]
      dsimp only
      omega

theorem bookkept_create {s : State} (h : create config = .ok s) : s.Bookkept := by
  rw [eq_of_create h]
  refine ⟨?_, fun h => Bool.noConfusion h⟩
  show 0 = (config.getNetworks.map _).countP _
  rw [List.countP_map]
  exact (List.countP_eq_zero.mpr fun r _ => Bool.false_ne_true).symm

/-- **The books along every run**: in every state the counter is right and the timer
runs while a network is down; and of the reply filters of a network that has been
lost, only those are there that were installed since. -/
theorem network_bookkeeping {s : State} (h : create config = .ok s) (es : List Event) :
    Run.Always (step config) Bookkept s es ∧
    ∀ before t after name, steps config s es = before ++ t :: after → Loses t.1 t.2.2 name →
      ∀ f, isReplyFilterOf name f = true →
        (Run.last (step config) s es).replyFilters.count f
          ≤ (after.flatMap fun t => installed t.1 t.2.2).count f := by
  constructor
  · refine Run.always_of_step (fun s e s' hs hstep => ?_) es s (bookkept_create h)
    exact bookkept_of_change hs (change_of_handle (step_eq_some_iff.mp hstep))
  · intro before t after name hsteps hloses f hf
    have hmem : t ∈ steps config s es := by
      rw [hsteps]
      exact List.mem_append_right _ List.mem_cons_self
    have hchange := change_of_mem_steps hmem
    obtain ⟨es', htrace, hlast⟩ := Run.trace_split hsteps
    -- the loss has left none of them
    have hnone : t.2.2.replyFilters.count f = 0 := by
      rw [List.count_eq_zero]
      intro hmem
      have := no_replies_of_loses hchange hloses f (List.mem_filter.mp hmem).1
      rw [hf] at this
      cases this
    -- what is counted at the end was installed since
    have hcount := count_replyFilters config f es' t.2.2
    rw [steps, htrace, hlast, hnone, Nat.zero_add] at hcount
    exact hcount

/-- The sample router hands over a query, loses its network and gets it back. -/
def lossRun : List Event :=
  queryRun ++ [.sendTick, .devicePacket 0 none, .reconnectTick fun _ => true]

/-- The books of that run; the filter for the reply is gone. -/
theorem network_bookkeeping_loss : ∃ s, create sampleConfig = .ok s ∧
    Run.Always (step sampleConfig) Bookkept s lossRun ∧
    (Run.last (step sampleConfig) s lossRun).replyFilters = [] :=
  ⟨_, rfl, (network_bookkeeping rfl lossRun).1, by decide⟩

end State
end Router
end HomeAutomation
