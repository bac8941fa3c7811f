import HomeAutomation.Link.DeliverySemantics
import HomeAutomation.Router.ConfigParser

/-!
# The names under which values are reported

A client asks a device by its name, and the router hears of an answer from a network
and an id.  It reports the answer under the name of the first device, in the order of
the names, that has this network and this id; `parse_devices` accepts several.

## Main results

* `findDeviceById_self_iff` — when a device is found by its own network and id.
* `delivered_of_returns` — what the handler does whenever it returns.
* `find_device_inverse` — the two searches, and the names that are reported.

## References

`router/Config.cpp`, `router/Router.cpp`.
-/

namespace HomeAutomation
namespace ReplyLink

open ServiceCommand Router Router.State

/-! ### The two searches -/

/-- The devices that have a network and an id of their own are found by them: a device
is found by its network and id exactly when its name is the least of the names with
this network and id. -/
theorem findDeviceById_self_iff {config : Config} {n : Text} {d : Device}
    (hd : config.findDevice n = some d) :
    config.findDeviceById d.networkName d.id = some d ↔
      ∀ n' d', config.findDevice n' = some d' → d'.networkName = d.networkName → d'.id = d.id →
        n ≤ n' := by
  have hentry : (n, d) ∈ config.devices.entries := OrderedMap.mem_entries_iff.mpr hd
  have hsearch : config.findDeviceById d.networkName d.id = some d ↔
      config.devices.entries.find? (fun e => e.2.networkName = d.networkName && e.2.id = d.id)
        = some (n, d) := by
    rw [Config.findDeviceById, List.find?_map, Option.map_eq_some_iff]
    constructor
    · rintro ⟨⟨n', d'⟩, hfind, rfl⟩
      -- an entry is stored under its own name
      have hname := config.device_name _ (List.mem_of_find?_eq_some hfind)
      rw [← Config.name_of_findDevice hd, hname]
      exact hfind
    · exact fun hfind => ⟨_, hfind, rfl⟩
  rw [hsearch, OrderedMap.find?_entries_eq_some_iff hentry (by simp)]
  constructor
  · intro h n' d' hd' hnetwork hid
    exact h (n', d') (OrderedMap.mem_entries_iff.mpr hd') (by simp [hnetwork, hid])
  · rintro h ⟨n', d'⟩ he hp
    rw [Bool.and_eq_true, decide_eq_true_eq, decide_eq_true_eq] at hp
    exact h n' d' (OrderedMap.mem_entries_iff.mp he) hp.1 hp.2

/-- Every device is found by its network and id exactly when no two have the same. -/
theorem distinctIds_iff {config : Config} : config.DistinctIds ↔
    ∀ n d, config.findDevice n = some d → config.findDeviceById d.networkName d.id = some d := by
  constructor
  · exact fun hc n d hd => (Config.findDeviceById_eq_some_iff hc hd).mpr ⟨rfl, rfl⟩
  · intro h n₁ d₁ n₂ d₂ h₁ h₂ hnetwork hid
    have hfound := h n₁ d₁ h₁
    rw [hnetwork, hid, h n₂ d₂ h₂] at hfound
    exact (Option.some.inj hfound).symm

/-! ### The handler -/

section Handler

variable {m : Message} {network : Network} {d : Device}

/-- A message that passes no filter changes nothing. -/
theorem routeLoop_of_no_pass : ∀ (rest : List FilterRecord) (s : State)
    (kept : List FilterRecord) (dead : OrderedMap ℕ Unit),
    (∀ f ∈ rest, passesFilter m network f = false) →
      routeLoop m network d rest.length s kept rest dead
        = .ok ({ s with filters := kept ++ rest }, dead) := by
  intro rest
  induction rest with
  | nil =>
    intro s kept dead _
    rw [List.append_nil]
    rfl
  | cons f rest ih =>
    intro s kept dead h
    rw [List.length_cons, routeLoop, h f List.mem_cons_self, List.append_cons kept f rest]
    exact ih s (kept ++ [f]) dead fun g hg => h g (List.mem_cons_of_mem f hg)

/-- **What the handler does whenever it returns**: every connection has taken the commands
for its filters. -/
theorem delivered_of_returns {config : Config} {s s' : State} {networkIndex : ℕ}
    {record : NetworkRecord} (hrecord : s.networks[networkIndex]? = some record)
    (hdevice : config.findDeviceById record.network.name m.deviceId = some d)
    (h : s.handleDevicePacket config (.message m) networkIndex = .ok s') :
    Delivered m record.network d s s' := by
  have hhandler := h
  unfold handleDevicePacket at hhandler
  simp only [hrecord, hdevice] at hhandler
  obtain ⟨⟨t, dead⟩, hloop, hclosed⟩ := bind_eq_ok_iff.mp hhandler
  obtain rfl : dead = .empty := dead_of_routeLoop _ _ _ _ _ hloop
  have hserved := (routeLoop_returns_iff s.filters s [] .empty).mp ⟨t, hloop⟩
  by_cases hpass : ∃ f ∈ s.filters, passesFilter m record.network f = true
  · obtain ⟨f, hf, hpass⟩ := hpass
    obtain ⟨-, -, hnames, -⟩ := hserved f hf hpass
    obtain ⟨connections, hrun⟩ :=
      accepting_iff_run.mp ((accepting_iff_served hnames).mpr hserved)
    rw [handleDevicePacket_eq_afterMessage hrecord hdevice hnames hrun] at h
    cases h
    exact delivered_afterMessage hrun
  · have hnone : ∀ f ∈ s.filters, passesFilter m record.network f = false := by simpa using hpass
    rw [routeLoop_of_no_pass s.filters s [] .empty hnone] at hloop
    cases hloop
    cases hclosed
    refine ⟨fun id connection hc => ⟨[], connection, hc, rfl, ?_⟩, fun id hn => hn, ?_, rfl⟩
    · rw [matching, List.filter_eq_nil_iff.mpr fun f hf => by simp [hnone f hf]]
      exact .nil
    · exact (List.filter_eq_self.mpr fun f hf => by simp [hnone f hf]).symm

end Handler

/-- **The two searches for a device.**  A device is found by its network and id exactly
when no earlier name has the same ones, so all devices are exactly when no two have the
same; and then a packet with this network and id is reported under its name: whenever
the handler returns, every connection has taken, for each of its filters that the packet
passes, a command that carries the name; and it returns, when the names are words and the
connections of these filters are there and take the commands. -/
theorem find_device_inverse (config : Config) :
    (config.DistinctIds ↔ ∀ n d, config.findDevice n = some d →
      config.findDeviceById d.networkName d.id = some d) ∧
    ∀ n d, config.findDevice n = some d →
      (config.findDeviceById d.networkName d.id = some d ↔
        ∀ n' d', config.findDevice n' = some d' → d'.networkName = d.networkName →
          d'.id = d.id → n ≤ n') ∧
      (config.findDeviceById d.networkName d.id = some d →
        d.name = n ∧ ∀ s networkIndex record m, s.networks[networkIndex]? = some record →
          record.network.name = d.networkName → m.deviceId = d.id →
          (∀ s', s.handleDevicePacket config (.message m) networkIndex = .ok s' →
            Delivered m record.network d s s') ∧
          (checkString n = true ∧ checkString d.networkName = true →
            Accepting m record.network d s →
            ∃ s', s.handleDevicePacket config (.message m) networkIndex = .ok s' ∧
              Delivered m record.network d s s')) := by
  refine ⟨distinctIds_iff, fun n d hd => ⟨findDeviceById_self_iff hd, fun hfound => ?_⟩⟩
  obtain rfl := Config.name_of_findDevice hd
  refine ⟨rfl, fun s networkIndex record m hrecord hnetwork hid => ?_⟩
  rw [← hnetwork, ← hid] at hfound
  refine ⟨fun s' h => delivered_of_returns hrecord hfound h, fun hnames haccepts => ?_⟩
  -- the run of the connections is what the handler does
  obtain ⟨connections, hrun⟩ := accepting_iff_run.mp haccepts
  exact ⟨_, handleDevicePacket_eq_afterMessage hrecord hfound hnames hrun,
    delivered_afterMessage hrun⟩

/-- A file with two names for one id. -/
def twiceValues : Values :=
  ((((((OrderedMap.empty.insert "network.net.address".toList "10.0.0.1".toList).insert
    "device.desk.network".toList "net".toList).insert "device.desk.id".toList "5".toList).insert
    "device.lamp.network".toList "net".toList).insert "device.lamp.id".toList "05".toList).insert
    "bind.b.port".toList "2020".toList)

/-- **Two names for one id are accepted**, and what the second one sends is reported
under the first. -/
theorem lamp_reported_as_desk :
    ∃ config d d', parseConfig twiceValues = .ok config ∧
      config.findDevice "lamp".toList = some d ∧
      config.findDeviceById d.networkName d.id = some d' ∧ d' ≠ d ∧ d'.name = "desk".toList :=
  ⟨_, ⟨"lamp".toList, "net".toList, 5⟩, ⟨"desk".toList, "net".toList, 5⟩, rfl, rfl, rfl,
    by decide, rfl⟩

/-- The one device of a configuration is found by its network and id. -/
theorem find_device_inverse_sample :
    sampleConfig.findDevice "lamp".toList = some sampleDevice ∧
      sampleConfig.findDeviceById "net".toList 5 = some sampleDevice ∧
      ∃ s', waitingState.handleDevicePacket sampleConfig (.message sampleReply) 0 = .ok s' ∧
        Delivered sampleReply sampleNetwork sampleDevice waitingState s' := by
  have hd : sampleConfig.findDevice "lamp".toList = some sampleDevice := rfl
  obtain ⟨hall, hname⟩ := find_device_inverse sampleConfig
  have hfound := hall.mp distinctIds_sampleConfig _ _ hd
  obtain ⟨-, hreported⟩ := (hname _ _ hd).2 hfound
  have hreturns := (hreported waitingState 0 _ sampleReply rfl rfl rfl).2
  exact ⟨hd, hfound, hreturns nameable_sampleDevice accepting_waitingState⟩

end ReplyLink
end HomeAutomation
