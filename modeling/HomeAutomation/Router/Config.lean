import HomeAutomation.Lib.OrderedMap
import HomeAutomation.Proto.Message

/-!
# The configuration of the router

The networks and devices the router knows, as its configuration holds them: two
maps keyed by name.  The fields of `Config` that are proofs are what its
constructor establishes: an entry is stored under its own name, and a device
belongs to a network of the configuration.

A device refers to its network by the network's name, which is the key of the
object the source's reference points to.

## Main definitions

* `Config` — networks, devices and bindings.
* `findDevice`, `findDeviceById` — the two `find_device`.

## Main results

* `findDevice_eq_some_iff`, `findDeviceById_eq_some` — what a search finds.

## References

`router/Config.cpp`, `router/Config.h`.
-/

namespace HomeAutomation
namespace Router

/-- `Config::Network`. -/
structure Network where
  name : Text
  address : Text
  service : Text
  deriving DecidableEq

/-- `Config::Device`. -/
structure Device where
  name : Text
  networkName : Text
  id : UInt8
  deriving DecidableEq

/-- `Config::Binding::Type`. -/
inductive BindingType
  | tcp
  | unix
  deriving DecidableEq, Repr

/-- `Config::Binding`. -/
structure Binding where
  type : BindingType
  address : Text
  service : Text
  backlog : ℤ
  deriving DecidableEq

/-- `Config`, as its constructor leaves it. -/
structure Config where
  networks : OrderedMap Text Network
  devices : OrderedMap Text Device
  bindings : List Binding
  network_name : ∀ e ∈ networks.entries, e.2.name = e.1
  device_name : ∀ e ∈ devices.entries, e.2.name = e.1
  device_network : ∀ e ∈ devices.entries, (networks.find e.2.networkName).isSome = true

namespace Config

/-- `find_device(name)`. -/
def findDevice (config : Config) (name : Text) : Option Device := config.devices.find name

/-- `find_device(network_name, id)`: the first in the order of the names. -/
def findDeviceById (config : Config) (networkName : Text) (id : UInt8) : Option Device :=
  (config.devices.entries.map Prod.snd).find? fun d => d.networkName = networkName && d.id = id

/-- `get_networks`. -/
def getNetworks (config : Config) : List Network := config.networks.entries.map Prod.snd

/-- A device is found under its own name only. -/
theorem name_of_findDevice {config : Config} {name : Text} {d : Device}
    (h : config.findDevice name = some d) : d.name = name :=
  config.device_name (name, d) (OrderedMap.mem_entries_iff.mpr h)

/-- Every device of the configuration is found under its name. -/
theorem findDevice_of_mem {config : Config} {d : Device}
    (h : d ∈ config.devices.entries.map Prod.snd) : config.findDevice d.name = some d := by
  obtain ⟨⟨name, d'⟩, he, rfl⟩ := List.mem_map.mp h
  have hname : d'.name = name := config.device_name _ he
  rw [findDevice, hname]
  exact OrderedMap.mem_entries_iff.mp he

theorem mem_of_findDevice {config : Config} {name : Text} {d : Device}
    (h : config.findDevice name = some d) : d ∈ config.devices.entries.map Prod.snd :=
  List.mem_map.mpr ⟨(name, d), OrderedMap.mem_entries_iff.mpr h, rfl⟩

/-- What the search by network and id finds. -/
theorem of_findDeviceById {config : Config} {networkName : Text} {id : UInt8} {d : Device}
    (h : config.findDeviceById networkName id = some d) :
    config.findDevice d.name = some d ∧ d.networkName = networkName ∧ d.id = id := by
  have hcond := List.find?_some h
  rw [Bool.and_eq_true, decide_eq_true_eq, decide_eq_true_eq] at hcond
  exact ⟨findDevice_of_mem (List.mem_of_find?_eq_some h), hcond⟩

/-- No two devices share a network and an id. -/
def DistinctIds (config : Config) : Prop :=
  ∀ n₁ d₁ n₂ d₂, config.findDevice n₁ = some d₁ → config.findDevice n₂ = some d₂ →
    d₁.networkName = d₂.networkName → d₁.id = d₂.id → d₁ = d₂

/-- With distinct ids the search by network and id is the inverse of the search
by name. -/
theorem findDeviceById_eq_some_iff {config : Config} (hc : config.DistinctIds) {name : Text}
    {d : Device} (hd : config.findDevice name = some d) {networkName : Text} {id : UInt8} :
    config.findDeviceById networkName id = some d ↔ d.networkName = networkName ∧ d.id = id := by
  constructor
  · exact fun h => (of_findDeviceById h).2
  · rintro ⟨rfl, rfl⟩
    cases h : config.findDeviceById d.networkName d.id with
    | none =>
      have := List.find?_eq_none.mp h d (mem_of_findDevice hd)
      simp at this
    | some d' =>
      obtain ⟨hd', hnetwork, hid⟩ := of_findDeviceById h
      rw [hc _ _ _ _ hd' hd hnetwork hid]

end Config

/-! ### A configuration of one device -/

/-- The network of the one device. -/
def sampleNetwork : Network := ⟨"net".toList, "10.0.0.1".toList, "2121".toList⟩

/-- The one device. -/
def sampleDevice : Device := ⟨"lamp".toList, "net".toList, 5⟩

/-- A configuration of one device on one network, with one binding. -/
def sampleConfig : Config where
  networks := ⟨[("net".toList, sampleNetwork)], List.pairwise_singleton _ _⟩
  devices := ⟨[("lamp".toList, sampleDevice)], List.pairwise_singleton _ _⟩
  bindings := [⟨.tcp, [], "2020".toList, 5⟩]
  network_name := by decide
  device_name := by decide
  device_network := by decide

theorem distinctIds_sampleConfig : sampleConfig.DistinctIds := by
  have honly : ∀ n d, sampleConfig.findDevice n = some d → d = sampleDevice := by
    intro n d h
    have hmem : (n, d) ∈ [("lamp".toList, sampleDevice)] := OrderedMap.mem_entries_iff.mpr h
    exact congrArg Prod.snd (List.mem_singleton.mp hmem)
  intro n₁ d₁ n₂ d₂ h₁ h₂ _ _
  rw [honly n₁ d₁ h₁, honly n₂ d₂ h₂]

end Router
end HomeAutomation
