import HomeAutomation.Link.ReplyPath
import HomeAutomation.Router.Answers
import HomeAutomation.Router.ConfigParser

/-!
# Accepted configurations and the checks of the router

The router checks its configuration with assertions, long after it was read: that
there are networks and bindings when it is constructed, that a device's network is
one of its own when it sends, and that the names of devices and networks are words
when it writes them into a command.  A configuration that is accepted should pass.

Two of the checks are not anticipated.  When all bindings are invalid they are all
skipped, and none is left.  And the names are whatever stands between two dots of a
key.

## Main definitions

* `PassesChecks` — no assertion of the router about its configuration can fail.
* `HasBinding` — some binding of the file is valid.
* `NamesAreWords` — the names of devices and of networks with an address are words.

## Main results

* `passesChecks_iff` — which accepted configurations pass the checks.

## References

`router/Config.cpp`, `router/Router.cpp`, `common/source/proto/Message.cpp`.
-/

namespace HomeAutomation
namespace AcceptedConfig

open Router Router.State

/-- The devices of a configuration. -/
def devicesOf (config : Config) : List Device := config.devices.entries.map Prod.snd

/-- **No assertion of the router about its configuration can fail.** -/
structure PassesChecks (config : Config) : Prop where
  networks : config.getNetworks ≠ []
  bindings : config.bindings ≠ []
  device_network : ∀ d ∈ devicesOf config, ∃ n ∈ config.getNetworks, n.name = d.networkName
  device_id : ∀ d ∈ devicesOf config, d.id ≤ 127
  device_name : ∀ d ∈ devicesOf config, checkString d.name = true
  network_name : ∀ n ∈ config.getNetworks, checkString n.name = true
  /-- `init_networks` and `init_bindings`. -/
  creates : ∃ s, create config = .ok s
  /-- `handle_send`, in every state of the router. -/
  sends : ∀ s, ReachableState config s → ∀ command id type,
    ∃ r, s.handleSend config command id type = .ok r
  /-- `add_argument`, called by `route_to`. -/
  routes : ∀ d ∈ devicesOf config, ∀ m reply, ∃ command, routedCommand m d reply = .ok command

/-- Some binding of the file has a port and no path, or a path and nothing else. -/
def HasBinding (values : Values) : Prop :=
  ∃ key ∈ extractKeys values "bind".toList,
    let address := getString values (fieldKey "bind".toList key "address".toList) []
    let service := getString values (fieldKey "bind".toList key "port".toList) []
    let path := getString values (fieldKey "bind".toList key "path".toList) []
    (service ≠ [] ∧ path = []) ∨ (address = [] ∧ service = [] ∧ path ≠ [])

/-- The names of devices and of networks with an address are words. -/
def NamesAreWords (values : Values) : Prop :=
  (∀ name ∈ extractKeys values "device".toList, checkString name = true) ∧
    ∀ name ∈ extractKeys values "network".toList,
      getString values (fieldKey "network".toList name "address".toList) [] ≠ [] →
        checkString name = true

section Accepted

variable {values : Values} {config : Config} (h : parseConfig values = .ok config)

include h

theorem bindings_ne_nil_iff : config.bindings ≠ [] ↔ HasBinding values := by
  have hbindings := (parts_of_parseConfig h).2.2
  unfold parseBindings at hbindings
  dsimp only at hbindings
  split at hbindings
  · cases hbindings
  · have hlist := Except.ok.inj hbindings
    rw [← hlist, ne_eq, List.filterMap_eq_nil_iff, not_forall]
    unfold HasBinding
    refine exists_congr fun key => ?_
    rw [not_forall, exists_prop]
    refine and_congr_right fun _ => ?_
    unfold bindingOf
    dsimp only
    split
    · next htcp => exact iff_of_true (by simp) (Or.inl htcp)
    · next htcp =>
      split
      · next hunix => exact iff_of_true (by simp) (Or.inr hunix)
      · next hunix => exact iff_of_false (by simp) (not_or.mpr ⟨htcp, hunix⟩)

theorem mem_devicesOf_iff {d : Device} : d ∈ devicesOf config ↔
    d.name ∈ extractKeys values "device".toList ∧
      deviceOf values config.networks d.name = .ok d := by
  obtain ⟨-, hdevices, -⟩ := parts_of_parseConfig h
  constructor
  · intro hd
    obtain ⟨⟨name, d'⟩, he, rfl⟩ := List.mem_map.mp hd
    have hname : d'.name = name := config.device_name _ he
    rw [hname]
    exact (mem_parseDevices_iff hdevices).mp he
  · exact fun hd => List.mem_map.mpr ⟨(d.name, d), (mem_parseDevices_iff hdevices).mpr hd, rfl⟩

theorem mem_getNetworks_iff {n : Network} : n ∈ config.getNetworks ↔
    n.name ∈ extractKeys values "network".toList ∧ networkOf values n.name = some n := by
  obtain ⟨hnetworks, -, -⟩ := parts_of_parseConfig h
  constructor
  · intro hn
    obtain ⟨⟨name, n'⟩, he, rfl⟩ := List.mem_map.mp hn
    have hname : n'.name = name := config.network_name _ he
    rw [hname]
    exact (mem_parseNetworks_iff hnetworks).mp he
  · exact fun hn => List.mem_map.mpr ⟨(n.name, n), (mem_parseNetworks_iff hnetworks).mpr hn, rfl⟩

/-- The names that the router writes are words exactly when those of the file are. -/
theorem names_iff :
    ((∀ d ∈ devicesOf config, checkString d.name = true) ∧
      ∀ n ∈ config.getNetworks, checkString n.name = true) ↔ NamesAreWords values := by
  obtain ⟨-, hdevices, -⟩ := parts_of_parseConfig h
  refine and_congr ⟨fun hd name hname => ?_, fun hd d hmem => ?_⟩
    ⟨fun hn name hname haddress => ?_, fun hn n hmem => ?_⟩
  -- a device of the parsed configuration stands in the file under its own name
  · obtain ⟨d, hdevice⟩ := exists_deviceOf hdevices hname
    have hdname := (deviceOf_eq_ok hdevice).1
    rw [← hdname] at hname hdevice ⊢
    exact hd d ((mem_devicesOf_iff h).mpr ⟨hname, hdevice⟩)
  · exact hd d.name ((mem_devicesOf_iff h).mp hmem).1
  · have hnetwork : ∃ n, networkOf values name = some n := by
      unfold networkOf
      dsimp only
      rw [if_neg haddress]
      exact ⟨_, rfl⟩
    obtain ⟨n, hnetwork⟩ := hnetwork
    have hnname := networkOf_eq_some hnetwork
    rw [← hnname] at hname hnetwork ⊢
    exact hn n ((mem_getNetworks_iff h).mpr ⟨hname, hnetwork⟩)
  · obtain ⟨hname, hnetwork⟩ := (mem_getNetworks_iff h).mp hmem
    -- an address in the place of a name makes the network a different one
    refine hn n.name hname fun haddress => ?_
    unfold networkOf at hnetwork
    dsimp only at hnetwork
    rw [if_pos haddress] at hnetwork
    cases hnetwork

/-- **Which accepted configurations pass the checks of the router**: those of files
with a valid binding in which the names of devices and networks are words. -/
theorem passesChecks_iff : PassesChecks config ↔ HasBinding values ∧ NamesAreWords values := by
  constructor
  · exact fun hchecks => ⟨(bindings_ne_nil_iff h).mp hchecks.bindings,
      (names_iff h).mp ⟨hchecks.device_name, hchecks.network_name⟩⟩
  · rintro ⟨hbinding, hwords⟩
    have hbindings := (bindings_ne_nil_iff h).mpr hbinding
    obtain ⟨hdevice, hnetwork⟩ := (names_iff h).mpr hwords
    -- the parser refuses a file without networks
    have hnetworks : config.getNetworks ≠ [] := by
      rw [Config.getNetworks, ne_eq, List.map_eq_nil_iff]
      exact (parseNetworks_eq_ok (parts_of_parseConfig h).1).2
    have hfound : ∀ d ∈ devicesOf config, ∃ n ∈ config.getNetworks, n.name = d.networkName := by
      intro d hd
      have hsome := (deviceOf_eq_ok ((mem_devicesOf_iff h).mp hd).2).2.2
      obtain ⟨n, hn⟩ := Option.isSome_iff_exists.mp hsome
      have hentry := OrderedMap.mem_entries_iff.mpr hn
      exact ⟨n, List.mem_map.mpr ⟨_, hentry, rfl⟩, config.network_name _ hentry⟩
    refine ⟨hnetworks, hbindings, hfound, fun d hd => ?_, hdevice, hnetwork, ?_, ?_, ?_⟩
    · exact (deviceOf_eq_ok ((mem_devicesOf_iff h).mp hd).2).2.1
    · have hb : config.bindings.isEmpty = false := by simpa using hbindings
      have hn : config.getNetworks.isEmpty = false := by simpa using hnetworks
      rw [create, hb, hn]
      exact ⟨_, rfl⟩
    -- the handler of a command returns in every reachable state
    · intro s hs command id type
      exact handleSend_returns (registered_of_reachable hs) command id type
    · intro d hd m reply
      obtain ⟨n, hn, hname⟩ := hfound d hd
      exact ⟨_, ReplyLink.routedCommand_eq (hdevice d hd) (hname ▸ hnetwork n hn) m reply⟩

end Accepted

/-! ### Two files -/

/-- A file with one network, one device and one field of a binding. -/
def sampleValues (field value : String) : Values :=
  (((OrderedMap.empty.insert "network.net.address".toList "10.0.0.1".toList).insert
    "device.lamp.network".toList "net".toList).insert "device.lamp.id".toList "05".toList).insert
    (fieldKey "bind".toList "local".toList field.toList) value.toList

/-- A binding with a port is enough. -/
theorem passesChecks_port : ∃ config, parseConfig (sampleValues "port" "2020") = .ok config ∧
    PassesChecks config := by
  have hparse : ∃ config, parseConfig (sampleValues "port" "2020") = .ok config := ⟨_, rfl⟩
  obtain ⟨config, h⟩ := hparse
  refine ⟨config, h, (passesChecks_iff h).mpr ⟨⟨"local".toList, ?_, Or.inl ?_⟩, ?_, ?_⟩⟩
  · decide
  · decide
  · decide
  · decide

/-- A file whose only binding has an address and no port is accepted, and the router
stops at its first check. -/
theorem no_binding_accepted : ∃ config,
    parseConfig (sampleValues "address" "127.0.0.1") = .ok config ∧
      create config = .error .assertion ∧ ¬ PassesChecks config := by
  have hparse : ∃ config, parseConfig (sampleValues "address" "127.0.0.1") = .ok config ∧
      create config = .error .assertion := ⟨_, rfl, rfl⟩
  obtain ⟨config, h, hcreate⟩ := hparse
  refine ⟨config, h, hcreate, fun hchecks => ?_⟩
  obtain ⟨s, hs⟩ := hchecks.creates
  rw [hcreate] at hs
  cases hs

end AcceptedConfig
end HomeAutomation
