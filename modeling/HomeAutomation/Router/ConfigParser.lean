import HomeAutomation.Router.Config

/-!
# Reading the configuration of the router

The configuration is made from the values of a file: a map from keys such as
`device.lamp.id` to text.  The three parse functions collect the names between the
first two dots of the keys of their kind and look up the fields of each name.  A
network without address and a binding without a valid address are skipped; a device
with a bad field is an error.

`parse_networks` fails when it has skipped everything, and `parse_bindings` does not.
No name is looked at.

## Main definitions

* `extractKeys` — the names of one kind.
* `networkOf`, `deviceOf`, `bindingOf` — what is made of the fields of one name.
* `parseConfig` — the constructor.

## Main results

* `parts_of_parseConfig` — what an accepted configuration consists of.
* `mem_parseNetworks_iff`, `mem_parseDevices_iff` — its networks and devices.

## References

`router/Config.cpp`, `common/include/util/Config.h`.
-/

namespace HomeAutomation
namespace Router

open Hex Str

/-- `util::Config::ValueMap`. -/
abbrev Values := OrderedMap Text Text

/-! ### Values -/

/-- `get<std::string>`. -/
def getString (values : Values) (key defaultValue : Text) : Text :=
  (values.find key).getD defaultValue

/-- `std::istream >> value` into an `int`, when the value before is the given one.  At
the end of the text nothing is stored; a text that is no number stores zero, and one
out of range the nearest value. -/
def istreamInt (s : Text) (value : ℤ) : ℤ :=
  match s.dropWhile isSpace with
  | [] => value
  | c :: rest =>
    let (neg, rest) := takeSign (c :: rest)
    let digits := rest.takeWhile Char.isDigit
    let magnitude : ℤ := digits.foldl (fun n d => 10 * n + (d.toNat - 48 : ℕ)) 0
    if neg then max (-magnitude) (-2 ^ 31) else min magnitude (2 ^ 31 - 1)

/-- `get<int>`. -/
def getInt (values : Values) (key : Text) (defaultValue : ℤ) : ℤ :=
  match values.find key with
  | none => defaultValue
  | some text => istreamInt text defaultValue

/-- The name in a key of the given kind: what stands between its first two dots. -/
def extractKey (kind key : Text) : Option Text :=
  let start := kind ++ ['.']
  if substr key 0 start.length ≠ start then none
  else
    match findFirstOf (· == '.') key start.length with
    | none => none
    | some stop => some (substr key start.length (stop - start.length))

/-- `extract_keys`, in the order of a `std::set`. -/
def extractKeys (values : Values) (kind : Text) : List Text :=
  let keys := values.entries.foldl (fun keys e => match extractKey kind e.1 with
    | none => keys
    | some key => keys.insert key ()) (OrderedMap.empty : OrderedMap Text Unit)
  keys.entries.map Prod.fst

/-- The key of a field. -/
def fieldKey (kind key field : Text) : Text := kind ++ '.' :: (key ++ '.' :: field)

/-! ### Networks -/

/-- The network of a name; `none` when it has no address and is skipped. -/
def networkOf (values : Values) (key : Text) : Option Network :=
  let address := getString values (fieldKey "network".toList key "address".toList) []
  let service := getString values (fieldKey "network".toList key "port".toList) "2121".toList
  if address = [] then none else some ⟨key, address, service⟩

/-- `parse_networks`. -/
def parseNetworks (values : Values) : Except Exception (OrderedMap Text Network) :=
  let keys := extractKeys values "network".toList
  if keys = [] then .error (.runtimeError "no networks defined in configuration")
  else
    let networks := OrderedMap.empty.insertAll (networkOf values) keys
    if networks.entries = [] then
      .error (.runtimeError "no valid networks defined in configuration")
    else .ok networks

/-! ### Devices -/

/-- The device of a name. -/
def deviceOf (values : Values) (networks : OrderedMap Text Network) (key : Text) :
    Except Exception Device :=
  let networkName := getString values (fieldKey "device".toList key "network".toList) []
  let idStr := getString values (fieldKey "device".toList key "id".toList) []
  let (good, id) := istreamHex 32 idStr
  if !good ∨ id > 127 then .error (.runtimeError "invalid device id")
  else
    match networks.find networkName with
    | none => .error (.runtimeError "invalid network name")
    | some _ => .ok ⟨key, networkName, UInt8.ofNat id⟩

/-- The loop of `parse_devices`. -/
def parseDeviceList (values : Values) (networks : OrderedMap Text Network) :
    List Text → OrderedMap Text Device → Except Exception (OrderedMap Text Device)
  | [], devices => .ok devices
  | key :: keys, devices =>
    match deviceOf values networks key with
    | .error e => .error e
    | .ok device => parseDeviceList values networks keys (devices.insert key device)

/-- `parse_devices`. -/
def parseDevices (values : Values) (networks : OrderedMap Text Network) :
    Except Exception (OrderedMap Text Device) :=
  let keys := extractKeys values "device".toList
  if keys = [] then .error (.runtimeError "no devices found in configuration")
  else parseDeviceList values networks keys .empty

/-! ### Bindings -/

/-- The binding of a name; `none` when it is invalid and skipped. -/
def bindingOf (values : Values) (key : Text) : Option Binding :=
  let address := getString values (fieldKey "bind".toList key "address".toList) []
  let service := getString values (fieldKey "bind".toList key "port".toList) []
  let path := getString values (fieldKey "bind".toList key "path".toList) []
  let backlog := getInt values (fieldKey "bind".toList key "backlog".toList) 5
  if service ≠ [] ∧ path = [] then some ⟨.tcp, address, service, backlog⟩
  else if address = [] ∧ service = [] ∧ path ≠ [] then some ⟨.unix, path, [], backlog⟩
  else none

/-- `parse_bindings`. -/
def parseBindings (values : Values) : Except Exception (List Binding) :=
  let keys := extractKeys values "bind".toList
  if keys = [] then .error (.runtimeError "no bindings found in configuration")
  else .ok (keys.filterMap (bindingOf values))

/-! ### What is accepted -/

section Accepted

variable {values : Values}

theorem parseNetworks_eq_ok {networks : OrderedMap Text Network}
    (h : parseNetworks values = .ok networks) :
    networks = OrderedMap.empty.insertAll (networkOf values)
      (extractKeys values "network".toList) ∧ networks.entries ≠ [] := by
  unfold parseNetworks at h
  dsimp only at h
  split at h
  · cases h
  · split at h
    · cases h
    · next hne =>
      cases h
      exact ⟨rfl, hne⟩

/-- The networks of an accepted configuration. -/
theorem mem_parseNetworks_iff {networks : OrderedMap Text Network}
    (h : parseNetworks values = .ok networks) {name : Text} {network : Network} :
    (name, network) ∈ networks.entries ↔
      name ∈ extractKeys values "network".toList ∧ networkOf values name = some network := by
  rw [(parseNetworks_eq_ok h).1]
  exact OrderedMap.mem_entries_insertAll _

theorem parseDeviceList_eq_ok {networks : OrderedMap Text Network} :
    ∀ {keys : List Text} {devices devices' : OrderedMap Text Device},
      parseDeviceList values networks keys devices = .ok devices' →
      (∀ key ∈ keys, ∃ device, deviceOf values networks key = .ok device) ∧
        devices' = devices.insertAll (fun key => (deviceOf values networks key).toOption) keys := by
  intro keys
  induction keys with
  | nil =>
    intro devices devices' h
    cases h
    exact ⟨fun key hkey => absurd hkey List.not_mem_nil, rfl⟩
  | cons key keys ih =>
    intro devices devices' h
    rw [parseDeviceList] at h
    split at h
    -- the first device that is wrong ends the loop
    · cases h
    · next device hdevice =>
      obtain ⟨hall, rfl⟩ := ih h
      refine ⟨fun k hk => ?_, ?_⟩
      · rcases List.mem_cons.mp hk with rfl | hk
        · exact ⟨device, hdevice⟩
        · exact hall k hk
      · show _ = OrderedMap.insertAll _ _ (key :: keys)
        simp [OrderedMap.insertAll, hdevice, Except.toOption]

/-- The devices of an accepted configuration. -/
theorem mem_parseDevices_iff {networks : OrderedMap Text Network}
    {devices : OrderedMap Text Device} (h : parseDevices values networks = .ok devices)
    {name : Text} {device : Device} :
    (name, device) ∈ devices.entries ↔
      name ∈ extractKeys values "device".toList ∧ deviceOf values networks name = .ok device := by
  unfold parseDevices at h
  dsimp only at h
  split at h
  · cases h
  · obtain ⟨-, rfl⟩ := parseDeviceList_eq_ok h
    rw [OrderedMap.mem_entries_insertAll]
    cases deviceOf values networks name with
    | error e => simp [Except.toOption]
    | ok d => simp [Except.toOption]

/-- Every name of a device is a device. -/
theorem exists_deviceOf {networks : OrderedMap Text Network} {devices : OrderedMap Text Device}
    (h : parseDevices values networks = .ok devices) {name : Text}
    (hname : name ∈ extractKeys values "device".toList) :
    ∃ device, deviceOf values networks name = .ok device := by
  unfold parseDevices at h
  dsimp only at h
  split at h
  · cases h
  · exact (parseDeviceList_eq_ok h).1 name hname

/-- **What a device is made of**: its name, an id of seven bits and a network of the
configuration. -/
theorem deviceOf_eq_ok {networks : OrderedMap Text Network} {name : Text} {device : Device}
    (h : deviceOf values networks name = .ok device) :
    device.name = name ∧ device.id ≤ 127 ∧ (networks.find device.networkName).isSome = true := by
  unfold deviceOf at h
  dsimp only at h
  split at h
  · cases h
  · next hid =>
    split at h
    · cases h
    · next network hnetwork =>
      cases h
      refine ⟨rfl, ?_, by rw [hnetwork]; rfl⟩
      have hle : ¬ (istreamHex 32 (getString values
          (fieldKey "device".toList name "id".toList) [])).2 > 127 := fun h => hid (Or.inr h)
      rw [UInt8.le_iff_toNat_le, UInt8.toNat_ofNat']
      exact (Nat.mod_le _ _).trans (Nat.not_lt.mp hle)

theorem networkOf_eq_some {name : Text} {network : Network}
    (h : networkOf values name = some network) : network.name = name := by
  unfold networkOf at h
  dsimp only at h
  split at h
  · cases h
  · cases h
    rfl

end Accepted

/-! ### The constructor -/

/-- `Config(config)`, with `parse_config`. -/
def parseConfig (values : Values) : Except Exception Config :=
  match hn : parseNetworks values with
  | .error e => .error e
  | .ok networks =>
    match hd : parseDevices values networks with
    | .error e => .error e
    | .ok devices =>
      match parseBindings values with
      | .error e => .error e
      | .ok bindings => .ok {
          networks := networks
          devices := devices
          bindings := bindings
          network_name := fun _ h => networkOf_eq_some ((mem_parseNetworks_iff hn).mp h).2
          device_name := fun _ h => (deviceOf_eq_ok ((mem_parseDevices_iff hd).mp h).2).1
          device_network := fun _ h => (deviceOf_eq_ok ((mem_parseDevices_iff hd).mp h).2).2.2 }

/-- **What an accepted configuration consists of.** -/
theorem parts_of_parseConfig {values : Values} {config : Config}
    (h : parseConfig values = .ok config) :
    parseNetworks values = .ok config.networks ∧
      parseDevices values config.networks = .ok config.devices ∧
      parseBindings values = .ok config.bindings := by
  unfold parseConfig at h
  split at h
  · cases h
  · next networks hn =>
    split at h
    · cases h
    · next devices hd =>
      split at h
      · cases h
      · next bindings hb =>
        cases h
        exact ⟨hn, hd, hb⟩

end Router
end HomeAutomation
