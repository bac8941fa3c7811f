import HomeAutomation.Client.Command
import HomeAutomation.Proto.RoundTrip
import HomeAutomation.Router.State

/-!
# Filters at the two ends

A client's filter exists twice: the dispatcher searches its own list when a value
arrives, and the router decides with a record built from the filter's service
command which values to send.  The two should agree on every message.

The router's test combines the message's address with the outcome of comparing
the two fields of its record, so it rejects exactly the odd addresses of a filter
whose address lacks a bit of its mask.

## Main definitions

* `recordOf` — the record for a filter whose device is looked up.
* `Installed` — a record the router adds for a filter of a client.
* `Wanted` — the dispatcher's test, for a message from a device network.
* `Agree` — the router has a record, and its test says what the dispatcher's says.

## Main results

* `installed_iff` — which record the router adds.
* `passesFilter_recordOf` — the router's test on it.
* `agree_iff` — when the two ends agree.

## References

`router/Router.cpp`, `common/source/client/Command.cpp`,
`common/source/client/Dispatcher.cpp`.
-/

namespace HomeAutomation

open ServiceCommand

/-! ### The command of a filter -/

namespace Filter

/-- The arguments of the command, the device's only when there is one. -/
def arguments (f : Filter) : Arguments :=
  let device : Arguments :=
    if f.device ≠ [] then OrderedMap.empty.insert "device".toList f.device else .empty
  let address := (device.insert "address".toList (unsignedText f.address.toUInt32)).insert
    "mask".toList (unsignedText f.mask.toUInt32)
  if f.isOneTime then address.insert "options".toList "one-time".toList else address

theorem serviceCommand_eq {f : Filter} (h : checkString f.device = true) :
    f.serviceCommand = .ok ⟨"filter".toList, f.arguments⟩ := by
  have hdevice : f.addDevice ⟨"filter".toList, .empty⟩ = .ok ⟨"filter".toList,
      if f.device ≠ [] then OrderedMap.empty.insert "device".toList f.device else .empty⟩ := by
    unfold addDevice
    split
    · exact addArgument_eq (by decide) (by decide) h _
    · rfl
  rw [serviceCommand, create_eq (by decide), ok_bind, hdevice, ok_bind, addArgumentUnsigned,
    addArgument_eq (by decide) (by decide) (checkString_unsignedText _), ok_bind,
    addArgumentUnsigned, addArgument_eq (by decide) (by decide) (checkString_unsignedText _),
    ok_bind]
  unfold arguments
  cases f.isOneTime with
  | false => rfl
  | true => exact addArgument_eq (by decide) (by decide) (by decide) _

/-- A device name that is no word stops the client. -/
theorem serviceCommand_eq_error {f : Filter} (h : checkString f.device = false) :
    f.serviceCommand = .error .assertion := by
  have hne : f.device ≠ [] := by
    rintro hnil
    rw [hnil] at h
    exact absurd h (by decide)
  rw [serviceCommand, create_eq (by decide), ok_bind, addDevice, if_pos hne,
    addArgument_eq_error h]
  rfl

theorem writable_serviceCommand {f : Filter} (h : checkString f.device = true) :
    Writable ⟨"filter".toList, f.arguments⟩ := by
  have hbase : Writable ⟨"filter".toList,
      if f.device ≠ [] then OrderedMap.empty.insert "device".toList f.device else .empty⟩ := by
    split
    · exact (writable_create (by decide) (by decide)).insert _ (by decide) (by decide) h
    · exact writable_create (by decide) (by decide)
  have hnumbers := (hbase.insert "address".toList (by decide) (by decide)
    (checkString_unsignedText f.address.toUInt32)).insert "mask".toList (by decide)
    (by decide) (checkString_unsignedText f.mask.toUInt32)
  unfold arguments
  dsimp only
  split
  · exact hnumbers.insert _ (by decide) (by decide) (by decide)
  · exact hnumbers

theorem find_arguments (f : Filter) :
    (f.arguments.find "device".toList).getD [] = f.device ∧
      f.arguments.find "address".toList = some (unsignedText f.address.toUInt32) ∧
      f.arguments.find "mask".toList = some (unsignedText f.mask.toUInt32) ∧
      (f.arguments.find "options".toList).getD []
        = if f.isOneTime then "one-time".toList else [] := by
  unfold arguments
  by_cases hdevice : f.device = []
  · cases f.isOneTime <;> simp [hdevice]
  · cases f.isOneTime <;> simp [hdevice]

end Filter

/-! ### The record of the router -/

namespace FilterLink

open Router Router.State

/-- The configuration knows the device of the filter, if it names one. -/
def Known (config : Config) (f : Filter) : Prop :=
  f.device = [] ∨ (config.findDevice f.device).isSome = true

/-- The record for a filter of the client with the given connection. -/
def recordOf (config : Config) (f : Filter) (id : ℕ) : FilterRecord where
  connectionId := id
  device := if f.device = [] then none else config.findDevice f.device
  address := (f.address &&& f.mask).toUInt32
  addressMask := f.mask.toUInt32
  flags := if f.isOneTime then FilterRecord.flagOneTime else 0

/-- A 16-bit number is never taken for a missing one, and never out of range. -/
theorem toUInt32_in_range (a : UInt16) :
    a.toUInt32 ≠ invalidValue ∧ ¬ a.toUInt32 > 0xffff := by
  have ha := a.toNat_lt
  constructor
  · intro h
    have := congrArg UInt32.toNat h
    rw [UInt16.toNat_toUInt32, show invalidValue.toNat = 0xffffffff from rfl] at this
    omega
  · intro h
    have := UInt32.lt_iff_toNat_lt.mp h
    rw [UInt16.toNat_toUInt32, show (0xffff : UInt32).toNat = 0xffff from rfl] at this
    omega

theorem filterRecord_eq {config : Config} {f : Filter} (hf : Known config f) (id : ℕ) :
    filterRecord config ⟨"filter".toList, f.arguments⟩ id = some (recordOf config f id) := by
  obtain ⟨hdevice, haddress, hmask, hoptions⟩ := f.find_arguments
  -- the device, the address with its mask and the options are read one after the other
  have hfirst : filterDevice config ⟨"filter".toList, f.arguments⟩ (FilterRecord.create id)
      = some { FilterRecord.create id with
          device := if f.device = [] then none else config.findDevice f.device } := by
    unfold filterDevice getArgument
    dsimp only
    rw [hdevice]
    split
    · rfl
    · next hne =>
      obtain ⟨d, hd⟩ := Option.isSome_iff_exists.mp (hf.resolve_left hne)
      rw [hd]
      rfl
  have hsecond : ∀ r, filterAddress ⟨"filter".toList, f.arguments⟩ r
      = some { r with
          address := (f.address &&& f.mask).toUInt32, addressMask := f.mask.toUInt32 } := by
    intro r
    obtain ⟨ha, ha'⟩ := toUInt32_in_range f.address
    obtain ⟨hm, hm'⟩ := toUInt32_in_range f.mask
    unfold filterAddress
    rw [getArgumentUnsigned_of_find haddress, getArgumentUnsigned_of_find hmask]
    rw [if_pos ⟨ha, hm⟩, if_neg (not_or.mpr ⟨ha', hm'⟩), UInt16.toUInt32_and]
  have hthird : ∀ r : FilterRecord, r.flags = 0 →
      filterOptions ⟨"filter".toList, f.arguments⟩ r
        = { r with flags := if f.isOneTime then FilterRecord.flagOneTime else 0 } := by
    intro r hr
    unfold filterOptions getArgument
    dsimp only
    rw [hoptions]
    cases f.isOneTime with
    | false =>
      rw [if_neg (by decide), ← hr]
      rfl
    | true =>
      rw [if_pos (by decide), hr]
      rfl
  unfold filterRecord
  rw [hfirst]
  simp only [Option.bind_eq_bind, Option.bind_some, hsecond]
  rw [hthird _ rfl]
  rfl

/-- `r` is the record that the router in state `s` adds for the filter: the client's
command is built, sent, read and handled. -/
def Installed (config : Config) (s : State) (f : Filter) (id : ℕ) (unset : Bool)
    (r : FilterRecord) : Prop :=
  ∃ command received, f.serviceCommand = .ok command ∧ command.Transmits received ∧
    (s.handleFilter config received id unset).1.filters = s.filters ++ [r]

/-- **The record the router adds**, for a device name the client can write. -/
theorem installed_iff {config : Config} {f : Filter} (hf : Known config f) {s : State} {id : ℕ}
    {unset : Bool} {r : FilterRecord} :
    Installed config s f id unset r ↔
      checkString f.device = true ∧ r = recordOf config f id := by
  have hhandle : (s.handleFilter config ⟨"filter".toList, f.arguments⟩ id unset).1.filters
      = s.filters ++ [recordOf config f id] := by
    rw [handleFilter, filterRecord_eq hf]
  constructor
  · rintro ⟨command, received, hcommand, htransmits, hfilters⟩
    cases hcheck : checkString f.device with
    | false =>
      rw [Filter.serviceCommand_eq_error hcheck] at hcommand
      cases hcommand
    | true =>
      rw [Filter.serviceCommand_eq hcheck] at hcommand
      cases hcommand
      rw [(Filter.writable_serviceCommand hcheck).transmits_iff.mp htransmits, hhandle] at hfilters
      exact ⟨rfl, by simpa using hfilters.symm⟩
  · rintro ⟨hcheck, rfl⟩
    exact ⟨_, _, Filter.serviceCommand_eq hcheck,
      (Filter.writable_serviceCommand hcheck).transmits_iff.mpr rfl, hhandle⟩

/-! ### The two tests -/

/-- The filter is for the device that sent the message. -/
def ForSender (config : Config) (f : Filter) (network : Network) (m : Message) : Prop :=
  f.device = [] ∨
    (config.findDeviceById network.name m.deviceId).map Device.name = some f.device

/-- **The dispatcher's test**, for a message from a device network. -/
def Wanted (config : Config) (f : Filter) (network : Network) (m : Message) : Prop :=
  ForSender config f network m ∧ f.matchesAddress m.address = true

/-- For a device of the configuration this is the test on the command the client
receives. -/
theorem wanted_iff_matchesCommand {config : Config} {f : Filter} {network : Network} {m : Message}
    {d : Device} (hd : config.findDeviceById network.name m.deviceId = some d) :
    Wanted config f network m ↔
      f.matchesCommand ⟨d.name, .send, m.address, m.body⟩ = true := by
  rw [Wanted, ForSender, hd, Option.map_some, Option.some.injEq, Filter.matchesCommand,
    Bool.and_eq_true, Filter.matchesDevice, Bool.or_eq_true, decide_eq_true_eq, decide_eq_true_eq,
    eq_comm (a := d.name)]

/-- The record names the sender exactly when the filter does. -/
theorem forSender_iff {config : Config} (hc : config.DistinctIds) {f : Filter}
    (hf : Known config f) {network : Network} {m : Message} {id : ℕ} :
    ForSender config f network m ↔
      ∀ d ∈ (recordOf config f id).device, d.id = m.deviceId ∧ d.networkName = network.name := by
  by_cases hdevice : f.device = []
  -- a filter without a device takes every sender
  · refine iff_of_true (Or.inl hdevice) fun d hd => ?_
    rw [recordOf, if_pos hdevice] at hd
    cases hd
  · obtain ⟨d, hd⟩ := Option.isSome_iff_exists.mp (hf.resolve_left hdevice)
    have hname := Config.name_of_findDevice hd
    -- the search by network and id finds the device of that name, or none of that name
    have hsender : (config.findDeviceById network.name m.deviceId).map Device.name = some f.device
        ↔ config.findDeviceById network.name m.deviceId = some d := by
      constructor
      · intro h
        obtain ⟨d', hd', hname'⟩ := Option.map_eq_some_iff.mp h
        have hfind := (Config.of_findDeviceById hd').1
        rw [hname', hd] at hfind
        rw [hd', Option.some.inj hfind]
      · intro h
        rw [h, Option.map_some, hname]
    rw [ForSender, recordOf, if_neg hdevice, hd, hsender, Config.findDeviceById_eq_some_iff hc hd]
    -- in a configuration of distinct ids the two searches are inverse
    simp only [hdevice, false_or, Option.mem_some_iff, forall_eq']
    exact and_comm

/-- Combining an address with a truth value keeps its lowest bit. -/
theorem and_one_eq_zero_iff (a : UInt16) : a.toUInt32 &&& 1 = 0 ↔ a.toNat % 2 = 0 := by
  rw [← UInt32.toNat_inj, UInt32.toNat_and, UInt16.toNat_toUInt32]
  exact Nat.and_two_pow_sub_one_eq_mod a.toNat 1 ▸ Iff.rfl

/-- **The router's test**: an odd address passes only when the filter's address has
all the bits of its mask. -/
theorem passesFilter_recordOf {config : Config} {f : Filter} {network : Network} {m : Message}
    {id : ℕ} : passesFilter m network (recordOf config f id) = true ↔
      (m.address.toNat % 2 = 0 ∨ f.address &&& f.mask = f.mask) ∧
        ∀ d ∈ (recordOf config f id).device, d.id = m.deviceId ∧ d.networkName = network.name := by
  have hsame : (recordOf config f id).addressMask = (recordOf config f id).address ↔
      f.address &&& f.mask = f.mask := by
    rw [recordOf, UInt16.toUInt32_inj, eq_comm]
  have haddress : m.address.toUInt32 &&&
      (if (recordOf config f id).addressMask ≠ (recordOf config f id).address then 1 else 0) ≠ 0 ↔
      ¬ (m.address.toNat % 2 = 0 ∨ f.address &&& f.mask = f.mask) := by
    -- the comparison binds tighter than the mask, so only the last bit of the address counts
    rw [← hsame, ← and_one_eq_zero_iff]
    by_cases hmask : (recordOf config f id).addressMask = (recordOf config f id).address
    · rw [if_neg (not_not.mpr hmask), UInt32.and_zero]
      simp [hmask]
    · rw [if_pos hmask]
      simp [hmask]
  rw [passesFilter]
  by_cases hpass : m.address.toNat % 2 = 0 ∨ f.address &&& f.mask = f.mask
  · rw [if_neg (fun h => haddress.mp h hpass), and_iff_right hpass]
    cases (recordOf config f id).device with
    | none => simp
    | some d => simp
  · rw [if_pos (haddress.mpr hpass)]
    simp [hpass]

/-! ### Agreement -/

/-- **The two ends agree on a message**: the router has a record for the filter, and
its test says what the dispatcher's says. -/
def Agree (config : Config) (s : State) (f : Filter) (id : ℕ) (unset : Bool) (network : Network)
    (m : Message) : Prop :=
  ∃ r, Installed config s f id unset r ∧
    (passesFilter m network r = true ↔ Wanted config f network m)

/-- When the router's test on the address comes out as the dispatcher's: it accepts
even addresses, and filters whose address has all the bits of its mask. -/
def AddressTestsAgree (f : Filter) (m : Message) : Prop :=
  if f.matchesAddress m.address = true then m.address.toNat % 2 = 0 ∨ f.address &&& f.mask = f.mask
  else m.address.toNat % 2 = 1 ∧ f.address &&& f.mask ≠ f.mask

/-- **When the two ends agree**: the client can write the device's name, and the
filter is for another device or the address tests come out the same. -/
theorem agree_iff {config : Config} (hc : config.DistinctIds) {f : Filter} (hf : Known config f)
    (s : State) (id : ℕ) (unset : Bool) (network : Network) (m : Message) :
    Agree config s f id unset network m ↔ checkString f.device = true ∧
      (¬ ForSender config f network m ∨ AddressTestsAgree f m) := by
  have htests : (passesFilter m network (recordOf config f id) = true ↔ Wanted config f network m)
      ↔ ¬ ForSender config f network m ∨ AddressTestsAgree f m := by
    rw [passesFilter_recordOf, ← forSender_iff hc hf, Wanted, AddressTestsAgree]
    by_cases hsender : ForSender config f network m
    · simp only [hsender, and_true, true_and, not_true_eq_false, false_or]
      have hodd : m.address.toNat % 2 = 1 ↔ ¬ m.address.toNat % 2 = 0 := by omega
      split
      · next h => rw [iff_true_intro h, iff_true]
      · next h => rw [iff_false_intro h, iff_false, not_or, hodd]
    · simp [hsender]
  constructor
  · rintro ⟨r, hinstalled, hr⟩
    obtain ⟨hcheck, rfl⟩ := (installed_iff hf).mp hinstalled
    exact ⟨hcheck, htests.mp hr⟩
  · rintro ⟨hcheck, h⟩
    exact ⟨_, (installed_iff hf).mpr ⟨hcheck, rfl⟩, htests.mpr h⟩

/-- A filter for one address of the device. -/
def sampleFilter : Filter := ⟨"lamp".toList, 0x0102, 0xffff, 0⟩

/-- A value from an address of the device. -/
def sampleMessage (address : UInt16) : Message := ⟨.data, 5, address, Body.single 0x01⟩

/-- The two ends agree on the value from the even address the filter is for. -/
theorem agree_even :
    Known sampleConfig sampleFilter ∧
      Agree sampleConfig (sampleState SocketConnection.fresh.subscribe) sampleFilter 1 true
        sampleNetwork (sampleMessage 0x0102) :=
  ⟨Or.inr (by decide), (agree_iff distinctIds_sampleConfig (Or.inr (by decide)) _ 1 true _ _).mpr
    ⟨by decide, Or.inr (by unfold AddressTestsAgree; decide)⟩⟩

/-- The client wants the value from the odd address of its filter, and the router
withholds it. -/
theorem wanted_value_withheld :
    Known sampleConfig { sampleFilter with address := 0x0101 } ∧ sampleConfig.DistinctIds ∧
      ¬ Agree sampleConfig (sampleState SocketConnection.fresh.subscribe)
        { sampleFilter with address := 0x0101 } 1 true sampleNetwork (sampleMessage 0x0101) := by
  have hknown : Known sampleConfig { sampleFilter with address := 0x0101 } := Or.inr (by decide)
  refine ⟨hknown, distinctIds_sampleConfig, ?_⟩
  rintro ⟨r, hinstalled, hr⟩
  obtain ⟨-, rfl⟩ := (installed_iff hknown).mp hinstalled
  have hwanted : Wanted sampleConfig { sampleFilter with address := 0x0101 } sampleNetwork
      (sampleMessage 0x0101) := ⟨Or.inr (by decide), by decide⟩
  exact absurd (hr.mpr hwanted) (by decide)

end FilterLink
end HomeAutomation
