import HomeAutomation.Router.Answers

/-!
# Addresses and masks in commands

The commands of a client carry addresses and masks as text.  `get_argument` reads such a
text with a stream, and asks the stream only for `bad()`, which a failed or a partial
conversion never sets.  So a text that is no number is read as zero, one that only begins
with a number as that number, and a minus sign turns the number around.

What such a text is read as may still lie outside the range that `handle_send` and
`handle_filter` check, and then the command is rejected.  `handle_filter` takes the largest
value for an argument that is not there, and looks at neither argument then.

## Main definitions

* `plainNumber` — the number of sixteen bits that a text is as a whole.
* `TooLarge`, `Void` — texts that are read as a number out of range, or as no argument.
* `SendSound`, `FilterSound` — a command with a malformed argument fails, and one with a
  plain number uses it.

## Main results

* `tooLarge_iff`, `void_iff` — what the texts are read as.
* `sendSound_iff`, `filterSound_iff` — when the two handlers are sound.
* `numericArguments_iff` — both of them, in every reachable state.

## References

`router/Router.cpp`, `common/source/proto/Message.cpp`.
-/

namespace HomeAutomation
namespace Router

open Hex

/-! ### What a text is read as -/

/-- The number that a text is as a whole, if sixteen bits hold it. -/
def plainNumber (text : Text) : Option ℕ := (wholeNumber text).filter fun v => v ≤ 0xffff

/-- The text is read as a number above the range: it is empty, or its digits are such a
number, or they are a number behind a minus sign that does not come round to a small one. -/
def TooLarge (text : Text) : Prop :=
  text = [] ∨ ∃ v, scanHex text = some (false, v) ∧ 0xffff < v ∨
    scanHex text = some (true, v) ∧ 0 < v ∧ (v < 2 ^ 32 - 0xffff ∨ 2 ^ 32 ≤ v)

/-- The text is read as the value that stands for no argument. -/
def Void (text : Text) : Prop :=
  text = [] ∨ ∃ v, scanHex text = some (false, v) ∧ 2 ^ 32 - 1 ≤ v ∨
    scanHex text = some (true, v) ∧ (v = 1 ∨ 2 ^ 32 ≤ v)

/-- What the handlers get for a text. -/
def numberRead (text : Text) : ℕ :=
  if text = [] then 2 ^ 32 - 1 else (istreamHex 32 text).2

theorem plainNumber_eq_some_iff {text : Text} {v : ℕ} :
    plainNumber text = some v ↔ wholeNumber text = some v ∧ v ≤ 0xffff := by
  simp [plainNumber, Option.filter_eq_some_iff]

theorem numberRead_of_plain {text : Text} {v : ℕ} (h : plainNumber text = some v) :
    numberRead text = v ∧ v ≤ 0xffff := by
  obtain ⟨hwhole, hle⟩ := plainNumber_eq_some_iff.mp h
  have hne : text ≠ [] := (wholeNumber_eq_some_iff.mp hwhole).1
  rw [numberRead, if_neg hne, istreamHex_of_wholeNumber hwhole (by omega)]
  exact ⟨rfl, hle⟩

theorem unsignedOf_neg (v : ℕ) : unsignedOf 32 (true, v) =
    if 2 ^ 32 ≤ v then 2 ^ 32 - 1 else if v = 0 then 0 else 2 ^ 32 - v := by
  rw [unsignedOf]
  split
  · rfl
  · rw [if_pos rfl]
    split
    · next hv => rw [hv]; rfl
    · exact Nat.mod_eq_of_lt (by omega)

/-- **What a text that is not empty is read as**, by its sign and its digits. -/
theorem numberRead_cases {text : Text} (hne : text ≠ []) :
    (scanHex text = none ∧ numberRead text = 0) ∨
    (∃ v, scanHex text = some (false, v) ∧
      numberRead text = if 2 ^ 32 ≤ v then 2 ^ 32 - 1 else v) ∨
    ∃ v, scanHex text = some (true, v) ∧
      numberRead text = if 2 ^ 32 ≤ v then 2 ^ 32 - 1 else if v = 0 then 0 else 2 ^ 32 - v := by
  rw [numberRead, if_neg hne, istreamHex]
  cases hscan : scanHex text with
  | none => exact Or.inl ⟨rfl, rfl⟩
  | some r =>
    obtain ⟨neg, v⟩ := r
    cases neg with
    | false => exact Or.inr (Or.inl ⟨v, rfl, rfl⟩)
    | true => exact Or.inr (Or.inr ⟨v, rfl, unsignedOf_neg v⟩)

/-- **The texts that are read as a number out of range.** -/
theorem tooLarge_iff {text : Text} : TooLarge text ↔ 0xffff < numberRead text := by
  by_cases hne : text = []
  · rw [numberRead, if_pos hne]
    exact iff_of_true (Or.inl hne) (by decide)
  rw [TooLarge, or_iff_right hne]
  obtain ⟨hscan, hread⟩ | ⟨v, hscan, hread⟩ | ⟨v, hscan, hread⟩ := numberRead_cases hne
  · rw [hread]
    simp [hscan]
  · have : 0xffff < numberRead text ↔ 0xffff < v := by
      rw [hread]
      split <;> omega
    simp [hscan, this]
  · have : 0xffff < numberRead text ↔ 0 < v ∧ (v < 2 ^ 32 - 0xffff ∨ 2 ^ 32 ≤ v) := by
      rw [hread]
      split
      · omega
      · split <;> omega
    rw [this]
    simp [hscan]

/-- **The texts that are read as no argument.** -/
theorem void_iff {text : Text} : Void text ↔ numberRead text = 2 ^ 32 - 1 := by
  by_cases hne : text = []
  · rw [numberRead, if_pos hne]
    exact iff_of_true (Or.inl hne) rfl
  rw [Void, or_iff_right hne]
  obtain ⟨hscan, hread⟩ | ⟨v, hscan, hread⟩ | ⟨v, hscan, hread⟩ := numberRead_cases hne
  -- the text does not begin with a number
  · rw [hread]
    simp [hscan]
  -- the number without a sign is cut at the largest
  · have : numberRead text = 2 ^ 32 - 1 ↔ 2 ^ 32 - 1 ≤ v := by
      rw [hread]
      split <;> omega
    rw [this]
    simp [hscan]
  -- with a minus sign the number is taken from the largest
  · have : numberRead text = 2 ^ 32 - 1 ↔ v = 1 ∨ 2 ^ 32 ≤ v := by
      rw [hread]
      split
      · omega
      · split <;> omega
    rw [this]
    simp [hscan]

namespace State

variable {command : ServiceCommand} {key text : Text}

/-- An argument that is there is read as its text says. -/
theorem getArgumentUnsigned_find (h : command.arguments.find key = some text) :
    (command.getArgumentUnsigned key invalidValue).toNat = numberRead text := by
  have hlt := istreamHex_lt 32 text
  rw [ServiceCommand.getArgumentUnsigned, ServiceCommand.getArgument, h, Option.getD_some,
    numberRead]
  split
  · rfl
  · rw [UInt32.toNat_ofNat']
    exact Nat.mod_eq_of_lt hlt

theorem getArgumentUnsigned_none (h : command.arguments.find key = none) (d : UInt32) :
    command.getArgumentUnsigned key d = d := by
  rw [ServiceCommand.getArgumentUnsigned, ServiceCommand.getArgument, h]
  rfl

/-! ### Sending -/

/-- **A send or query command is sound**: with a malformed address it fails and queues
nothing, and with a plain one a message that is queued is for that address, and so is the
filter for its reply. -/
structure SendSound (config : Config) (s : State) (command : ServiceCommand) (connectionId : ℕ)
    (type : MessageType) : Prop where
  rejected : ∀ text, command.arguments.find "address".toList = some text →
    plainNumber text = none → s.handleSend config command connectionId type = .ok (s, false)
  exact : ∀ text v, command.arguments.find "address".toList = some text →
    plainNumber text = some v →
    ∀ s', s.handleSend config command connectionId type = .ok (s', true) →
      ∃ record, s' = s.enqueue record ∧ record.message.address.toNat = v ∧
        (type = .request → record.responseFilter.address.toNat = v)

/-- The command is acceptable but for its address: its device is configured, the network of
it is connected, and a value has data of at most eight bytes. -/
def Sendable (config : Config) (s : State) (command : ServiceCommand) (type : MessageType) : Prop :=
  ∃ device network, config.findDevice (command.getArgument "device".toList) = some device ∧
    s.Connected device network ∧
    (type = .data → ∃ data, command.getRawArgument "data".toList = some data ∧ data.length ≤ 8)

/-- The message carries the address as sixteen bits. -/
theorem address_of_sendMessage {type : MessageType} {device : Device} {address : UInt32}
    {message : Message} (h : sendMessage command type device address = some message) :
    message.address = address.toUInt16 := by
  unfold sendMessage at h
  cases type with
  | request =>
    cases h
    rfl
  | data =>
    dsimp only at h
    split at h
    · cases h
    · split at h
      · cases h
        rfl
      · cases h

/-- A message is built exactly when a value has its data. -/
theorem exists_sendMessage_iff {type : MessageType} {device : Device} {address : UInt32} :
    (∃ message, sendMessage command type device address = some message) ↔
      (type = .data →
        ∃ data, command.getRawArgument "data".toList = some data ∧ data.length ≤ 8) := by
  unfold sendMessage
  cases type with
  -- a request has no body
  | request => exact iff_of_true ⟨_, rfl⟩ nofun
  | data =>
    dsimp only
    split
    -- the body is missing, or no text of bytes
    · next hnone =>
      refine iff_of_false (fun h => by obtain ⟨_, h⟩ := h; cases h) fun h => ?_
      obtain ⟨data, hdata, -⟩ := h rfl
      cases hnone.symm.trans hdata
    · next data hdata =>
      split
      · next hlength => exact iff_of_true ⟨_, rfl⟩ fun _ => ⟨data, hdata, hlength⟩
      -- the body is too long for a message
      · next hlength =>
        refine iff_of_false (fun h => by obtain ⟨_, h⟩ := h; cases h) fun h => ?_
        obtain ⟨data', hdata', hlength'⟩ := h rfl
        cases hdata.symm.trans hdata'
        exact hlength hlength'

/-- A message is queued exactly when the text of the address is read as one in range, and the
command is acceptable otherwise. -/
theorem handleSend_eq_true_iff {config : Config} {s : State} {connectionId : ℕ}
    {type : MessageType} (h : command.arguments.find "address".toList = some text) :
    (∃ s', s.handleSend config command connectionId type = .ok (s', true)) ↔
      ¬ TooLarge text ∧ Sendable config s command type := by
  have hrange : command.getArgumentUnsigned "address".toList invalidValue ≤ 0xffff ↔
      ¬ TooLarge text := by
    rw [tooLarge_iff, ← getArgumentUnsigned_find h, UInt32.le_iff_toNat_le, Nat.not_lt]
    rfl
  constructor
  · rintro ⟨s', hsend⟩
    obtain hsend | ⟨device, network, message, hdevice, hfind, hconnected, haddress, hmessage, -⟩ :=
      handleSend_cases hsend
    · cases hsend
    · exact ⟨hrange.mp haddress, device, network, hdevice, ⟨hfind, hconnected⟩,
        exists_sendMessage_iff.mp ⟨message, hmessage⟩⟩
  · rintro ⟨hnot, device, network, hdevice, hconnected, hdata⟩
    obtain ⟨message, hmessage⟩ := exists_sendMessage_iff.mpr hdata
    rw [handleSend_eq command hdevice hconnected (hrange.mpr hnot), hmessage]
    exact ⟨_, rfl⟩

/-- **When a send or query command is sound**: its address is a plain number, or a text that
is read as one out of range, or the command is unacceptable otherwise. -/
theorem sendSound_iff {config : Config} {s : State} (hs : Registered config s)
    (command : ServiceCommand) (connectionId : ℕ) (type : MessageType) :
    SendSound config s command connectionId type ↔
      ∀ text, command.arguments.find "address".toList = some text → plainNumber text = none →
        TooLarge text ∨ ¬ Sendable config s command type := by
  -- a text that is no number and is queued all the same
  constructor
  · intro h text hfind hplain
    by_contra hnot
    obtain ⟨hlarge, hsendable⟩ := not_or.mp hnot
    obtain ⟨s', hsend⟩ :=
      (handleSend_eq_true_iff hfind).mpr ⟨hlarge, not_not.mp hsendable⟩
    cases (h.rejected text hfind hplain).symm.trans hsend
  · intro h
    refine ⟨fun text hfind hplain => ?_, fun text v hfind hplain s' hsend => ?_⟩
    · -- the handler returns, and what it has queued would be in range
      obtain ⟨r, hsend⟩ := handleSend_returns hs command connectionId type
      obtain rfl | ⟨_, _, _, _, _, _, _, _, rfl⟩ := handleSend_cases hsend
      · exact hsend
      · obtain ⟨hlarge, hsendable⟩ := (handleSend_eq_true_iff hfind).mp ⟨_, hsend⟩
        exact absurd ((h text hfind hplain).resolve_left hlarge) (not_not_intro hsendable)
    -- a number is read as it is, and in range where the message was queued
    · obtain ⟨hread, hle⟩ := numberRead_of_plain hplain
      have hvalue := getArgumentUnsigned_find hfind
      rw [hread] at hvalue
      obtain hsend | ⟨device, network, message, -, -, -, -, hmessage, hsend⟩ :=
        handleSend_cases hsend
      · cases hsend
      · cases hsend
        refine ⟨_, rfl, ?_, ?_⟩
        · dsimp only
          rw [address_of_sendMessage hmessage, UInt32.toNat_toUInt16, hvalue]
          exact Nat.mod_eq_of_lt (Nat.lt_succ_of_le hle)
        · rintro rfl
          exact hvalue

/-! ### Filters -/

/-- **A filter command is sound**: with a malformed address or mask it fails and installs
nothing, and with plain ones a filter that is installed has the mask and the masked
address. -/
structure FilterSound (config : Config) (s : State) (command : ServiceCommand) (connectionId : ℕ)
    (unset : Bool) : Prop where
  rejected : ∀ key ∈ ["address".toList, "mask".toList], ∀ text,
    command.arguments.find key = some text → plainNumber text = none →
      s.handleFilter config command connectionId unset = (s, false)
  exact : ∀ a v m w, command.arguments.find "address".toList = some a → plainNumber a = some v →
    command.arguments.find "mask".toList = some m → plainNumber m = some w →
    ∀ filter, (s.handleFilter config command connectionId unset).1.filters = s.filters ++ [filter] →
      filter.address.toNat = v &&& w ∧ filter.addressMask.toNat = w

/-- The handler refuses the filter: its device is unknown, or the address and the mask are
both read as numbers, one of them out of range. -/
def Refused (config : Config) (command : ServiceCommand) : Prop :=
  (command.getArgument "device".toList ≠ [] ∧
    config.findDevice (command.getArgument "device".toList) = none) ∨
  ∃ a m, command.arguments.find "address".toList = some a ∧
    command.arguments.find "mask".toList = some m ∧ ¬ Void a ∧ ¬ Void m ∧
    (TooLarge a ∨ TooLarge m)

theorem given_iff : command.getArgumentUnsigned key invalidValue ≠ invalidValue ↔
    ∃ text, command.arguments.find key = some text ∧ ¬ Void text := by
  cases hfind : command.arguments.find key with
  | none => simp [getArgumentUnsigned_none hfind]
  | some text =>
    have hnot : command.getArgumentUnsigned key invalidValue ≠ invalidValue ↔ ¬ Void text := by
      rw [void_iff, ← getArgumentUnsigned_find hfind, Ne, ← UInt32.toNat_inj]
      rfl
    rw [hnot]
    simp

theorem large_iff (h : command.arguments.find key = some text) :
    command.getArgumentUnsigned key invalidValue > 0xffff ↔ TooLarge text := by
  rw [tooLarge_iff, ← getArgumentUnsigned_find h, gt_iff_lt, UInt32.lt_iff_toNat_lt]
  rfl

theorem filterAddress_eq_none_iff (filter : FilterRecord) :
    filterAddress command filter = none ↔
      ∃ a m, command.arguments.find "address".toList = some a ∧
        command.arguments.find "mask".toList = some m ∧ ¬ Void a ∧ ¬ Void m ∧
        (TooLarge a ∨ TooLarge m) := by
  unfold filterAddress
  dsimp only
  constructor
  · intro h
    split at h
    · next hgiven =>
      split at h
      · next hlarge =>
        obtain ⟨a, ha, hav⟩ := given_iff.mp hgiven.1
        obtain ⟨m, hm, hmv⟩ := given_iff.mp hgiven.2
        rw [large_iff ha, large_iff hm] at hlarge
        exact ⟨a, m, ha, hm, hav, hmv, hlarge⟩
      · cases h
    · cases h
  · rintro ⟨a, m, ha, hm, hav, hmv, hlarge⟩
    rw [if_pos ⟨given_iff.mpr ⟨a, ha, hav⟩, given_iff.mpr ⟨m, hm, hmv⟩⟩, if_pos]
    rwa [large_iff ha, large_iff hm]

theorem filterRecord_eq_none_iff {config : Config} (connectionId : ℕ) :
    filterRecord config command connectionId = none ↔ Refused config command := by
  have hdevice : filterDevice config command (FilterRecord.create connectionId) = none ↔
      command.getArgument "device".toList ≠ [] ∧
        config.findDevice (command.getArgument "device".toList) = none := by
    unfold filterDevice
    dsimp only
    split
    · next hnil => exact iff_of_false nofun fun h => h.1 hnil
    · next hne => rw [Option.map_eq_none_iff, and_iff_right hne]
  rw [Refused, ← hdevice, filterRecord]
  cases hfilter : filterDevice config command (FilterRecord.create connectionId) with
  | none => exact iff_of_true rfl (Or.inl rfl)
  | some filter =>
    rw [or_iff_right nofun, ← filterAddress_eq_none_iff filter]
    dsimp only [Option.bind_eq_bind, Option.bind_some]
    cases filterAddress command filter with
    | none => exact iff_of_true rfl rfl
    | some filter' => exact iff_of_false nofun nofun

/-- The handler leaves everything alone exactly when it refuses the filter. -/
theorem handleFilter_eq_self_iff {config : Config} {s : State} {connectionId : ℕ} {unset : Bool} :
    s.handleFilter config command connectionId unset = (s, false) ↔ Refused config command := by
  rw [← filterRecord_eq_none_iff connectionId, handleFilter]
  cases filterRecord config command connectionId with
  | none => simp
  | some filter =>
    refine iff_of_false (fun h => ?_) (by simp)
    have := congrArg (fun r : State × Bool => r.1.filters.length) h
    simp at this

/-- The options of a filter leave its address and its mask alone. -/
theorem filterOptions_frame (command : ServiceCommand) (filter : FilterRecord) :
    (filterOptions command filter).address = filter.address ∧
      (filterOptions command filter).addressMask = filter.addressMask := by
  unfold filterOptions
  split <;> exact ⟨rfl, rfl⟩

/-- A filter for a plain address and a plain mask has the masked address. -/
theorem filterAddress_of_plain {filter filter' : FilterRecord} {a m : Text} {v w : ℕ}
    (ha : command.arguments.find "address".toList = some a) (hv : plainNumber a = some v)
    (hm : command.arguments.find "mask".toList = some m) (hw : plainNumber m = some w)
    (h : filterAddress command filter = some filter') :
    filter'.address.toNat = v &&& w ∧ filter'.addressMask.toNat = w := by
  obtain ⟨haread, hale⟩ := numberRead_of_plain hv
  obtain ⟨hmread, hmle⟩ := numberRead_of_plain hw
  -- a number is not what stands for a missing argument
  have havoid : ¬ Void a := by
    rw [void_iff, haread]
    omega
  have hmvoid : ¬ Void m := by
    rw [void_iff, hmread]
    omega
  unfold filterAddress at h
  dsimp only at h
  rw [if_pos ⟨given_iff.mpr ⟨a, ha, havoid⟩, given_iff.mpr ⟨m, hm, hmvoid⟩⟩] at h
  -- a mask out of range refuses the filter
  split at h
  · cases h
  · cases h
    dsimp only
    rw [UInt32.toNat_and, getArgumentUnsigned_find ha, getArgumentUnsigned_find hm, haread, hmread]
    exact ⟨rfl, rfl⟩

/-- The filter that is built for a plain address and a plain mask. -/
theorem filterRecord_of_plain {config : Config} {connectionId : ℕ} {filter : FilterRecord}
    {a m : Text} {v w : ℕ} (ha : command.arguments.find "address".toList = some a)
    (hv : plainNumber a = some v) (hm : command.arguments.find "mask".toList = some m)
    (hw : plainNumber m = some w) (h : filterRecord config command connectionId = some filter) :
    filter.address.toNat = v &&& w ∧ filter.addressMask.toNat = w := by
  obtain ⟨f, -, h⟩ := Option.bind_eq_some_iff.mp h
  obtain ⟨g, haddress, h⟩ := Option.bind_eq_some_iff.mp h
  cases h
  rw [(filterOptions_frame command g).1, (filterOptions_frame command g).2]
  exact filterAddress_of_plain ha hv hm hw haddress

/-- **When a filter command is sound**: its address and its mask are plain numbers, or the
handler refuses the filter. -/
theorem filterSound_iff (config : Config) (s : State) (command : ServiceCommand)
    (connectionId : ℕ) (unset : Bool) :
    FilterSound config s command connectionId unset ↔
      ∀ key ∈ ["address".toList, "mask".toList], ∀ text,
        command.arguments.find key = some text → plainNumber text = none →
          Refused config command := by
  constructor
  · intro h key hkey text hfind hplain
    exact handleFilter_eq_self_iff.mp (h.rejected key hkey text hfind hplain)
  · intro h
    refine ⟨fun key hkey text hfind hplain =>
      handleFilter_eq_self_iff.mpr (h key hkey text hfind hplain), ?_⟩
    intro a v m w ha hv hm hw filter hfilters
    unfold handleFilter at hfilters
    split at hfilters
    · simp at hfilters
    · next hrecord =>
      obtain rfl := List.singleton_inj.mp (List.append_cancel_left hfilters)
      exact filterRecord_of_plain ha hv hm hw hrecord

/-! ### Every command -/

/-- **When the handlers reject malformed numbers and use plain ones**: in every reachable
state, a send or query command does exactly when its address is plain, or read as a number
out of range, or not all of it is acceptable otherwise; and a filter command exactly when its
address and mask are plain, or the filter is refused. -/
theorem numericArguments_iff {config : Config} {s : State} (hs : ReachableState config s)
    (command : ServiceCommand) (connectionId : ℕ) :
    (∀ type, SendSound config s command connectionId type ↔
      ∀ text, command.arguments.find "address".toList = some text → plainNumber text = none →
        TooLarge text ∨ ¬ Sendable config s command type) ∧
    ∀ unset, FilterSound config s command connectionId unset ↔
      ∀ key ∈ ["address".toList, "mask".toList], ∀ text,
        command.arguments.find key = some text → plainNumber text = none →
          Refused config command :=
  ⟨fun type => sendSound_iff (registered_of_reachable hs) command connectionId type,
    fun unset => filterSound_iff config s command connectionId unset⟩

/-- The sample query is sound, and a filter without numbers too. -/
theorem numericArguments_sample :
    SendSound sampleConfig (sampleState SocketConnection.fresh.subscribe) sampleQuery 1 .request ∧
      FilterSound sampleConfig (sampleState SocketConnection.fresh.subscribe) sampleFilterCommand 1
        true := by
  refine ⟨((numericArguments_iff reachableState_sample sampleQuery 1).1 .request).mpr ?_,
    ((numericArguments_iff reachableState_sample sampleFilterCommand 1).2 true).mpr ?_⟩
  · rintro text hfind hplain
    cases hfind
    cases hplain
  · rintro key - text hfind
    cases hfind

/-- A query with a slip of the pen in its address. -/
def misspeltQuery : ServiceCommand :=
  ⟨"query".toList, (OrderedMap.empty.insert "device".toList "lamp".toList).insert
    "address".toList "12zz".toList⟩

/-- A filter with a slip of the pen in its address. -/
def misspeltFilter : ServiceCommand :=
  ⟨"filter".toList, (OrderedMap.empty.insert "address".toList "12zz".toList).insert
    "mask".toList "ffff".toList⟩

/-- The query is queued for the address 12, and the filter is installed. -/
theorem misspelt_accepted :
    ReachableState sampleConfig (sampleState SocketConnection.fresh.subscribe) ∧
    Received misspeltQuery ∧ Received misspeltFilter ∧
    ¬ SendSound sampleConfig (sampleState SocketConnection.fresh.subscribe) misspeltQuery 1
      .request ∧
    ¬ FilterSound sampleConfig (sampleState SocketConnection.fresh.subscribe) misspeltFilter 1
      true := by
  refine ⟨reachableState_sample, received_of_writable ?_, received_of_writable ?_, fun h => ?_,
    fun h => ?_⟩
  · exact ((ServiceCommand.writable_create (by decide) (by decide)).insert "device".toList
      (by decide) (by decide) (by decide)).insert "address".toList (by decide) (by decide)
      (by decide)
  · exact ((ServiceCommand.writable_create (by decide) (by decide)).insert "address".toList
      (by decide) (by decide) (by decide)).insert "mask".toList (by decide) (by decide)
      (by decide)
  · have hrejected := h.rejected "12zz".toList rfl rfl
    cases hrejected
  · have hrejected := h.rejected "address".toList (by decide) "12zz".toList rfl rfl
    cases hrejected

end State

end Router
end HomeAutomation
