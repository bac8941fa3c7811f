import HomeAutomation.Proto.RoundTrip

/-!
# The lines of messages

A line names a device and an address, and then has a mark and the bytes of a value.  The
parser looks for the fields one after the other and reads the two numbers from windows of
two and four characters behind their names.  It checks that the fields are there and that
the bytes are well formed; what stands in the windows it does not check.

It assigns each field as soon as it has read it, so an object whose parser throws may have
changed.

## Main definitions

* `deviceWindow`, `addressWindow`, `markPos` — where the parser looks.
* `Complete` — a line with all its fields.
* `NeverInvents` — the numbers of an accepted line stand in its windows.
* `Atomic` — a parser that throws leaves its object alone.

## Main results

* `outcome_deserialize` — how the parser ends, by what is missing.
* `create_serialize` — messages come back from their lines.
* `neverInvents_iff` — when the numbers stand in the line.
* `DeviceInit.codec_iff` — the codec of device initialisations.
* `atomic_iff` — which parsers leave their object alone when they throw.

## References

`common/source/proto/Message.cpp`.
-/

namespace HomeAutomation

open Hex Str

namespace Message

/-! ### The fields of a line -/

/-- Where the device field begins. -/
def devicePos (line : Text) : Option ℕ := find "dev:".toList line 0

/-- Where the address field behind it begins. -/
def addressPos (line : Text) : Option ℕ :=
  (devicePos line).bind fun pos => find "addr:".toList line (pos + 4)

/-- Where the mark of the body stands. -/
def markPos (line : Text) : Option ℕ :=
  (addressPos line).bind fun pos =>
    findFirstOf (fun c => c == '?' || c == ':') line (pos + 5 + 4)

/-- The two characters behind `dev:`. -/
def deviceWindow (line : Text) : Option Text :=
  (devicePos line).map fun pos => substr line (pos + 4) 2

/-- The four characters behind `addr:`. -/
def addressWindow (line : Text) : Option Text :=
  (addressPos line).map fun pos => substr line (pos + 5) 4

/-- The number of digits behind the mark. -/
def bodyLength (line : Text) (pos : ℕ) : ℕ :=
  (findFirstNotOf isHex line (pos + 1)).getD line.length - (pos + 1)

/-- The mark asks for a value, or whole bytes stand behind it, and not too many. -/
def HasBody (s : Text) (pos : ℕ) : Prop :=
  s[pos]? = some '?' ∨ bodyLength s pos % 2 = 0 ∧ bodyLength s pos / 2 ≤ 8

instance (s : Text) (pos : ℕ) : Decidable (HasBody s pos) :=
  inferInstanceAs (Decidable (_ ∨ _))

/-- **A line with all its fields.** -/
def Complete (line : Text) : Prop := ∃ pos ∈ markPos line, HasBody line pos

/-- The device id that a window is read as. -/
def readDeviceId (window : Text) : UInt8 := UInt8.ofNat (istreamHex 32 window).2

/-- The address that a window is read as, into a message that has an address. -/
def readAddress (window : Text) (old : UInt16) : UInt16 :=
  UInt16.ofNat (istreamHexOnto 16 window old.toNat)

/-! ### How the parser ends -/

/-- **How the parser ends**, by what is missing of the line. -/
inductive Outcome (m : Message) (line : Text) : Message × Except Exception Unit → Prop
  | noDevice {what : String} (hdevice : deviceWindow line = none) :
      Outcome m line (m, .error (.invalidArgument what))
  | noAddress {what : String} {w : Text} (hdevice : deviceWindow line = some w)
      (haddress : addressWindow line = none) :
      Outcome m line ({ m with deviceId := readDeviceId w }, .error (.invalidArgument what))
  | noMark {what : String} {w a : Text} (hdevice : deviceWindow line = some w)
      (haddress : addressWindow line = some a) (hmark : markPos line = none) :
      Outcome m line (⟨m.type, readDeviceId w, readAddress a m.address, m.body⟩,
        .error (.invalidArgument what))
  | badBody {what : String} {w a : Text} {pos : ℕ} (hdevice : deviceWindow line = some w)
      (haddress : addressWindow line = some a) (hmark : markPos line = some pos)
      (hbody : ¬ HasBody line pos) :
      Outcome m line (⟨.data, readDeviceId w, readAddress a m.address, Body.nil⟩,
        .error (.invalidArgument what))
  | accepted {w a : Text} {pos : ℕ} {type : MessageType} {body : Body}
      (hdevice : deviceWindow line = some w) (haddress : addressWindow line = some a)
      (hmark : markPos line = some pos) (hbody : HasBody line pos) :
      Outcome m line (⟨type, readDeviceId w, readAddress a m.address, body⟩, .ok ())

theorem outcome_deserialize (m : Message) (line : Text) : Outcome m line (m.deserialize line) := by
  unfold deserialize
  cases hdevice : find "dev:".toList line 0 with
  | none => exact .noDevice (by rw [deviceWindow, devicePos, hdevice]; rfl)
  | some pos =>
    have hwindow : deviceWindow line = some (substr line (pos + 4) 2) := by
      rw [deviceWindow, devicePos, hdevice]
      rfl
    have hpos : addressPos line = find "addr:".toList line (pos + 4) := by
      rw [addressPos, devicePos, hdevice]
      rfl
    dsimp only
    cases haddress : find "addr:".toList line (pos + 4) with
    | none => exact .noAddress hwindow (by rw [addressWindow, hpos, haddress]; rfl)
    | some pos' =>
      have hwindow' : addressWindow line = some (substr line (pos' + 5) 4) := by
        rw [addressWindow, hpos, haddress]
        rfl
      have hmarkPos : markPos line
          = findFirstOf (fun c => c == '?' || c == ':') line (pos' + 5 + 4) := by
        rw [markPos, hpos, haddress]
        rfl
      dsimp only
      cases hmark : findFirstOf (fun c => c == '?' || c == ':') line (pos' + 5 + 4) with
      | none => exact .noMark hwindow hwindow' (hmarkPos.trans hmark)
      | some mark =>
        dsimp only
        split
        · next hrequest => exact .accepted hwindow hwindow' (hmarkPos.trans hmark) (Or.inl hrequest)
        · next hrequest =>
          split
          · next hbad =>
            refine .badBody hwindow hwindow' (hmarkPos.trans hmark) ?_
            rintro (h | ⟨heven, hshort⟩)
            · exact hrequest h
            · unfold bodyLength at heven hshort
              omega
          · next hgood =>
            refine .accepted hwindow hwindow' (hmarkPos.trans hmark) (Or.inr ?_)
            unfold bodyLength
            omega

/-! ### Messages come back -/

/-- A line with the texts of a device and of an address, and what follows them. -/
def fieldLine (d a tail : Text) : Text :=
  "dev:".toList ++ (d ++ ("  ".toList ++ ("addr:".toList ++ (a ++ tail))))

section FieldLine

variable {d a : Text} (hd : d.length = 2) (ha : a.length = 4) (tail : Text)

theorem find_device_fieldLine : find "dev:".toList (fieldLine d a tail) 0 = some 0 :=
  (find_eq_zero_iff (by decide)).mpr ⟨_, rfl⟩

include hd

/-- The address field is not found before its place, whatever the device id. -/
theorem find_address_fieldLine :
    find "addr:".toList (fieldLine d a tail) (0 + 4) = some 8 := by
  obtain ⟨x, y, rfl⟩ := List.length_eq_two.mp hd
  simp [find, fieldLine, indexOf]

theorem substr_device_fieldLine : substr (fieldLine d a tail) (0 + 4) 2 = d := by
  have := substr_append "dev:".toList d ("  ".toList ++ ("addr:".toList ++ (a ++ tail)))
  rw [hd] at this
  exact this

include ha

theorem substr_address_fieldLine : substr (fieldLine d a tail) (8 + 5) 4 = a := by
  have := substr_append ("dev:".toList ++ d ++ "  addr:".toList) a tail
  rw [ha, List.length_append, List.length_append, hd] at this
  simpa [fieldLine] using this

theorem drop_fieldLine : (fieldLine d a tail).drop (8 + 5 + 4) = tail := by
  simp [fieldLine, List.drop_append, hd, ha]

/-- The mark is looked for behind the address. -/
theorem find_mark_fieldLine :
    findFirstOf (fun c => c == '?' || c == ':') (fieldLine d a tail) (8 + 5 + 4)
      = (tail.findIdx? fun c => c == '?' || c == ':').map (· + 17) := by
  rw [findFirstOf, drop_fieldLine hd ha]

/-- A line without a mark behind the address has no body. -/
theorem deserialize_unmarked (m : Message) {tail : Text} (h : ∀ c ∈ tail, c ≠ '?' ∧ c ≠ ':') :
    m.deserialize (fieldLine d a tail)
      = (⟨m.type, readDeviceId d, readAddress a m.address, m.body⟩,
        .error (.invalidArgument "message format error: no body field")) := by
  have hmark : findFirstOf (fun c => c == '?' || c == ':') (fieldLine d a tail) (8 + 5 + 4)
      = none := by
    rw [find_mark_fieldLine hd ha, Option.map_eq_none_iff, List.findIdx?_eq_none_iff]
    exact fun c hc => by simp [h c hc]
  rw [deserialize, find_device_fieldLine]
  dsimp only
  rw [find_address_fieldLine hd]
  dsimp only
  rw [hmark, substr_device_fieldLine hd, substr_address_fieldLine hd ha]
  rfl

theorem deserialize_request (m : Message) : m.deserialize (fieldLine d a "  ?".toList)
    = (⟨.request, readDeviceId d, readAddress a m.address, Body.nil⟩, .ok ()) := by
  have hmark : findFirstOf (fun c => c == '?' || c == ':') (fieldLine d a "  ?".toList) (8 + 5 + 4)
      = some 19 := by
    rw [find_mark_fieldLine hd ha]
    rfl
  have hask : (fieldLine d a "  ?".toList)[19]? = some '?' := by
    have := congrArg (fun l => l[2]?) (drop_fieldLine hd ha "  ?".toList)
    rwa [List.getElem?_drop] at this
  rw [deserialize, find_device_fieldLine]
  dsimp only
  rw [find_address_fieldLine hd]
  dsimp only
  rw [hmark]
  dsimp only
  rw [if_pos hask, substr_device_fieldLine hd, substr_address_fieldLine hd ha]
  rfl

/-- **The bytes of a value come back.** -/
theorem deserialize_data (m : Message) (body : Body) :
    m.deserialize (fieldLine d a ("  :".toList ++ bodyText body))
      = (⟨.data, readDeviceId d, readAddress a m.address, body⟩, .ok ()) := by
  obtain ⟨s, hs⟩ : ∃ s, fieldLine d a ("  :".toList ++ bodyText body) = s := ⟨_, rfl⟩
  obtain ⟨pre, hpre, hlength⟩ : ∃ pre, s = pre ++ (bodyText body ++ []) ∧ pre.length = 20 :=
    ⟨"dev:".toList ++ d ++ "  addr:".toList ++ a ++ "  :".toList, by simp [← hs, fieldLine],
      by simp [hd, ha]⟩
  have hmark : findFirstOf (fun c => c == '?' || c == ':') s (8 + 5 + 4) = some 19 := by
    rw [← hs, find_mark_fieldLine hd ha]
    rfl
  have hcolon : s[19]? = some ':' := by
    have := congrArg (fun l => l[2]?) (drop_fieldLine hd ha ("  :".toList ++ bodyText body))
    rw [hs, List.getElem?_drop] at this
    exact this
  -- the digits end with the line
  have hend : (findFirstNotOf isHex s 20).getD s.length = 20 + 2 * body.1.length := by
    rw [hpre, ← hlength, List.append_nil, findFirstNotOf,
      findFirstOf_append_none pre fun c hc => by simp [isHex_of_mem_bodyText hc]]
    rw [Option.getD_none, List.length_append, length_bodyText]
  have hread : readBytes s 20 body.1.length = body := by
    rw [hpre, ← hlength]
    exact readBytes_bodyText body pre []
  have hshort := body.2
  have hhalf : (20 + 2 * body.1.length - 20) / 2 = body.1.length := by omega
  rw [hs, deserialize, ← hs, find_device_fieldLine]
  dsimp only
  rw [find_address_fieldLine hd]
  dsimp only
  rw [substr_device_fieldLine hd, substr_address_fieldLine hd ha, hs, hmark]
  dsimp only
  rw [if_neg (by rw [hcolon]; decide)]
  simp only [hend]
  rw [dif_neg (by omega)]
  congr 3
  change readBytes s 20 ((20 + 2 * body.1.length - 20) / 2) = body
  rw [hhalf, hread]

end FieldLine

/-- A window of two characters that begins with a number is read as that number. -/
theorem readDeviceId_eq {w : Text} {v : ℕ} (hw : w.length ≤ 2) (h : leadingNumber w = some v) :
    (readDeviceId w).toNat = v := by
  have hlt : v < 16 ^ 2 := (leadingNumber_lt h).trans_le (Nat.pow_le_pow_right (by decide) hw)
  rw [readDeviceId, istreamHex_of_leadingNumber h (by omega), UInt8.toNat_ofNat']
  exact Nat.mod_eq_of_lt hlt

theorem readAddress_eq {a : Text} {v : ℕ} (ha : a.length ≤ 4) (h : leadingNumber a = some v)
    (old : UInt16) : (readAddress a old).toNat = v := by
  have hlt : v < 16 ^ 4 := (leadingNumber_lt h).trans_le (Nat.pow_le_pow_right (by decide) ha)
  rw [readAddress, istreamHexOnto_of_leadingNumber h (by omega), UInt16.toNat_ofNat']
  exact Nat.mod_eq_of_lt hlt

theorem leadingNumber_hexPad (w n : ℕ) : leadingNumber (hexPad w n) = some n := by
  rw [leadingNumber_digits (fun _ => isHex_of_mem_hexPad) (hexPad_ne_nil w n), ofHex_hexPad]

theorem serialize_eq_fieldLine (m : Message) :
    m.serialize = fieldLine (hexPad 2 m.deviceId.toNat) (hexPad 4 m.address.toNat)
      ("  ".toList ++ match m.type with
        | .data => ':' :: bodyText m.body
        | .request => ['?']) := by
  unfold serialize fieldLine
  cases m.type with
  | data => simp only [List.append_assoc]
  | request => simp only [List.append_assoc]

/-- A line of a message is no line of the other packets. -/
theorem create_fieldLine (d a tail : Text) : Packet.create (fieldLine d a tail)
    = Packet.ofOutcome .message (Message.default.deserialize (fieldLine d a tail)) := by
  have hdevq : ¬ find "dev-q:".toList (fieldLine d a tail) 0 = some 0 := by
    rw [find_eq_zero_iff (by decide)]
    rintro ⟨t, ht⟩
    simp [fieldLine] at ht
  have hcmd : ¬ find "cmd:".toList (fieldLine d a tail) 0 = some 0 := by
    rw [find_eq_zero_iff (by decide)]
    rintro ⟨t, ht⟩
    simp [fieldLine] at ht
  rw [Packet.create, if_neg hdevq, if_neg hcmd]

/-- **Messages come back from their lines**, requests if they carry no value. -/
theorem create_serialize (m : Message) (hrequest : m.type = .request → m.body = Body.nil) :
    ∃ text, (Packet.message m).convertToString = .ok text ∧
      Packet.create text = .ok (.message m) := by
  have hd : (hexPad 2 m.deviceId.toNat).length = 2 := length_hexPad (by decide) m.deviceId.toNat_lt
  have ha : (hexPad 4 m.address.toNat).length = 4 := length_hexPad (by decide) m.address.toNat_lt
  have hdevice : readDeviceId (hexPad 2 m.deviceId.toNat) = m.deviceId :=
    UInt8.toNat_inj.mp (readDeviceId_eq hd.le (leadingNumber_hexPad 2 _))
  have haddress : ∀ old, readAddress (hexPad 4 m.address.toNat) old = m.address := fun old =>
    UInt16.toNat_inj.mp (readAddress_eq ha.le (leadingNumber_hexPad 4 _) old)
  refine ⟨m.serialize, rfl, ?_⟩
  rw [serialize_eq_fieldLine, create_fieldLine]
  obtain ⟨type, deviceId, address, body⟩ := m
  dsimp only at hd ha hdevice haddress hrequest ⊢
  cases type with
  | request =>
    have hdeserialize := deserialize_request hd ha Message.default
    rw [hdevice, haddress] at hdeserialize
    rw [hrequest rfl]
    exact congrArg (Packet.ofOutcome .message) hdeserialize
  | data =>
    have hdeserialize := deserialize_data hd ha Message.default body
    rw [hdevice, haddress] at hdeserialize
    exact congrArg (Packet.ofOutcome .message) hdeserialize

/-- A request whose device id reads like the beginning of a field, and a value. -/
theorem create_serialize_sample :
    (∃ text, (Packet.message ⟨.request, 0xad, 0xdde0, Body.nil⟩).convertToString = .ok text ∧
      Packet.create text = .ok (.message ⟨.request, 0xad, 0xdde0, Body.nil⟩)) ∧
    ∃ text, (Packet.message ⟨.data, 5, 0x0102, ⟨[0xde, 0], by decide⟩⟩).convertToString
        = .ok text ∧
      Packet.create text = .ok (.message ⟨.data, 5, 0x0102, ⟨[0xde, 0], by decide⟩⟩) :=
  ⟨create_serialize _ fun _ => rfl, create_serialize _ nofun⟩

/-! ### Lines without numbers -/

/-- A line with all its fields is accepted. -/
theorem deserialize_of_complete (m : Message) {line : Text} (h : Complete line) :
    ∃ w a type body, deviceWindow line = some w ∧ addressWindow line = some a ∧
      m.deserialize line = (⟨type, readDeviceId w, readAddress a m.address, body⟩, .ok ()) := by
  obtain ⟨pos, hpos, hbody⟩ := h
  have houtcome := outcome_deserialize m line
  generalize m.deserialize line = r at houtcome ⊢
  cases houtcome with
  | noDevice hdevice =>
    rw [deviceWindow, Option.map_eq_none_iff] at hdevice
    rw [markPos, addressPos, hdevice] at hpos
    cases hpos
  | noAddress _ haddress =>
    rw [addressWindow, Option.map_eq_none_iff] at haddress
    rw [markPos, haddress] at hpos
    cases hpos
  | noMark _ _ hmark => cases hpos.symm.trans hmark
  | badBody _ _ hmark hnot =>
    cases hpos.symm.trans hmark
    exact absurd hbody hnot
  | accepted hdevice haddress => exact ⟨_, _, _, _, hdevice, haddress, rfl⟩

/-- Every other line is rejected. -/
theorem deserialize_of_not_complete (m : Message) {line : Text} (h : ¬ Complete line) :
    ∃ m' what, m.deserialize line = (m', .error (.invalidArgument what)) := by
  have houtcome := outcome_deserialize m line
  generalize m.deserialize line = r at houtcome ⊢
  cases houtcome with
  | noDevice => exact ⟨_, _, rfl⟩
  | noAddress => exact ⟨_, _, rfl⟩
  | noMark => exact ⟨_, _, rfl⟩
  | badBody => exact ⟨_, _, rfl⟩
  | accepted _ _ hmark hbody => exact absurd ⟨_, hmark, hbody⟩ h

/-- The number that makes up a window, but for blanks in front of it. -/
def windowNumber (w : Text) : Option ℕ := wholeNumber (w.dropWhile isSpace)

/-- **No number is invented**, for a notion of the number in a window: a line with a window
that holds none is rejected, and an accepted line gives the numbers of its windows. -/
structure NeverInvents (number : Text → Option ℕ) (m : Message) (line : Text) : Prop where
  device : ∀ w, deviceWindow line = some w → number w = none →
    ∃ what, (m.deserialize line).2 = .error (.invalidArgument what)
  address : ∀ a, addressWindow line = some a → number a = none →
    ∃ what, (m.deserialize line).2 = .error (.invalidArgument what)
  accepted : ∀ m', m.deserialize line = (m', .ok ()) →
    (∃ w ∈ deviceWindow line, number w = some m'.deviceId.toNat) ∧
      ∃ a ∈ addressWindow line, number a = some m'.address.toNat

/-- Both windows of the line hold a number. -/
def Numbered (number : Text → Option ℕ) (line : Text) : Prop :=
  (∃ w ∈ deviceWindow line, (number w).isSome = true) ∧
    ∃ a ∈ addressWindow line, (number a).isSome = true

theorem length_deviceWindow {line w : Text} (h : deviceWindow line = some w) : w.length ≤ 2 := by
  obtain ⟨pos, -, rfl⟩ := Option.map_eq_some_iff.mp h
  exact List.length_take_le _ _

theorem length_addressWindow {line a : Text} (h : addressWindow line = some a) :
    a.length ≤ 4 := by
  obtain ⟨pos, -, rfl⟩ := Option.map_eq_some_iff.mp h
  exact List.length_take_le _ _

/-- The parser gives the numbers of the windows that hold one, and looks no further. -/
theorem neverInvents_iff_of_leading {number : Text → Option ℕ}
    (hnumber : ∀ w v, number w = some v → leadingNumber w = some v) (m : Message) (line : Text) :
    NeverInvents number m line ↔ ¬ Complete line ∨ Numbered number line := by
  by_cases hcomplete : Complete line
  · obtain ⟨w, a, type, body, hdevice, haddress, hline⟩ := deserialize_of_complete m hcomplete
    rw [or_iff_right (not_not_intro hcomplete)]
    constructor
    · intro h
      obtain ⟨⟨w', hw', hv⟩, a', ha', hu⟩ := h.accepted _ hline
      exact ⟨⟨w', hw', by rw [hv]; rfl⟩, a', ha', by rw [hu]; rfl⟩
    · rintro ⟨⟨w', hw', hv⟩, a', ha', hu⟩
      cases hdevice.symm.trans hw'
      cases haddress.symm.trans ha'
      obtain ⟨v, hv⟩ := Option.isSome_iff_exists.mp hv
      obtain ⟨u, hu⟩ := Option.isSome_iff_exists.mp hu
      have hdeviceId := readDeviceId_eq (length_deviceWindow hdevice) (hnumber _ _ hv)
      have haddressValue :=
        readAddress_eq (length_addressWindow haddress) (hnumber _ _ hu) m.address
      refine ⟨fun w' hw' hnone => ?_, fun a' ha' hnone => ?_, fun m' hm' => ?_⟩
      · cases hdevice.symm.trans hw'
        cases hnone.symm.trans hv
      · cases haddress.symm.trans ha'
        cases hnone.symm.trans hu
      · cases hline.symm.trans hm'
        exact ⟨⟨w, hdevice, by rw [hv, hdeviceId]⟩, a, haddress, by rw [hu, haddressValue]⟩
  · obtain ⟨m', what, hline⟩ := deserialize_of_not_complete m hcomplete
    refine iff_of_true ⟨fun _ _ _ => ⟨what, ?_⟩, fun _ _ _ => ⟨what, ?_⟩, fun m'' hm'' => ?_⟩
      (Or.inl hcomplete)
    · rw [hline]
    · rw [hline]
    · cases hline.symm.trans hm''

/-- **When no number is invented**: the line is rejected for another reason, or both its
windows hold numbers.  This is so whether a number has to make up the window behind its
blanks, or only to begin there, maybe with a radix mark. -/
theorem neverInvents_iff (m : Message) (line : Text) :
    (NeverInvents windowNumber m line ↔ ¬ Complete line ∨ Numbered windowNumber line) ∧
    (NeverInvents leadingNumber m line ↔ ¬ Complete line ∨ Numbered leadingNumber line) :=
  ⟨neverInvents_iff_of_leading (fun _ _ h => leadingNumber_of_wholeNumber h) m line,
    neverInvents_iff_of_leading (fun _ _ h => h) m line⟩

/-- A garbled line. -/
def garbledLine : Text := "dev:zz  addr:zzzz  :01".toList

/-- The garbled line is taken for a value of address 0 of device 0. -/
theorem garbledLine_invents :
    Packet.create garbledLine = .ok (.message ⟨.data, 0, 0, ⟨[1], by decide⟩⟩) ∧
      ¬ NeverInvents windowNumber default garbledLine ∧
      ¬ NeverInvents leadingNumber default garbledLine := by
  have hok : (deserialize default garbledLine).2 = .ok () := by decide
  refine ⟨by decide, fun h => ?_, fun h => ?_⟩
  · obtain ⟨what, herror⟩ := h.device "zz".toList (by decide) (by decide)
    cases hok.symm.trans herror
  · obtain ⟨what, herror⟩ := h.device "zz".toList (by decide) (by decide)
    cases hok.symm.trans herror

end Message

/-! ### Device initialisations -/

namespace DeviceInit

theorem readByte_eq {a b : Char} (ha : isHex a = true) (hb : isHex b = true) :
    (UInt8.ofNat (istreamHex 32 [a, b]).2).toNat = ofHex [a, b] := by
  have hdigits : ∀ c ∈ [a, b], isHex c = true := by simp [ha, hb]
  have hlt : ofHex [a, b] < 16 ^ 2 := ofHex_lt [a, b]
  rw [istreamHex_of_leadingNumber (leadingNumber_digits hdigits (by simp)) (by omega),
    UInt8.toNat_ofNat']
  exact Nat.mod_eq_of_lt hlt

/-- Four digits behind the mark are read as two bytes. -/
theorem deserialize_digits (p₀ : DeviceInit) {a b c d : Char}
    (h : ∀ x ∈ [a, b, c, d], isHex x = true) :
    p₀.deserialize ("dev-q:".toList ++ [a, b, c, d])
      = (⟨UInt8.ofNat (istreamHex 32 [c, d]).2, UInt8.ofNat (istreamHex 32 [a, b]).2⟩, .ok ()) := by
  have hmark : find "dev-q:".toList ("dev-q:".toList ++ [a, b, c, d]) 0 = some 0 :=
    (find_eq_zero_iff (by decide)).mpr ⟨_, rfl⟩
  have hhex : findFirstNotOf isHex [a, b, c, d] 0 = none :=
    findFirstOf_zero_eq_none_iff.mpr fun x hx => by simp [h x hx]
  have hmsg : substr ("dev-q:".toList ++ [a, b, c, d]) 6 (6 + 4) = [a, b, c, d] := rfl
  rw [deserialize, if_neg (not_not_intro hmark), hmsg]
  dsimp only
  rw [if_neg (by simp [hhex])]
  rfl

/-- A line that is accepted has the mark and exactly four digits behind it. -/
theorem digits_of_deserialize {p₀ p : DeviceInit} {line : Text}
    (h : p₀.deserialize line = (p, .ok ())) : ∃ a b c d, line = "dev-q:".toList ++ [a, b, c, d] ∧
      ∀ x ∈ [a, b, c, d], isHex x = true := by
  unfold deserialize at h
  split at h
  · cases h
  · next hmark =>
    obtain ⟨msg, rfl⟩ := (find_eq_zero_iff (by decide)).mp (not_not.mp hmark)
    have hmsg : substr ("dev-q:".toList ++ msg) 6 (6 + 4) = msg.take 10 := rfl
    rw [hmsg] at h
    dsimp only at h
    split at h
    · cases h
    · next hbody =>
      obtain ⟨hlength, hhex⟩ : (msg.take 10).length = 4 ∧
          findFirstNotOf isHex (msg.take 10) 0 = none := by simpa using hbody
      -- a longer text would leave more than four characters
      have hall : msg.take 10 = msg := by
        rw [List.length_take] at hlength
        exact List.take_of_length_le (by omega)
      rw [hall] at hlength hhex
      match msg, hlength with
      | [a, b, c, d], _ =>
        refine ⟨a, b, c, d, rfl, fun x hx => ?_⟩
        simpa using findFirstOf_zero_eq_none_iff.mp hhex x hx

/-- **What the parser accepts**: the mark and exactly four digits. -/
theorem deserialize_eq_ok_iff {p₀ p : DeviceInit} {line : Text} :
    p₀.deserialize line = (p, .ok ()) ↔
      ∃ a b c d, line = "dev-q:".toList ++ [a, b, c, d] ∧
        (∀ x ∈ [a, b, c, d], isHex x = true) ∧
        p.oldId.toNat = ofHex [a, b] ∧ p.newId.toNat = ofHex [c, d] := by
  have hread : ∀ {a b c d : Char}, (∀ x ∈ [a, b, c, d], isHex x = true) →
      (UInt8.ofNat (istreamHex 32 [a, b]).2).toNat = ofHex [a, b] ∧
        (UInt8.ofNat (istreamHex 32 [c, d]).2).toNat = ofHex [c, d] := fun h =>
    ⟨readByte_eq (h _ (by simp)) (h _ (by simp)), readByte_eq (h _ (by simp)) (h _ (by simp))⟩
  constructor
  · intro h
    obtain ⟨a, b, c, d, rfl, hhex⟩ := digits_of_deserialize h
    rw [deserialize_digits p₀ hhex] at h
    cases h
    exact ⟨a, b, c, d, rfl, hhex, (hread hhex).1, (hread hhex).2⟩
  · rintro ⟨a, b, c, d, rfl, hhex, hold, hnew⟩
    rw [deserialize_digits p₀ hhex]
    obtain ⟨newId, oldId⟩ := p
    rw [Prod.mk.injEq, DeviceInit.mk.injEq]
    exact ⟨⟨UInt8.toNat_inj.mp ((hread hhex).2.trans hnew.symm),
      UInt8.toNat_inj.mp ((hread hhex).1.trans hold.symm)⟩, rfl⟩

/-- The second number is written without a fill: in two digits exactly from 16 on. -/
theorem length_hexPad_zero_eq_two_iff (b : UInt8) :
    (hexPad 0 b.toNat).length = 2 ↔ 0x10 ≤ b.toNat := by
  have hlt := b.toNat_lt
  have htwo : (Nat.toDigits 16 b.toNat).length ≤ 2 :=
    (Nat.length_toDigits_le_iff (by decide) (by decide)).mpr (by omega)
  have hone : (Nat.toDigits 16 b.toNat).length ≤ 1 ↔ b.toNat < 16 ^ 1 :=
    Nat.length_toDigits_le_iff (by decide) (by decide)
  rw [hexPad, List.length_leftpad, Nat.zero_max]
  omega

/-- **The codec of device initialisations.**  A packet comes back from its line exactly when
its new id fills two digits; and the lines accepted are those with the mark and exactly four
digits, two for each id. -/
theorem codec_iff (p : DeviceInit) (line : Text) :
    ((∀ p₀, deserialize p₀ p.serialize = (p, .ok ())) ↔ 0x10 ≤ p.newId.toNat) ∧
    ∀ p₀ p', deserialize p₀ line = (p', .ok ()) ↔
      ∃ a b c d, line = "dev-q:".toList ++ [a, b, c, d] ∧
        (∀ x ∈ [a, b, c, d], isHex x = true) ∧
        p'.oldId.toNat = ofHex [a, b] ∧ p'.newId.toNat = ofHex [c, d] := by
  refine ⟨?_, fun p₀ p' => deserialize_eq_ok_iff⟩
  obtain ⟨a, b, hold⟩ := List.length_eq_two.mp (length_hexPad_byte p.oldId)
  have hline : p.serialize = "dev-q:".toList ++ ([a, b] ++ hexPad 0 p.newId.toNat) := by
    unfold serialize
    rw [hold]
    exact List.append_assoc _ _ _
  rw [← length_hexPad_zero_eq_two_iff]
  constructor
  · intro h
    obtain ⟨a', b', c', d', heq, -⟩ := digits_of_deserialize (h default)
    rw [hline] at heq
    have := congrArg List.length (List.append_cancel_left heq)
    simpa using this
  · intro h p₀
    obtain ⟨c, d, hnew⟩ := List.length_eq_two.mp h
    rw [hline, hnew]
    have holdHex : ∀ x ∈ [a, b], isHex x = true := by
      rw [← hold]
      exact fun x => isHex_of_mem_hexPad
    have hnewHex : ∀ x ∈ [c, d], isHex x = true := by
      rw [← hnew]
      exact fun x => isHex_of_mem_hexPad
    refine deserialize_eq_ok_iff.mpr ⟨a, b, c, d, rfl, ?_, ?_, ?_⟩
    · exact List.forall_mem_append.mpr ⟨holdHex, hnewHex⟩
    · rw [← hold, ofHex_hexPad]
    · rw [← hnew, ofHex_hexPad]

/-- A small new id is written in one digit, and the line is rejected. -/
theorem codec_counterexample :
    ¬ ∀ p p₀ : DeviceInit, deserialize p₀ p.serialize = (p, .ok ()) := by
  intro h
  have hline : deserialize default (serialize ⟨0x05, 0x12⟩)
      = (default, .error (.invalidArgument "device init format error: dev-q body error")) := by
    decide
  have := (h ⟨0x05, 0x12⟩ default).symm.trans hline
  cases this

end DeviceInit

/-! ### Parsers that throw -/

/-- **A parser that throws leaves its object alone.** -/
def Atomic {α : Type} (deserialize : α → Text → α × Except Exception Unit) (a : α)
    (line : Text) : Prop :=
  ∀ a' e, deserialize a line = (a', .error e) → a' = a

theorem DeviceInit.atomic (p : DeviceInit) (line : Text) : Atomic deserialize p line := by
  intro p' e h
  unfold deserialize at h
  split at h
  · cases h
    rfl
  · dsimp only at h
    split at h
    · cases h
      rfl
    · cases h

namespace Message

/-- A message that a rejected line does not change: it has all its fields already that the
parser assigns before it throws. -/
structure Settled (m : Message) (line : Text) : Prop where
  device : ∀ w ∈ deviceWindow line, m.deviceId = readDeviceId w
  address : ∀ a ∈ addressWindow line, m.address = readAddress a m.address
  body : (markPos line).isSome = true → m.type = .data ∧ m.body = Body.nil

theorem addressPos_eq_none {line : Text} (h : deviceWindow line = none) :
    addressPos line = none := by
  rw [deviceWindow, Option.map_eq_none_iff] at h
  rw [addressPos, h]
  rfl

theorem markPos_eq_none {line : Text} (h : addressWindow line = none) : markPos line = none := by
  rw [addressWindow, Option.map_eq_none_iff] at h
  rw [markPos, h]
  rfl

/-- **What a parser that throws leaves behind** is the message it was called on exactly when
that message was settled. -/
theorem eq_iff_settled {m m' : Message} {line : Text} {e : Exception}
    (h : Outcome m line (m', .error e)) : m' = m ↔ Settled m line := by
  obtain ⟨type, deviceId, address, body⟩ := m
  cases h with
  | noDevice hdevice =>
    have haddress : addressWindow line = none := by
      rw [addressWindow, addressPos_eq_none hdevice]
      rfl
    refine iff_of_true rfl ⟨fun w hw => ?_, fun a ha => ?_, ?_⟩
    · cases hdevice.symm.trans hw
    · cases haddress.symm.trans ha
    · rw [markPos_eq_none haddress]
      exact nofun
  | noAddress hdevice haddress =>
    constructor
    · intro hm
      refine ⟨fun w hw => ?_, fun a ha => ?_, ?_⟩
      · cases hdevice.symm.trans hw
        exact (congrArg Message.deviceId hm).symm
      · cases haddress.symm.trans ha
      · rw [markPos_eq_none haddress]
        exact nofun
    · rintro ⟨hid, -, -⟩
      rw [← hid _ hdevice]
  | noMark hdevice haddress hmark =>
    constructor
    · intro hm
      refine ⟨fun w hw => ?_, fun a ha => ?_, ?_⟩
      · cases hdevice.symm.trans hw
        exact (congrArg Message.deviceId hm).symm
      · cases haddress.symm.trans ha
        exact (congrArg Message.address hm).symm
      · rw [hmark]
        exact nofun
    · rintro ⟨hid, haddr, -⟩
      rw [← hid _ hdevice, ← haddr _ haddress]
  | badBody hdevice haddress hmark _ =>
    constructor
    · intro hm
      refine ⟨fun w hw => ?_, fun a ha => ?_, fun _ => ?_⟩
      · cases hdevice.symm.trans hw
        exact (congrArg Message.deviceId hm).symm
      · cases haddress.symm.trans ha
        exact (congrArg Message.address hm).symm
      · exact ⟨(congrArg Message.type hm).symm, (congrArg Message.body hm).symm⟩
    · rintro ⟨hid, haddr, hcleared⟩
      obtain ⟨htype, hnil⟩ := hcleared (by rw [hmark]; rfl)
      dsimp only at htype hnil
      rw [← hid _ hdevice, ← haddr _ haddress, htype, hnil]

theorem atomic_deserialize_iff (m : Message) (line : Text) :
    Atomic deserialize m line ↔ Complete line ∨ Settled m line := by
  by_cases hcomplete : Complete line
  · obtain ⟨w, a, type, body, -, -, hline⟩ := deserialize_of_complete m hcomplete
    exact iff_of_true (fun m' e h => by cases hline.symm.trans h) (Or.inl hcomplete)
  · obtain ⟨m', what, hline⟩ := deserialize_of_not_complete m hcomplete
    have houtcome := outcome_deserialize m line
    rw [hline] at houtcome
    rw [or_iff_right hcomplete, ← eq_iff_settled houtcome]
    constructor
    · exact fun h => h m' _ hline
    · rintro rfl m'' e h
      cases hline.symm.trans h
      rfl

end Message

/-- **Which parsers leave their object alone when they throw**: those of device
initialisations and of service commands always; that of messages exactly when the line has
all its fields, and is not rejected, or the object is as the parser leaves it. -/
theorem atomic_iff (p : DeviceInit) (c : ServiceCommand) (m : Message) (line : Text) :
    Atomic DeviceInit.deserialize p line ∧ Atomic ServiceCommand.deserialize c line ∧
      (Atomic Message.deserialize m line ↔ Message.Complete line ∨ Message.Settled m line) :=
  ⟨p.atomic line, fun _ _ h => (ServiceCommand.error_of_deserialize h).1,
    m.atomic_deserialize_iff line⟩

/-- A message takes the device of a line that is rejected. -/
theorem atomic_counterexample :
    ¬ Atomic Message.deserialize Message.default "dev:05 garbage".toList := by
  intro h
  have hline : Message.deserialize Message.default "dev:05 garbage".toList
      = (⟨.data, 5, 0, Body.nil⟩,
        .error (.invalidArgument "message format error: no address field")) := by decide
  have := congrArg Message.deviceId (h _ _ hline)
  cases this

end HomeAutomation
