import Mathlib.Data.List.Infix
import Mathlib.Data.List.TakeWhile
import Mathlib.Tactic.Linarith
import HomeAutomation.Can.CanServer

/-!
# Command lines of the CAN master

The commands that a client may send, as the usage text of the master and its parser
have them: a value or a request for a register of a device, the question for all device
ids, and the order to change one.  Digits may be of either case.

The parser looks for its marks anywhere in the text, and takes what it finds.  So a
command that is cut short is no command, or another one: the parser finds the command of
a line in a beginning of that line exactly when that beginning has all of its core.

## Main definitions

* `Command`, `Command.line` — the commands and their lines.
* `Command.action` — the packet of a command, and whether it is a request.
* `Command.core` — the part of a line that makes it the command it is.

## Main results

* `parsePacket_of_tags` — the parser, where it finds its numbers.
* `parsePacket_registerText` — the parser on a line for a register.
* `commandOf_prefix_iff` — the command that the master finds in a beginning of a line.

## References

`ti/can_master/can_server.cpp`.
-/

namespace HomeAutomation
namespace CanServer

open Hex Str

/-! ### Commands -/

/-- A run of `n` hexadecimal digits. -/
structure Digits (n : ℕ) where
  text : Text
  length_eq : text.length = n
  isHex : ∀ c ∈ text, Hex.isHex c = true

namespace Digits

variable {n : ℕ}

/-- The number that the digits denote. -/
def value (d : Digits n) : ℕ := ofHex d.text

theorem value_lt (d : Digits n) : d.value < 16 ^ n := by
  have h := ofHex_lt d.text
  rwa [d.length_eq] at h

theorem ne_nil (d : Digits (n + 1)) : d.text ≠ [] := by
  intro h
  have hlength := d.length_eq
  rw [h] at hlength
  cases hlength

/-- A character that is no digit is none of them. -/
theorem not_mem (d : Digits n) {c : Char} (hc : Hex.isHex c = false) : c ∉ d.text :=
  fun h => ne_of_isHex (d.isHex c h) hc rfl

end Digits

/-- The data of a command for a register. -/
def bytesText (bytes : List (Digits 2)) : Text := bytes.flatMap Digits.text

/-- The bytes that are written in this way. -/
def bytesValue (bytes : List (Digits 2)) : List UInt8 := bytes.map fun d => UInt8.ofNat d.value

/-- The digits that make a number what it is: of a zero, one digit. -/
def significant (ids : Digits 4) : Text := if ids.value = 0 then ids.text.take 1 else ids.text

/-- A well-formed command. -/
inductive Command
  /-- A value for a register of a device. -/
  | write (device : Digits 2) (address : Digits 4) (bytes : List (Digits 2))
      (hbytes : bytes.length ≤ 8)
  /-- A request for a register of a device. -/
  | request (device : Digits 2) (address : Digits 4)
  /-- The question for the ids of all devices. -/
  | queryIds
  /-- The order to change an id. -/
  | changeId (ids : Digits 4) (hnew : ids.value % 0x100 ≤ 0x7f)

/-- A text that names a register of a device. -/
def registerText (device address tail : Text) : Text :=
  "dev:".toList ++ (device ++ ("  ".toList ++ ("addr:".toList ++ (address ++ tail))))

/-- The identifier of the packet for a register. -/
def registerId (device address : ℕ) : UInt32 :=
  packetIdToNumber ⟨0, BitVec.ofNat 7 device, UInt16.ofNat address⟩

namespace Command

/-- The text of a command. -/
def text : Command → Text
  | write device address bytes _ =>
    registerText device.text address.text ("  =".toList ++ bytesText bytes)
  | request device address => registerText device.text address.text "  ?".toList
  | queryIds => "dev-q?".toList
  | changeId ids _ => "dev-q!".toList ++ ids.text

theorem text_write (device : Digits 2) (address : Digits 4) (bytes : List (Digits 2))
    (hbytes : bytes.length ≤ 8) :
    (write device address bytes hbytes).text
      = registerText device.text address.text ("  ".toList ++ '=' :: bytesText bytes) := rfl

theorem text_request (device : Digits 2) (address : Digits 4) :
    (request device address).text
      = registerText device.text address.text ("  ".toList ++ '?' :: []) := rfl

theorem text_changeId (ids : Digits 4) (hnew : ids.value % 0x100 ≤ 0x7f) :
    (changeId ids hnew).text = "dev-q!".toList ++ ids.text := rfl

/-- The line of a command, with its ending. -/
def line (c : Command) : Text := c.text ++ "\r\n".toList

/-- The packet of a command, and whether it is a request. -/
def action : Command → CanPacket × Bool
  | write device address bytes hbytes =>
    (⟨registerId device.value address.value,
      ⟨bytesValue bytes, by rw [bytesValue, List.length_map]; exact hbytes⟩⟩, false)
  | request device address => (⟨registerId device.value address.value, Body.nil⟩, true)
  | queryIds => (⟨specialIdUpdate, Body.nil⟩, true)
  | changeId ids _ =>
    (⟨specialIdUpdate, ⟨[UInt8.ofNat (ids.value / 0x100 % 0x100), UInt8.ofNat (ids.value % 0x100)],
      by simp⟩⟩, false)

/-- The part of a line that makes it the command it is: all of its text, but for the
fill of a zero. -/
def core : Command → Text
  | changeId ids _ => "dev-q!".toList ++ significant ids
  | c => c.text

end Command

/-! ### The parser on a line for a register -/

/-- **The parser, where its numbers are**: it asks for the first mark behind the address. -/
theorem parsePacket_of_tags {t field : Text} {d a : ℕ} (hdevq : "dev-q".toList.isPrefixOf t = false)
    (hdevice : sscanfTag "dev:".toList t = some d) (hd : d ≤ 0xff)
    (hfield : strstr t "addr:".toList = some field)
    (haddress : sscanfTag "addr:".toList field = some a) (ha : a ≤ 0xffff) :
    parsePacket t =
      if '?' ∈ field then some (⟨registerId d a, Body.nil⟩, true)
      else (strchr field '=').map fun ptr =>
        (⟨registerId d a, ⟨readData 8 (ptr.drop 1), length_readData_le 8 _⟩⟩, false) := by
  -- both fields are there and in range, and none of the checks ends the parser
  rw [parsePacket, hdevq, if_neg Bool.false_ne_true, hdevice, hfield]
  dsimp only
  rw [if_neg (not_lt.mpr hd), haddress]
  dsimp only
  rw [if_neg (not_lt.mpr ha)]
  by_cases hq : '?' ∈ field
  · rw [if_pos hq, if_pos (mem_iff_strchr_isSome.mp hq)]
    rfl
  · rw [if_neg hq, if_neg (mt mem_iff_strchr_isSome.mpr hq)]
    cases strchr field '=' with
    | none => rfl
    | some ptr => rfl

/-- The part of a line for a register that the number of its device is read from. -/
theorem sscanfTag_registerText {device address tail : Text} (hlength : device.length = 2)
    (hdevice : ∀ c ∈ device, isHex c = true) :
    sscanfTag "dev:".toList (registerText device address tail) = some (ofHex device) := by
  have hprefix : "dev:".toList.isPrefixOf (registerText device address tail) = true := rfl
  rw [sscanfTag, if_pos hprefix]
  have hne : device ≠ [] := by
    rintro rfl
    cases hlength
  exact sscanfHex_digits hdevice hne (by omega) (stops_cons _ (by decide))

/-- The part of the line from its address on. -/
theorem strstr_registerText {device : Text} (hlength : device.length = 2) (address tail : Text) :
    strstr (registerText device address tail) "addr:".toList
      = some ("addr:".toList ++ (address ++ tail)) := by
  have hindex : indexOf "addr:".toList (registerText device address tail) = some 8 := by
    obtain ⟨a, b, rfl⟩ := List.length_eq_two.mp hlength
    simp [registerText, indexOf]
  rw [strstr, hindex, Option.map_some, registerText]
  simp [List.drop_append, hlength]

/-- **The parser on a line for a register**: the first mark is that of the part behind the
address. -/
theorem parsePacket_registerText {device address tail : Text} (hlength : device.length = 2)
    (hdevice : ∀ c ∈ device, isHex c = true) (haddress : ∀ c ∈ address, isHex c = true)
    (hne : address ≠ []) (haddressLength : address.length ≤ 4) (htail : Stops tail) :
    parsePacket (registerText device address tail) =
      if '?' ∈ tail then some (⟨registerId (ofHex device) (ofHex address), Body.nil⟩, true)
      else (strchr tail '=').map fun ptr =>
        (⟨registerId (ofHex device) (ofHex address),
          ⟨readData 8 (ptr.drop 1), length_readData_le 8 _⟩⟩, false) := by
  -- two digits, and at most four
  have hd : ofHex device < 256 := by
    have h := ofHex_lt device
    rwa [hlength] at h
  have ha : ofHex address < 65536 :=
    (ofHex_lt address).trans_le (Nat.pow_le_pow_right (by decide) haddressLength)
  have haddr : sscanfTag "addr:".toList ("addr:".toList ++ (address ++ tail))
      = some (ofHex address) := by
    have hprefix : "addr:".toList.isPrefixOf ("addr:".toList ++ (address ++ tail)) = true := rfl
    rw [sscanfTag, if_pos hprefix]
    exact sscanfHex_digits haddress hne (by omega) htail
  -- no mark stands before the tail
  have hbefore : ∀ c : Char, c ∉ "addr:".toList → isHex c = false →
      c ∉ "addr:".toList ++ address := by
    intro c hc hhex hmem
    obtain h | h := List.mem_append.mp hmem
    · exact hc h
    · exact ne_of_isHex (haddress c h) hhex rfl
  have hquestion : '?' ∈ "addr:".toList ++ (address ++ tail) ↔ '?' ∈ tail := by
    rw [← List.append_assoc, List.mem_append]
    exact or_iff_right (hbefore '?' (by decide) (by decide))
  have hvalue : strchr ("addr:".toList ++ (address ++ tail)) '=' = strchr tail '=' := by
    rw [← List.append_assoc]
    exact strchr_append (hbefore '=' (by decide) (by decide))
  rw [parsePacket_of_tags rfl (sscanfTag_registerText hlength hdevice) (by omega)
    (strstr_registerText hlength address tail) haddr (by omega), hvalue]
  simp only [hquestion]

/-! ### What the parser finds where -/

/-- A beginning of two texts, one behind the other, is a beginning of the first, or all
of it and a beginning of the second. -/
theorem prefix_append_cases {p a b : Text} (h : p <+: a ++ b) :
    p <+: a ∨ ∃ b', p = a ++ b' ∧ b' <+: b := by
  obtain hpa | ⟨b', rfl⟩ := List.prefix_or_prefix_of_prefix h (List.prefix_append a b)
  · exact Or.inl hpa
  · exact Or.inr ⟨b', rfl, (List.prefix_append_right_inj a).mp h⟩

theorem mem_of_strstr {s t ptr : Text} (h : strstr s t = some ptr) {c : Char} (hc : c ∈ ptr) :
    c ∈ s := by
  obtain ⟨i, -, rfl⟩ := Option.map_eq_some_iff.mp h
  exact List.mem_of_mem_drop hc

theorem mem_of_strchr {s ptr : Text} {c : Char} (h : strchr s c = some ptr) : c ∈ s := by
  by_contra hmem
  rw [strchr_eq_none_iff.mpr hmem] at h
  cases h

theorem prefix_of_sscanfTag {tag s : Text} {value : ℕ} (h : sscanfTag tag s = some value) :
    tag <+: s := by
  unfold sscanfTag at h
  split at h
  · next htag => exact List.isPrefixOf_iff_prefix.mp htag
  · cases h

/-- A command for device ids has the mark of its kind behind the name of the field. -/
theorem of_parseDevIdPacket {message : Text} {q : CanPacket} {request : Bool}
    (h : parseDevIdPacket message = some (q, request)) :
    (request = true → '?' ∈ message) ∧ (request = false → "dev-q!".toList <+: message) := by
  unfold parseDevIdPacket at h
  split at h
  · next hquery =>
    cases h
    have hmark := (List.isPrefixOf_iff_prefix.mp hquery).subset
    exact ⟨fun _ => hmark (by decide), nofun⟩
  split at h
  · cases h
  · next value hvalue =>
    split at h
    · cases h
      exact ⟨nofun, fun _ => prefix_of_sscanfTag hvalue⟩
    · cases h

/-- What the parser takes for a command begins with the name of the field, and has the
mark of its kind. -/
theorem of_parsePacket {message : Text} {q : CanPacket} {request : Bool}
    (h : parsePacket message = some (q, request)) :
    "dev".toList <+: message ∧ (request = true → '?' ∈ message) ∧
      (request = false → "dev-q!".toList <+: message ∨
        '=' ∈ message ∧ ¬ "dev-q".toList <+: message) := by
  -- every tag that is looked for begins with the same three letters
  have hdev : ∀ {tag : Text}, "dev".toList <+: tag → tag <+: message → "dev".toList <+: message :=
    List.IsPrefix.trans
  unfold parsePacket at h
  split at h
  · next hdevq =>
    obtain ⟨hquery, hchange⟩ := of_parseDevIdPacket h
    refine ⟨hdev ?_ (List.isPrefixOf_iff_prefix.mp hdevq), hquery, fun hr => Or.inl (hchange hr)⟩
    exact ⟨"-q".toList, rfl⟩
  next hdevq =>
  have hdevq : ¬ "dev-q".toList <+: message := fun h => hdevq (List.isPrefixOf_iff_prefix.mpr h)
  split at h
  -- no number behind `dev:`
  · cases h
  next device hdevice =>
  have hname := hdev ⟨":".toList, rfl⟩ (prefix_of_sscanfTag hdevice)
  split at h
  -- the device is out of range
  · cases h
  split at h
  · cases h
  next ptr hptr =>
  split at h
  -- no number behind `addr:`
  · cases h
  split at h
  · cases h
  -- both marks are looked for from the address on
  dsimp only at h
  split at h
  · next hq =>
    cases h
    obtain ⟨ptr', hptr'⟩ := Option.isSome_iff_exists.mp hq
    exact ⟨hname, fun _ => mem_of_strstr hptr (mem_of_strchr hptr'), nofun⟩
  split at h
  · cases h
  · next ptr' hptr' =>
    cases h
    exact ⟨hname, nofun, fun _ => Or.inr ⟨mem_of_strstr hptr (mem_of_strchr hptr'), hdevq⟩⟩

/-! ### Data -/

theorem length_bytesText (bytes : List (Digits 2)) :
    (bytesText bytes).length = 2 * bytes.length := by
  induction bytes with
  | nil => rfl
  | cons d bytes ih =>
    rw [bytesText, List.flatMap_cons, List.length_append, d.length_eq, List.length_cons,
      show (bytes.flatMap Digits.text).length = 2 * bytes.length from ih]
    omega

theorem not_mem_bytesText {c : Char} (hc : isHex c = false) (bytes : List (Digits 2)) :
    c ∉ bytesText bytes := by
  intro h
  obtain ⟨d, -, hd⟩ := List.mem_flatMap.mp h
  exact d.not_mem hc hd

/-- The reader takes two characters for a byte. -/
theorem length_readData_mul_two_le (n : ℕ) (s : Text) : 2 * (readData n s).length ≤ s.length := by
  fun_induction readData n s with
  | case1 => simp
  | case2 => simp
  | case3 n a b s byte _ ih =>
    simp only [List.length_cons]
    omega
  | case4 => simp

/-- The bytes that a run of digits denotes, two digits for a byte. -/
def bytesOf : Text → List UInt8
  | a :: b :: s => UInt8.ofNat (ofHex [a, b]) :: bytesOf s
  | _ => []

/-- Two blanks are no number. -/
theorem sscanfHex_blanks {a b : Char} (ha : isSpace a = true) (hb : isSpace b = true) :
    sscanfHex [a, b] = none := by
  have hdrop : [a, b].dropWhile isSpace = [] := by simp [ha, hb]
  rw [sscanfHex, scanHex, hdrop]
  rfl

/-- A line ending is made of blanks. -/
theorem isSpace_lineEnding : ∀ c ∈ "\r\n".toList, isSpace c = true :=
  List.all_eq_true.mp (by decide)

/-- The reader takes nothing of blanks. -/
theorem readData_blanks (n : ℕ) {e : Text} (he : ∀ c ∈ e, isSpace c = true) :
    readData n e = [] := by
  cases n with
  | zero => rfl
  | succ n =>
    match e with
    | [] => rfl
    | [_] => rfl
    | a :: b :: e =>
      have hscan := sscanfHex_blanks (he a (by simp)) (he b (by simp))
      rw [readData_cons, hscan]

/-- **The reader takes the bytes that digits denote**, and nothing of the blanks behind
them. -/
theorem readData_digits {ds e : Text} (hds : ∀ c ∈ ds, isHex c = true) (heven : 2 ∣ ds.length)
    (he : ∀ c ∈ e, isSpace c = true) {n : ℕ} (hn : ds.length ≤ 2 * n) :
    readData n (ds ++ e) = bytesOf ds := by
  induction n generalizing ds with
  | zero =>
    -- eight bytes have been read, and nothing is left
    obtain rfl : ds = [] := List.length_eq_zero_iff.mp (Nat.le_zero.mp hn)
    rfl
  | succ n ih =>
    match ds with
    | [] => exact readData_blanks _ he
    -- a single digit is no byte
    | [_] =>
      rw [List.length_singleton] at heven
      omega
    | a :: b :: ds =>
      -- two digits are one byte
      have hpair : ∀ c ∈ [a, b], isHex c = true := by
        intro c hc
        exact hds c (List.mem_append_left ds hc)
      have hscan := sscanfHex_digits hpair (List.cons_ne_nil a [b])
        (show [a, b].length ≤ 8 by simp) stops_nil
      rw [List.append_nil] at hscan
      simp only [List.length_cons] at heven hn
      rw [List.cons_append, List.cons_append, readData_cons, hscan]
      dsimp only
      rw [ih (fun c hc => hds c (by simp [hc])) (by omega) (by omega), bytesOf]

theorem bytesOf_bytesText (bytes : List (Digits 2)) :
    bytesOf (bytesText bytes) = bytesValue bytes := by
  induction bytes with
  | nil => rfl
  | cons d bytes ih =>
    obtain ⟨a, b, hab⟩ := List.length_eq_two.mp d.length_eq
    rw [bytesText, List.flatMap_cons, hab, List.cons_append, List.cons_append, List.nil_append,
      bytesOf, bytesValue, List.map_cons, Digits.value, hab]
    exact congrArg _ ih

/-- The reader takes the bytes, and nothing of the ending. -/
theorem readData_bytesText {bytes : List (Digits 2)} {n : ℕ} (hn : bytes.length ≤ n)
    {e : Text} (he : e <+: "\r\n".toList) :
    readData n (bytesText bytes ++ e) = bytesValue bytes := by
  have hlength := length_bytesText bytes
  have hblank : ∀ c ∈ e, isSpace c = true := fun c hc => isSpace_lineEnding c (he.subset hc)
  rw [readData_digits (fun c hc => ?_) (by omega) hblank (by omega), bytesOf_bytesText]
  obtain ⟨d, -, hd⟩ := List.mem_flatMap.mp hc
  exact d.isHex c hd

/-! ### Beginnings of lines -/

theorem registerText_append (device address tail ending : Text) :
    registerText device address tail ++ ending = registerText device address (tail ++ ending) := by
  simp [registerText]

theorem not_mem_registerText {c : Char} (hc : c ∉ "dev:  addr:".toList) (hhex : isHex c = false)
    (device : Digits 2) (address : Digits 4) {tail : Text} (htail : c ∉ tail) :
    c ∉ registerText device.text address.text tail := by
  have hdevice := device.not_mem hhex
  have haddress := address.not_mem hhex
  simp only [registerText, List.mem_append, not_or]
  simp_all

theorem parsePacket_register (device : Digits 2) (address : Digits 4) {tail : Text}
    (htail : Stops tail) :
    parsePacket (registerText device.text address.text tail) =
      if '?' ∈ tail then some (⟨registerId device.value address.value, Body.nil⟩, true)
      else (strchr tail '=').map fun ptr =>
        (⟨registerId device.value address.value,
          ⟨readData 8 (ptr.drop 1), length_readData_le 8 _⟩⟩, false) :=
  parsePacket_registerText device.length_eq device.isHex address.isHex address.ne_nil
    address.length_eq.le htail

/-- A text with the mark of a value, and no mark of a request. -/
theorem parsePacket_value (device : Digits 2) (address : Digits 4) {t : Text} (ht : '?' ∉ t) :
    parsePacket (registerText device.text address.text ("  =".toList ++ t))
      = some (⟨registerId device.value address.value, ⟨readData 8 t, length_readData_le 8 t⟩⟩,
        false) := by
  have hmark : '?' ∉ "  =".toList ++ t := by simpa using ht
  have hstops : Stops ("  =".toList ++ t) := stops_cons _ (by decide)
  rw [parsePacket_register device address hstops, if_neg hmark]
  rfl

theorem parsePacket_changeId (b : Text) :
    parsePacket ("dev-q!".toList ++ b) =
      match sscanfHex b with
      | none => none
      | some value =>
        if value ≤ 0xffff ∧ value % 0x100 ≤ 0x7f then
          some (⟨specialIdUpdate,
            ⟨[UInt8.ofNat (value / 0x100 % 0x100), UInt8.ofNat (value % 0x100)], by simp⟩⟩, false)
        else none := rfl

theorem stops_ending {e : Text} (he : e <+: "\r\n".toList) : Stops e := by
  cases e with
  | nil => exact stops_nil
  | cons a e =>
    obtain rfl : a = '\r' := by
      have h := List.prefix_cons_iff.mp he
      simp_all
    exact stops_cons _ (by decide)

/-- The line of a command for a register, cut behind the address. -/
theorem line_register (device : Digits 2) (address : Digits 4) (mark : Char) (t : Text) :
    registerText device.text address.text ("  ".toList ++ mark :: t)
      = registerText device.text address.text "  ".toList ++ mark :: t := by
  simp [registerText]

/-- A beginning of such a line that has the mark. -/
theorem prefix_register {device : Digits 2} {address : Digits 4} {mark : Char} {t p : Text}
    (hmark : mark ∉ "dev:  addr:".toList) (hhex : isHex mark = false)
    (hp : p <+: registerText device.text address.text ("  ".toList ++ mark :: t))
    (hmem : mark ∈ p) :
    ∃ t', p = registerText device.text address.text ("  ".toList ++ mark :: t') ∧ t' <+: t := by
  rw [line_register] at hp
  have hblank : mark ∉ "  ".toList := fun h => hmark (by simp_all)
  have hhead := not_mem_registerText hmark hhex device address hblank
  obtain hp | ⟨b, rfl, hb⟩ := prefix_append_cases hp
  · exact absurd (hp.subset hmem) hhead
  · cases b with
    | nil =>
      rw [List.append_nil] at hmem
      exact absurd hmem hhead
    | cons a b =>
      obtain ⟨rfl, htail⟩ := List.cons_prefix_cons.mp hb
      exact ⟨b, (line_register device address a b).symm, htail⟩

/-- The line of a command for a register does not begin as one for device ids. -/
theorem not_devq_prefix_register {device : Digits 2} {address : Digits 4} {tail p : Text}
    (hp : p <+: registerText device.text address.text tail) : ¬ "dev-q!".toList <+: p := by
  intro h
  have hfalse : "dev-q!".toList.isPrefixOf (registerText device.text address.text tail) = false :=
    rfl
  rw [List.isPrefixOf_iff_prefix.mpr (h.trans hp)] at hfalse
  cases hfalse

/-- A beginning of a line that has all of the command. -/
theorem exists_ending {c : Command} {p : Text} (hp : p <+: c.line) (hc : c.text <+: p) :
    ∃ e, p = c.text ++ e ∧ e <+: "\r\n".toList := by
  obtain ⟨e, rfl⟩ := hc
  exact ⟨e, rfl, (List.prefix_append_right_inj c.text).mp hp⟩

/-- The command to set a register, in a beginning of its line. -/
theorem write_prefix_iff {device : Digits 2} {address : Digits 4} {bytes : List (Digits 2)}
    (hbytes : bytes.length ≤ 8) {p : Text}
    (hp : p <+: (Command.write device address bytes hbytes).line) :
    parsePacket p = some (Command.write device address bytes hbytes).action ↔
      (Command.write device address bytes hbytes).text <+: p := by
  -- a command that writes has no question mark
  have hquery : '?' ∉ bytesText bytes ++ "\r\n".toList := by
    have h : '?' ∉ bytesText bytes := not_mem_bytesText (by decide) bytes
    simp [h]
  constructor
  · intro h
    rw [Command.line, Command.text_write, registerText_append] at hp
    have hmem : '=' ∈ p :=
      (((of_parsePacket h).2.2 rfl).resolve_left (not_devq_prefix_register hp)).1
    obtain ⟨t, rfl, ht⟩ := prefix_register (by decide) (by decide) hp hmem
    have hread := h.symm.trans
      (parsePacket_value device address fun hmem => hquery (ht.subset hmem))
    -- as many bytes were read as the command has, so none of its digits is missing
    have hdata : bytesValue bytes = readData 8 t :=
      congrArg (fun r => r.1.data.1) (Option.some.inj hread)
    have hlength : (bytesText bytes).length ≤ t.length := by
      have hle := length_readData_mul_two_le 8 t
      rw [← hdata, bytesValue, List.length_map] at hle
      rw [length_bytesText]
      exact hle
    obtain ⟨e, rfl⟩ := List.prefix_of_prefix_length_le (List.prefix_append _ _) ht hlength
    refine ⟨e, ?_⟩
    rw [Command.text_write, registerText_append]
    rfl
  · intro hc
    -- the whole text, with a part of the ending
    obtain ⟨e, rfl, he⟩ := exists_ending hp hc
    have hmark : '?' ∉ bytesText bytes ++ e := fun hmem =>
      hquery (((List.prefix_append_right_inj _).mpr he).subset hmem)
    have hvalue := parsePacket_value device address hmark
    rw [Command.text_write, registerText_append]
    refine hvalue.trans ?_
    simp only [readData_bytesText hbytes he]
    rfl

/-- The request for a register, in a beginning of its line. -/
theorem request_prefix_iff {device : Digits 2} {address : Digits 4} {p : Text}
    (hp : p <+: (Command.request device address).line) :
    parsePacket p = some (Command.request device address).action ↔
      (Command.request device address).text <+: p := by
  constructor
  · intro h
    rw [Command.line, Command.text_request, registerText_append] at hp
    obtain ⟨t, rfl, -⟩ := prefix_register (by decide) (by decide) hp ((of_parsePacket h).2.1 rfl)
    refine ⟨t, ?_⟩
    rw [Command.text_request, registerText_append]
    rfl
  · intro hc
    obtain ⟨e, rfl, he⟩ := exists_ending hp hc
    rw [Command.text_request, registerText_append]
    have hstops : Stops ("  ".toList ++ '?' :: [] ++ e) := stops_cons _ (by decide)
    rw [parsePacket_register device address hstops, if_pos (by simp)]
    rfl

/-- The question for the ids of all devices, in a beginning of its line. -/
theorem queryIds_prefix_iff {p : Text} (hp : p <+: Command.queryIds.line) :
    parsePacket p = some Command.queryIds.action ↔ Command.queryIds.text <+: p := by
  constructor
  · intro h
    have hmem := (of_parsePacket h).2.1 rfl
    obtain hshort | ⟨b, rfl, hb⟩ := prefix_append_cases (a := "dev-q".toList) hp
    · exact absurd (hshort.subset hmem) (by decide)
    · cases b with
      | nil =>
        -- without its mark the text is no question yet
        exact absurd hmem (by decide)
      | cons a b =>
        obtain ⟨rfl, -⟩ := List.cons_prefix_cons.mp hb
        exact ⟨b, rfl⟩
  · rintro ⟨e, rfl⟩
    rfl

/-- The order to change an id in terms of the number that is read. -/
theorem parsePacket_changeId_iff {ids : Digits 4} (hnew : ids.value % 0x100 ≤ 0x7f) {b : Text} :
    parsePacket ("dev-q!".toList ++ b) = some (Command.changeId ids hnew).action ↔
      sscanfHex b = some ids.value := by
  have hlt : ids.value < 65536 := ids.value_lt
  rw [parsePacket_changeId]
  constructor
  · intro h
    split at h
    · cases h
    next value hvalue =>
    split at h
    -- the number is in range
    · next hrange =>
      -- the two bytes of the packet determine the number
      have hdata := congrArg (fun r => r.1.data.1) (Option.some.inj h)
      obtain ⟨hhigh, hlow⟩ := List.cons.inj hdata
      have hhigh := congrArg UInt8.toNat hhigh
      have hlow := congrArg UInt8.toNat (List.cons.inj hlow).1
      simp only [UInt8.toNat_ofNat'] at hhigh hlow
      rw [hvalue, show value = ids.value by omega]
    · cases h
  · intro h
    simp only [h]
    rw [if_pos ⟨by omega, hnew⟩]
    rfl

/-- The number read from a beginning of the digits. -/
theorem sscanfHex_part {ids : Digits 4} {b r : Text} (hids : ids.text = b ++ r) (hb : b ≠ []) :
    sscanfHex b = some (ofHex b) ∧ ids.value = ofHex b * 16 ^ r.length + ofHex r := by
  have hhex : ∀ c ∈ b, Hex.isHex c = true := fun c hc =>
    ids.isHex c (by rw [hids]; exact List.mem_append_left r hc)
  have hlength : b.length ≤ 8 := by
    have h := ids.length_eq
    rw [hids, List.length_append] at h
    omega
  refine ⟨?_, by rw [Digits.value, hids, ofHex_append]⟩
  have h := sscanfHex_digits hhex hb hlength stops_nil
  rwa [List.append_nil] at h

theorem significant_prefix_text (ids : Digits 4) : significant ids <+: ids.text := by
  unfold significant
  split
  · exact List.take_prefix 1 ids.text
  · exact List.prefix_rfl

theorem significant_ne_nil (ids : Digits 4) : significant ids ≠ [] := by
  unfold significant
  split
  · simpa using ids.ne_nil
  · exact ids.ne_nil

/-- **The number in a beginning of its digits and the ending**: a part of the digits is a
smaller number, unless all of them are zeros. -/
theorem sscanfHex_prefix_iff {ids : Digits 4} {b : Text} (hb : b <+: ids.text ++ "\r\n".toList) :
    sscanfHex b = some ids.value ↔ significant ids <+: b := by
  obtain ⟨r, hr⟩ | ⟨e, rfl, he⟩ := prefix_append_cases hb
  · -- some of the digits: without the rest the number is the same only for a zero
    by_cases hne : b = []
    · subst hne
      refine iff_of_false nofun fun h => significant_ne_nil ids ?_
      exact List.prefix_nil.mp h
    obtain ⟨hscan, hvalue⟩ := sscanfHex_part hr.symm hne
    rw [hscan, Option.some.injEq]
    unfold significant
    by_cases hzero : ids.value = 0
    -- the rest would have to be zeros
    · have hsame : ofHex b = 0 := by
        rw [hzero] at hvalue
        have hpos : 0 < 16 ^ r.length := Nat.pow_pos (by decide)
        nlinarith
      rw [if_pos hzero, hsame, ← hr]
      refine iff_of_true hzero.symm ?_
      cases b with
      | nil => exact absurd rfl hne
      | cons d b => exact ⟨b, rfl⟩
    · rw [if_neg hzero]
      cases r with
      -- no digit is missing
      | nil =>
        rw [List.append_nil] at hr
        exact iff_of_true (by rw [hr]; rfl) (by rw [hr])
      | cons d r =>
        refine iff_of_false (fun hsame => hzero ?_) fun h => ?_
        -- a digit that is missing changes the number
        · have hpos : 0 < 16 ^ r.length := Nat.pow_pos (by decide)
          rw [hsame, List.length_cons, pow_succ] at hvalue
          nlinarith
        · have hle := h.length_le
          rw [← hr, List.length_append, List.length_cons] at hle
          omega
  · -- all of the digits, with a part of the ending
    refine iff_of_true ?_ ((significant_prefix_text ids).trans (List.prefix_append _ _))
    exact sscanfHex_digits ids.isHex ids.ne_nil (by rw [ids.length_eq]; decide) (stops_ending he)

/-- The order to change an id, in a beginning of its line. -/
theorem changeId_prefix_iff {ids : Digits 4} (hnew : ids.value % 0x100 ≤ 0x7f) {p : Text}
    (hp : p <+: (Command.changeId ids hnew).line) :
    parsePacket p = some (Command.changeId ids hnew).action ↔
      (Command.changeId ids hnew).core <+: p := by
  have hcore : (Command.changeId ids hnew).core = "dev-q!".toList ++ significant ids := rfl
  have hline : (Command.changeId ids hnew).line
      = "dev-q!".toList ++ (ids.text ++ "\r\n".toList) := rfl
  rw [hline] at hp
  rw [hcore]
  constructor
  · intro h
    -- no byte is written here, so the line was taken for a change of the id
    have hequal : '=' ∉ "dev-q!".toList ++ (ids.text ++ "\r\n".toList) := by
      have hdigits : '=' ∉ ids.text := ids.not_mem (by decide)
      simp [hdigits]
    obtain ⟨b, rfl⟩ := ((of_parsePacket h).2.2 rfl).resolve_right fun hmem =>
      hequal (hp.subset hmem.1)
    refine (List.prefix_append_right_inj _).mpr ?_
    exact (sscanfHex_prefix_iff ((List.prefix_append_right_inj _).mp hp)).mp
      ((parsePacket_changeId_iff hnew).mp h)
  · intro h
    obtain ⟨b, rfl⟩ := (List.prefix_append _ _).trans h
    refine (parsePacket_changeId_iff hnew).mpr ?_
    exact (sscanfHex_prefix_iff ((List.prefix_append_right_inj _).mp hp)).mpr
      ((List.prefix_append_right_inj _).mp h)

/-! ### What the master finds -/

theorem length_line_lt (c : Command) : c.line.length < maxMessageSize := by
  -- the part in front of the bytes has a fixed length
  have hregister : ∀ (device : Digits 2) (address : Digits 4) (tail : Text),
      (registerText device.text address.text tail).length = 17 + tail.length := by
    intro device address tail
    have hdevice := device.length_eq
    have haddress := address.length_eq
    simp [registerText, hdevice, haddress]
    omega
  rw [Command.line, List.length_append, maxMessageSize]
  cases c with
  | write device address bytes hbytes =>
    rw [Command.text_write, hregister, List.length_append, List.length_cons, length_bytesText]
    simp
    omega
  | request device address =>
    rw [Command.text_request, hregister]
    decide
  | queryIds => decide
  | changeId ids hnew =>
    rw [Command.text_changeId, List.length_append, ids.length_eq]
    decide

/-- A text that fits the buffer and has no null character is parsed as it is. -/
theorem commandOf_eq {p : Text} (hlength : p.length < maxMessageSize) (hnull : '\x00' ∉ p) :
    commandOf p = parsePacket p := by
  have hstring : cString p = p := by
    rw [cString, List.takeWhile_eq_self_iff]
    intro c hc
    rw [decide_eq_true_iff]
    rintro rfl
    exact hnull hc
  unfold commandOf
  rw [hstring]
  cases p with
  | nil => rfl
  | cons a p =>
    rw [if_neg]
    rintro (h | h)
    · cases h
    · omega

/-- No character of a line is one of these. -/
theorem not_mem_line {x : Char} (hx : x ∉ "dev:  addr:=?-q!\r\n".toList) (hhex : isHex x = false)
    (c : Command) : x ∉ c.line := by
  have hregister : ∀ (device : Digits 2) (address : Digits 4) {tail : Text}, x ∉ tail →
      x ∉ registerText device.text address.text tail :=
    fun device address _ htail => not_mem_registerText (by simp_all) hhex device address htail
  have hdigits : ∀ {n : ℕ} (d : Digits n), x ∉ d.text := fun d => d.not_mem hhex
  have hbytes : ∀ bytes, x ∉ bytesText bytes := not_mem_bytesText hhex
  rw [Command.line, List.mem_append, not_or]
  refine ⟨?_, by simp_all⟩
  cases c with
  | write device address bytes _ => exact hregister device address (by simp_all)
  | request device address => exact hregister device address (by simp_all)
  | queryIds =>
    have hsub : "dev-q?".toList ⊆ "dev:  addr:=?-q!\r\n".toList := by decide
    exact fun hmem => hx (hsub hmem)
  | changeId ids _ =>
    have hsub : "dev-q!".toList ⊆ "dev:  addr:=?-q!\r\n".toList := by decide
    rw [Command.text_changeId, List.mem_append, not_or]
    exact ⟨fun hmem => hx (hsub hmem), hdigits ids⟩

/-- **The command that the master finds in a beginning of a line** is the command of that
line exactly when all of its core is there. -/
theorem commandOf_prefix_iff (c : Command) {p : Text} (hp : p <+: c.line) :
    commandOf p = some c.action ↔ c.core <+: p := by
  rw [commandOf_eq (hp.length_le.trans_lt (length_line_lt c))
    fun hmem => not_mem_line (by decide) (by decide) c (hp.subset hmem)]
  cases c with
  | write device address bytes hbytes => exact write_prefix_iff hbytes hp
  | request device address => exact request_prefix_iff hp
  | queryIds => exact queryIds_prefix_iff hp
  | changeId ids hnew => exact changeId_prefix_iff hnew hp

end CanServer
end HomeAutomation
