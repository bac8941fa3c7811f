import Mathlib.Data.List.DropRight
import HomeAutomation.Can.CommandLine

/-!
# What the parser of the CAN master takes for a command

The parser looks for the name of a device at the beginning of a text, for an address and
a mark anywhere behind it, and converts what it finds there.  This module asks when that is
what the text says.

The number of a device is cut to seven bits and may have a sign, the mark of a request is
looked for behind a value as well, and the reader of the data stops without a word.  So the
parser takes texts for commands that are none, and acts on devices and values that nobody
has named.

## Main definitions

* `Denotes` — what a packet has to do with the text it was made of.
* `Sound` — what the parser makes of a text is what the text says.
* `HasFields`, `WellFormed` — what the parser asks of a text, and what it should ask.

## Main results

* `parsePacket_eq_some_iff` — the parser, in one equation.
* `sound_iff` — where the parser is sound.

## References

`ti/can_master/can_server.cpp`, `shared/include/ha/can_proto.h`.
-/

namespace HomeAutomation
namespace CanServer

open Hex Str

/-! ### What a text says -/

/-- The number that is written behind a tag. -/
def numberBehind (tag s : Text) : Option ℤ :=
  if tag.isPrefixOf s then signedNumber (s.drop tag.length) else none

/-- The text from its address on. -/
def addressField (t : Text) : Option Text := strstr t "addr:".toList

/-- The operator of a command: the first mark behind the address. -/
def operator (field : Text) : Option Char := field.find? fun c => c = '?' ∨ c = '='

/-- What stands behind the mark of a value. -/
def behindMark (field : Text) : Text := ((strchr field '=').getD []).drop 1

/-- The value, up to the end of the command.  Blanks at the end, a line ending among them,
are no part of it. -/
def operand (field : Text) : Text := (behindMark field).rdropWhile isSpace

/-- Digits for the bytes of a packet. -/
structure IsData (s : Text) : Prop where
  isHex : ∀ c ∈ s, Hex.isHex c = true
  even : 2 ∣ s.length
  length_le : s.length ≤ 16

/-- **What a packet has to do with its text**: it is for the device and the register whose
numbers are written there, it is a request when the operator is that of a request, and
otherwise has the bytes that are written behind the operator. -/
structure Denotes (t field : Text) (p : CanPacket) (request : Bool) : Prop where
  found : addressField t = some field
  device : numberBehind "dev:".toList t = some ((numberToPacketId p.id).deviceId.toNat : ℤ)
  address : numberBehind "addr:".toList field = some ((numberToPacketId p.id).address.toNat : ℤ)
  request_iff : request = true ↔ operator field = some '?'
  data : request = false →
    operator field = some '=' ∧ IsData (operand field) ∧ p.data = bytesOf (operand field)

/-- The parser takes a text only for what it says. -/
def Sound (t : Text) : Prop :=
  ∀ p request, parsePacket t = some (p, request) → ∃ field, Denotes t field p request

/-! ### What the parser asks -/

/-- What the parser asks of a text: numbers that its conversion takes for a byte and for
two bytes, and a mark. -/
structure HasFields (t field : Text) : Prop where
  found : addressField t = some field
  device : ∃ d ≤ 0xff, sscanfTag "dev:".toList t = some d
  address : ∃ a ≤ 0xffff, sscanfTag "addr:".toList field = some a
  marked : '?' ∈ field ∨ '=' ∈ field

/-- What a text has to be: it has the number of a device and that of an address, and then
either the operator of a request, or that of a value with nothing but its digits behind
it. -/
structure WellFormed (t field : Text) : Prop where
  device : ∃ d : ℕ, d ≤ 0x7f ∧ numberBehind "dev:".toList t = some (d : ℤ)
  address : ∃ a : ℕ, a ≤ 0xffff ∧ numberBehind "addr:".toList field = some (a : ℤ)
  command : operator field = some '?' ∨ operator field = some '=' ∧ IsData (operand field)

/-! ### The parser -/

/-- The parser, where the fields are. -/
theorem parsePacket_of_fields {t field : Text} {d a : ℕ} (hdevq : ¬ "dev-q".toList <+: t)
    (hfound : addressField t = some field) (hdevice : sscanfTag "dev:".toList t = some d)
    (hd : d ≤ 0xff) (haddress : sscanfTag "addr:".toList field = some a) (ha : a ≤ 0xffff) :
    parsePacket t =
      if '?' ∈ field then some (⟨registerId d a, Body.nil⟩, true)
      else if '=' ∈ field then
        some (⟨registerId d a, ⟨readData 8 (behindMark field), length_readData_le 8 _⟩⟩, false)
      else none := by
  rw [← List.isPrefixOf_iff_prefix, Bool.not_eq_true] at hdevq
  rw [parsePacket_of_tags hdevq hdevice hd hfound haddress ha]
  cases heq : strchr field '=' with
  | none =>
    have hmem : '=' ∉ field := strchr_eq_none_iff.mp heq
    rw [Option.map_none, if_neg hmem]
  | some ptr =>
    have hmem : '=' ∈ field := mem_iff_strchr_isSome.mpr (by rw [heq]; rfl)
    have hbehind : behindMark field = ptr.drop 1 := by rw [behindMark, heq, Option.getD_some]
    rw [Option.map_some, if_pos hmem]
    simp only [hbehind]

/-- What the parser takes has the fields. -/
theorem fields_of_parsePacket {t : Text} {r : CanPacket × Bool} (hdevq : ¬ "dev-q".toList <+: t)
    (h : parsePacket t = some r) :
    ∃ field d a, addressField t = some field ∧ sscanfTag "dev:".toList t = some d ∧ d ≤ 0xff ∧
      sscanfTag "addr:".toList field = some a ∧ a ≤ 0xffff := by
  -- each of the parser's checks that passes gives one of the fields
  rw [← List.isPrefixOf_iff_prefix] at hdevq
  rw [parsePacket, if_neg hdevq] at h
  split at h
  · cases h
  next d hd =>
  split at h
  · cases h
  next hle =>
  split at h
  · cases h
  next field hfield =>
  split at h
  · cases h
  next a ha =>
  split at h
  · cases h
  next hale => exact ⟨field, d, a, hfield, hd, not_lt.mp hle, ha, not_lt.mp hale⟩

/-- **The parser**, on a text that is no command for device ids. -/
theorem parsePacket_eq_some_iff {t : Text} (hdevq : ¬ "dev-q".toList <+: t) {p : CanPacket}
    {request : Bool} :
    parsePacket t = some (p, request) ↔
      ∃ field d a, addressField t = some field ∧ sscanfTag "dev:".toList t = some d ∧ d ≤ 0xff ∧
        sscanfTag "addr:".toList field = some a ∧ a ≤ 0xffff ∧ p.id = registerId d a ∧
        ('?' ∈ field ∧ request = true ∧ p.data = Body.nil ∨
          '?' ∉ field ∧ '=' ∈ field ∧ request = false ∧
            p.data.val = readData 8 (behindMark field)) := by
  obtain ⟨id, data⟩ := p
  -- the mark that stands behind the address decides
  constructor
  · intro h
    obtain ⟨field, d, a, hfound, hd, hdle, ha, hale⟩ := fields_of_parsePacket hdevq h
    refine ⟨field, d, a, hfound, hd, hdle, ha, hale, ?_⟩
    rw [parsePacket_of_fields hdevq hfound hd hdle ha hale] at h
    split at h
    · next hq =>
      cases h
      exact ⟨rfl, Or.inl ⟨hq, rfl, rfl⟩⟩
    split at h
    · next hq heq =>
      cases h
      exact ⟨rfl, Or.inr ⟨hq, heq, rfl, rfl⟩⟩
    · cases h
  · rintro ⟨field, d, a, hfound, hd, hdle, ha, hale, hid, hmark⟩
    rw [parsePacket_of_fields hdevq hfound hd hdle ha hale]
    obtain ⟨hq, hrequest, hdata⟩ | ⟨hq, heq, hrequest, hdata⟩ := hmark
    · dsimp only at hid hdata
      rw [if_pos hq, hid, hrequest, hdata]
    · have hbody : data = ⟨readData 8 (behindMark field), length_readData_le 8 _⟩ :=
        Subtype.ext hdata
      dsimp only at hid
      rw [if_neg hq, if_pos heq, hid, hrequest, hbody]

/-! ### Numbers and marks -/

/-- A tag with a number in range is converted to that number. -/
theorem sscanfTag_of_numberBehind {tag s : Text} {v : ℕ} (h : numberBehind tag s = some (v : ℤ))
    (hv : v < 2 ^ 32) : sscanfTag tag s = some v := by
  rw [numberBehind] at h
  split at h
  · next htag => rw [sscanfTag, if_pos htag, sscanfHex_of_signedNumber h hv]
  · cases h

/-- The device and the address of a packet for a register. -/
theorem registerId_fields (d a : ℕ) :
    (numberToPacketId (registerId d a)).deviceId.toNat = d % 128 ∧
      (numberToPacketId (registerId d a)).address.toNat = a % 65536 := by
  obtain ⟨hdevice, haddress⟩ := numberToPacketId_packetIdToNumber
    ⟨0, BitVec.ofNat 7 d, UInt16.ofNat a⟩
  rw [registerId, hdevice, haddress]
  exact ⟨BitVec.toNat_ofNat d 7, UInt16.toNat_ofNat'⟩

/-- Behind the operator of a value stands what the parser reads. -/
theorem eq_append_of_operator {field : Text} (h : operator field = some '=') :
    ∃ a, field = a ++ '=' :: behindMark field ∧ '?' ∉ a := by
  obtain ⟨-, a, b, hfield, ha⟩ := List.find?_eq_some_iff_append.mp h
  have hno : ∀ c ∈ a, c ≠ '?' ∧ c ≠ '=' := by simpa using ha
  have hmark : strchr field '=' = some ('=' :: b) := by
    rw [hfield, strchr_append fun h => (hno _ h).2 rfl]
    rfl
  have hbehind : behindMark field = b := by rw [behindMark, hmark, Option.getD_some]; rfl
  exact ⟨a, by rw [hbehind, hfield], fun h => (hno _ h).1 rfl⟩

/-- The operand and the blanks behind it. -/
theorem exists_blanks (field : Text) :
    ∃ e, (∀ c ∈ e, isSpace c = true) ∧ behindMark field = operand field ++ e :=
  ⟨(behindMark field).rtakeWhile isSpace, fun _ => List.mem_rtakeWhile_imp,
    (List.rdropWhile_append_rtakeWhile ..).symm⟩

/-- Nothing but digits behind the operator of a value: no mark of a request. -/
theorem not_mem_of_isData {field : Text} (h : operator field = some '=')
    (hdata : IsData (operand field)) : '?' ∉ field := by
  intro hq
  obtain ⟨e, he, hbehind⟩ := exists_blanks field
  obtain ⟨a, hfield, ha⟩ := eq_append_of_operator h
  have hq' : '?' ∈ a ++ '=' :: behindMark field := by
    rw [← hfield]
    exact hq
  have hmem : '?' ∈ operand field ++ e := by
    rw [← hbehind]
    simpa [ha] using hq'
  obtain hmem | hmem := List.mem_append.mp hmem
  · exact absurd (hdata.isHex _ hmem) (by decide)
  · exact absurd (he _ hmem) (by decide)

/-- The bytes that the parser reads of digits. -/
theorem readData_behindMark {field : Text} (hdata : IsData (operand field)) :
    readData 8 (behindMark field) = bytesOf (operand field) := by
  obtain ⟨e, he, hbehind⟩ := exists_blanks field
  rw [hbehind]
  exact readData_digits hdata.isHex hdata.even he hdata.length_le

/-! ### Where the parser is sound -/

/-- A well-formed text with its fields is taken for what it says. -/
theorem denotes_of_wellFormed {t field : Text} {p : CanPacket} {request : Bool} {d a : ℕ}
    (hfound : addressField t = some field) (hwf : WellFormed t field)
    (hd : sscanfTag "dev:".toList t = some d) (ha : sscanfTag "addr:".toList field = some a)
    (hid : p.id = registerId d a)
    (hmark : '?' ∈ field ∧ request = true ∧ p.data = Body.nil ∨
      '?' ∉ field ∧ '=' ∈ field ∧ request = false ∧ p.data.val = readData 8 (behindMark field)) :
    Denotes t field p request := by
  -- the two numbers of the text are those that were read
  obtain ⟨d', hd', hdevice⟩ := hwf.device
  obtain ⟨a', ha', haddress⟩ := hwf.address
  obtain rfl : d' = d := Option.some.inj
    ((sscanfTag_of_numberBehind hdevice (by omega)).symm.trans hd)
  obtain rfl : a' = a := Option.some.inj
    ((sscanfTag_of_numberBehind haddress (by omega)).symm.trans ha)
  obtain ⟨hfields, hfields'⟩ := registerId_fields d' a'
  refine ⟨hfound, ?_, ?_, ?_, ?_⟩
  · rw [hid, hfields, Nat.mod_eq_of_lt (by omega)]
    exact hdevice
  · rw [hid, hfields', Nat.mod_eq_of_lt (by omega)]
    exact haddress
  -- a question mark is no part of the bytes
  · constructor
    · intro hrequest
      obtain ⟨hq, -, -⟩ | ⟨-, -, hvalue, -⟩ := hmark
      · exact hwf.command.resolve_right fun h => not_mem_of_isData h.1 h.2 hq
      · rw [hrequest] at hvalue
        cases hvalue
    · intro hop
      obtain ⟨-, hrequest, -⟩ | ⟨hq, -, -, -⟩ := hmark
      · exact hrequest
      · exact absurd (List.mem_of_find?_eq_some hop) hq
  · intro hvalue
    -- a value is read from what is behind the mark
    obtain ⟨-, hrequest, -⟩ | ⟨hq, -, -, hdata⟩ := hmark
    · rw [hvalue] at hrequest
      cases hrequest
    · obtain ⟨hop, hisData⟩ := hwf.command.resolve_left fun h =>
        hq (List.mem_of_find?_eq_some h)
      exact ⟨hop, hisData, by rw [hdata, readData_behindMark hisData]⟩

/-- A text that is taken for what it says is well-formed. -/
theorem wellFormed_of_denotes {t field : Text} {p : CanPacket} {request : Bool}
    (h : Denotes t field p request) : WellFormed t field := by
  have hdevice := (numberToPacketId p.id).deviceId.isLt
  have haddress := (numberToPacketId p.id).address.toNat_lt
  refine ⟨⟨_, by omega, h.device⟩, ⟨_, by omega, h.address⟩, ?_⟩
  cases request with
  | true => exact Or.inl (h.request_iff.mp rfl)
  | false =>
    obtain ⟨hop, hdata, -⟩ := h.data rfl
    exact Or.inr ⟨hop, hdata⟩

/-- A text with the fields is taken for something, so it has to be well-formed. -/
theorem wellFormed_of_sound {t field : Text} (hdevq : ¬ "dev-q".toList <+: t) (hsound : Sound t)
    (hfields : HasFields t field) : WellFormed t field := by
  obtain ⟨hfound, ⟨d, hdle, hd⟩, ⟨a, hale, ha⟩, hmark⟩ := hfields
  have htaken : ∃ r, parsePacket t = some r := by
    rw [parsePacket_of_fields hdevq hfound hd hdle ha hale]
    by_cases hq : '?' ∈ field
    · exact ⟨_, if_pos hq⟩
    · exact ⟨_, (if_neg hq).trans (if_pos (hmark.resolve_left hq))⟩
  obtain ⟨⟨p, request⟩, hparse⟩ := htaken
  obtain ⟨field', hdenotes⟩ := hsound p request hparse
  obtain rfl : field' = field := Option.some.inj (hdenotes.found.symm.trans hfound)
  exact wellFormed_of_denotes hdenotes

/-- **Where the parser is sound**: on the texts without the fields that it looks for, which
it rejects, and on those that are well-formed. -/
theorem sound_iff {t : Text} (hdevq : ¬ "dev-q".toList <+: t) :
    Sound t ↔ ∀ field, HasFields t field → WellFormed t field := by
  constructor
  · exact fun hsound field => wellFormed_of_sound hdevq hsound
  · intro hwf p request hparse
    obtain ⟨field, d, a, hfound, hd, hdle, ha, hale, hid, hmark⟩ :=
      (parsePacket_eq_some_iff hdevq).mp hparse
    have hmarked : '?' ∈ field ∨ '=' ∈ field :=
      hmark.imp (fun h => h.1) fun h => h.2.1
    exact ⟨field, denotes_of_wellFormed hfound
      (hwf field ⟨hfound, ⟨d, hdle, hd⟩, ⟨a, hale, ha⟩, hmarked⟩) hd ha hid hmark⟩

/-- A value for a register, with its line ending. -/
theorem sound_value : Sound "dev:05 addr:0030 =12fE\r\n".toList := by
  refine (sound_iff (by decide)).mpr fun field hfields => ?_
  have hfound : addressField "dev:05 addr:0030 =12fE\r\n".toList
      = some "addr:0030 =12fE\r\n".toList := by decide
  obtain rfl := Option.some.inj (hfields.found.symm.trans hfound)
  exact ⟨⟨5, by decide, by decide⟩, ⟨0x30, by decide, by decide⟩,
    Or.inr ⟨by decide, ⟨List.all_eq_true.mp (by decide), by decide, by decide⟩⟩⟩

/-- **Texts that the parser takes for what they do not say**: the number of no device, a
number below zero, the mark of a request behind a value, and half a byte. -/
theorem not_sound_of_malformed :
    ¬ Sound "dev:ff addr:0 ?".toList ∧ ¬ Sound "dev:-ffffff83 addr:0 ?".toList ∧
      ¬ Sound "dev:05 addr:0 =12?".toList ∧ ¬ Sound "dev:05 addr:0 =123".toList := by
  refine ⟨fun h => ?_, fun h => ?_, fun h => ?_, fun h => ?_⟩
  · have hfields : HasFields "dev:ff addr:0 ?".toList "addr:0 ?".toList :=
      ⟨by decide, ⟨0xff, by decide, by decide⟩, ⟨0, by decide, by decide⟩, by decide⟩
    have hwf := wellFormed_of_sound (by decide) h hfields
    obtain ⟨d, hd, hdevice⟩ := hwf.device
    -- there is no device of that number
    have hnumber : numberBehind "dev:".toList "dev:ff addr:0 ?".toList = some 255 := by decide
    rw [hnumber, Option.some.injEq] at hdevice
    omega
  · have hfields : HasFields "dev:-ffffff83 addr:0 ?".toList "addr:0 ?".toList :=
      ⟨by decide, ⟨0x7d, by decide, by decide⟩, ⟨0, by decide, by decide⟩, by decide⟩
    have hwf := wellFormed_of_sound (by decide) h hfields
    obtain ⟨d, hd, hdevice⟩ := hwf.device
    -- nor one below zero
    have hnumber : numberBehind "dev:".toList "dev:-ffffff83 addr:0 ?".toList
        = some (-0xffffff83) := by decide
    rw [hnumber, Option.some.injEq] at hdevice
    omega
  · have hfields : HasFields "dev:05 addr:0 =12?".toList "addr:0 =12?".toList :=
      ⟨by decide, ⟨5, by decide, by decide⟩, ⟨0, by decide, by decide⟩, by decide⟩
    have hwf := wellFormed_of_sound (by decide) h hfields
    obtain hop | ⟨-, hdata⟩ := hwf.command
    -- the question mark behind a byte makes it a request
    · exact absurd hop (by decide)
    · exact absurd (hdata.isHex '?' (by decide)) (by decide)
  · have hfields : HasFields "dev:05 addr:0 =123".toList "addr:0 =123".toList :=
      ⟨by decide, ⟨5, by decide, by decide⟩, ⟨0, by decide, by decide⟩, by decide⟩
    have hwf := wellFormed_of_sound (by decide) h hfields
    obtain hop | ⟨-, hdata⟩ := hwf.command
    -- the last digit is dropped
    · exact absurd hop (by decide)
    · exact absurd hdata.even (by decide)

end CanServer
end HomeAutomation
