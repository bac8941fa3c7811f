import HomeAutomation.Proto.RoundTrip

/-!
# Typed arguments

A number or a list of bytes that is added to a command is what the other end reads,
whatever the number and however many bytes.  The number is written with 2, 4 or 8
digits, the bytes with 2 digits each, and the command travels as a line of text.

A command of words comes back from its line exactly when its action and its keys are
not empty (`OfWords.trip_iff`); the checked setters let an empty key in, and
`deserialize` does not.

## Main definitions

* `ServiceCommand.Trip` — what is read from the line of a command.
* `ServiceCommand.Delivers` — an argument is read at the other end, beside the others.

## Main results

* `ServiceCommand.OfWords.trip_iff` — when a command comes back from its line.
* `ServiceCommand.typedArguments` — numbers and bytes come back.
-/

namespace HomeAutomation
namespace ServiceCommand

open Str

/-- `c'` is read, into some object, from the line of `c`. -/
def Trip (c c' : ServiceCommand) : Prop :=
  ∃ (text : Text) (c₁ : ServiceCommand), c.serialize = .ok text ∧
    c₁.deserialize text = (c', .ok ())

/-- A line that is accepted has no empty key. -/
theorem OfWords.writable_of_deserialize_line {c c₁ c' : ServiceCommand} (hc : c.OfWords)
    (haction : c.action ≠ []) (h : c₁.deserialize c.line = (c', .ok ())) : c.Writable := by
  have hparse : parse c.line = .ok c' := by
    rw [deserialize_eq] at h
    cases hp : parse c.line with
    | error e =>
      rw [hp] at h
      cases h
    | ok c'' =>
      rw [hp] at h
      cases h
      rfl
  rw [line, parse_action (not_blank_of_checkString hc.1) (endsToken_flatMap _),
    if_neg (by simp [haction, hc.1]), tokens_flatMap hc.2] at hparse
  refine hc.writable haction fun e he hkey => ?_
  -- the parser stops at the token of an empty key
  cases htokens : parseTokens .empty (c.arguments.entries.map argumentToken) with
  | error e =>
    rw [htokens] at hparse
    cases hparse
  | ok args =>
    obtain ⟨es, hes, -⟩ := parseTokens_eq_ok_iff.mp htokens
    rw [List.forall₂_map_left_iff] at hes
    obtain ⟨i, hi, rfl⟩ := List.mem_iff_getElem.mp he
    have hparsed := parseArgument_eq_ok_iff.mpr (hes.get hi (by rw [← hes.length_eq]; exact hi))
    rw [argumentToken, List.get_eq_getElem,
      parseArgument_colon (colon_notMem_of_checkString (hc.2 _ he).1), if_pos (Or.inl hkey)]
      at hparsed
    cases hparsed

/-- **When a command comes back from its line**: its action and its keys are not
empty; and then it comes back as it was. -/
theorem OfWords.trip_iff {c c' : ServiceCommand} (hc : c.OfWords) :
    Trip c c' ↔ c' = c ∧ c.action ≠ [] ∧ ∀ e ∈ c.arguments.entries, e.1 ≠ [] := by
  constructor
  · rintro ⟨text, c₁, htext, hread⟩
    have haction : c.action ≠ [] := by
      intro h
      rw [serialize, h] at htext
      cases htext
    rw [serialize_eq_line haction] at htext
    cases htext
    have hw := hc.writable_of_deserialize_line haction hread
    rw [deserialize_line hw] at hread
    cases hread
    exact ⟨rfl, haction, fun e he => (hw.arguments e he).1⟩
  · rintro ⟨rfl, haction, hkeys⟩
    exact ⟨_, ⟨[], .empty⟩, serialize_eq_line haction,
      deserialize_line (hc.writable haction hkeys) _⟩

/-- From `c`, to which an argument was added under `key`, the other end reads a command
with that argument, beside the other arguments of `c`; and it reads one whenever the
action and the keys are not empty. -/
def Delivers (c : ServiceCommand) (key : Text) (c' : ServiceCommand)
    (read : ServiceCommand → Prop) : Prop :=
  ((∃ c'', Trip c' c'') ↔
    c.action ≠ [] ∧ key ≠ [] ∧ ∀ e ∈ c.arguments.entries, e.1 ≠ []) ∧
  ∀ c'', Trip c' c'' → read c'' ∧ c''.action = c.action ∧
    ∀ k, k ≠ key → c''.arguments.find k = c.arguments.find k

theorem delivers_insert {c : ServiceCommand} (hc : c.OfWords) {key value : Text}
    (hkey : checkString key = true) (hvalue : checkString value = true)
    {read : ServiceCommand → Prop}
    (hread : ∀ c' : ServiceCommand, c'.arguments.find key = some value → read c') :
    Delivers c key { c with arguments := c.arguments.insert key value } read := by
  have hc' : OfWords { c with arguments := c.arguments.insert key value } :=
    ⟨hc.1, fun e he => (OrderedMap.mem_insertIn he).elim
      (fun h => by rw [h]; exact ⟨hkey, hvalue⟩) (hc.2 e)⟩
  have hkeys : (∀ e ∈ (c.arguments.insert key value).entries, e.1 ≠ []) ↔
      key ≠ [] ∧ ∀ e ∈ c.arguments.entries, e.1 ≠ [] := by
    rw [← OrderedMap.findIn_eq_none_iff, ← OrderedMap.findIn_eq_none_iff]
    show (c.arguments.insert key value).find [] = none ↔ key ≠ [] ∧ c.arguments.find [] = none
    rw [OrderedMap.find_insert]
    split
    · next h => simp [← h]
    · next h => simp [Ne.symm h]
  constructor
  · constructor
    · rintro ⟨c'', hc''⟩
      obtain ⟨-, haction, hall⟩ := hc'.trip_iff.mp hc''
      exact ⟨haction, hkeys.mp hall⟩
    · rintro ⟨haction, hall⟩
      exact ⟨_, hc'.trip_iff.mpr ⟨rfl, haction, hkeys.mpr hall⟩⟩
  · intro c'' hc''
    obtain ⟨rfl, -⟩ := hc'.trip_iff.mp hc''
    refine ⟨hread _ ?_, rfl, fun k hk => ?_⟩
    · simp
    · simp [hk]

/-- **Typed arguments.**  In a command of words, any number and any bytes, at least one
of them, are read at the other end as they were added, and no other argument is
disturbed. -/
theorem typedArguments (c : ServiceCommand) (hc : c.OfWords) (key : Text)
    (hkey : checkString key = true) (hcmd : key ≠ "cmd".toList) :
    (∀ v : UInt32, ∃ c', c.addArgumentUnsigned key v = .ok c' ∧
      Delivers c key c' fun c'' => ∀ d, c''.getArgumentUnsigned key d = v) ∧
    ∀ w : List UInt8, w ≠ [] → ∃ c', c.addRawArgument key w = .ok c' ∧
      Delivers c key c' fun c'' => c''.getRawArgument key = some w := by
  constructor
  · intro v
    refine ⟨_, addArgument_eq hkey hcmd (checkString_unsignedText v) c, ?_⟩
    exact delivers_insert hc hkey (checkString_unsignedText v) fun _ hfind =>
      getArgumentUnsigned_of_find hfind
  · intro w hw
    refine ⟨_, addArgument_eq hkey hcmd (checkString_bodyText w) c, ?_⟩
    refine delivers_insert hc hkey (checkString_bodyText w) fun _ hfind => ?_
    rw [getRawArgument_of_find hfind, if_neg hw]

/-- A number of four digits and three bytes, added to a command with an argument. -/
theorem typedArguments_sample :
    (∃ c', samplePing.addArgumentUnsigned "n".toList 256 = .ok c' ∧
      ∃ c'', Trip c' c'' ∧ (∀ d, c''.getArgumentUnsigned "n".toList d = 256) ∧
        c''.arguments.find "k".toList = some []) ∧
    ∃ c', samplePing.addRawArgument "w".toList [0, 0x0a, 0xff] = .ok c' ∧
      ∃ c'', Trip c' c'' ∧ c''.getRawArgument "w".toList = some [0, 0x0a, 0xff] := by
  have hwords : samplePing.OfWords := ⟨by decide, by decide⟩
  obtain ⟨c₁, hadd₁, htrip₁, hread₁⟩ :=
    (typedArguments samplePing hwords "n".toList (by decide) (by decide)).1 256
  obtain ⟨c₂, hadd₂, htrip₂, hread₂⟩ :=
    (typedArguments samplePing hwords "w".toList (by decide) (by decide)).2 [0, 0x0a, 0xff]
      (by decide)
  obtain ⟨r₁, hr₁⟩ := htrip₁.mpr ⟨by decide, by decide, by decide⟩
  obtain ⟨r₂, hr₂⟩ := htrip₂.mpr ⟨by decide, by decide, by decide⟩
  obtain ⟨hnumber, -, hothers⟩ := hread₁ r₁ hr₁
  exact ⟨⟨c₁, hadd₁, r₁, hr₁, hnumber, hothers _ (by decide)⟩,
    c₂, hadd₂, r₂, hr₂, (hread₂ r₂ hr₂).1⟩

end ServiceCommand
end HomeAutomation
