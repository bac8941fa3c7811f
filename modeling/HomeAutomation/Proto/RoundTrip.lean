import HomeAutomation.Proto.CommandGrammar

/-!
# Command lines read back

What `Packet::create` makes of a line that `ServiceCommand::serialize` wrote, and
what the typed argument readers make of the text their writers stored.

## Main definitions

* `ServiceCommand.argumentToken` — the text of an argument.
* `ServiceCommand.Writable` — a command of words that has an action and only such
  arguments.
* `ServiceCommand.Built` — a command that the checked setters build.

## Main results

* `ServiceCommand.tokens_flatMap`, `ServiceCommand.Writable.grammatical` — what is
  written is of the grammar.
* `ServiceCommand.Writable.transmits_iff` — a writable command comes back unchanged.
* `ServiceCommand.roundTrip` — commands of the checked setters come back from their lines,
  and accepted lines from their commands.
* `ServiceCommand.getArgumentUnsigned_of_find` — an unsigned argument comes back.
* `readBytes_bodyText`, `getRawArgument_of_find` — so do raw bytes, unless there
  are none.
-/

namespace HomeAutomation

open Hex Str

/-! ### Words -/

theorem isWordChar_of_isHex {c : Char} (hc : isHex c = true) : isWordChar c = true := by
  have hval : ∃ n, hexVal c = some n := Option.isSome_iff_exists.mp hc
  obtain ⟨n, hn⟩ := hval
  unfold hexVal at hn
  have halnum : c.isAlphanum = true := by
    change ((decide (c.val ≥ 'A'.val ∧ c.val ≤ 'Z'.val) ||
        decide (c.val ≥ 'a'.val) && decide (c.val ≤ 'z'.val)) ||
      decide (c.val ≥ '0'.val) && decide (c.val ≤ '9'.val)) = true
    simp only [Bool.or_eq_true, Bool.and_eq_true, decide_eq_true_eq, ge_iff_le]
    simp only [Char.le_def] at hn
    split at hn
    · next h => exact Or.inr h
    · split at hn
      · next h => exact Or.inl (Or.inr ⟨h.1, UInt32.le_trans h.2 (by decide)⟩)
      · split at hn
        · next h => exact Or.inl (Or.inl ⟨h.1, UInt32.le_trans h.2 (by decide)⟩)
        · exact absurd hn (by simp)
  simp [isWordChar, halnum]

theorem checkString_of_isHex {s : Text} (h : ∀ c ∈ s, isHex c = true) : checkString s = true :=
  checkString_iff.mpr fun c hc => isWordChar_of_isHex (h c hc)

theorem checkString_hexPad (w n : ℕ) : checkString (hexPad w n) = true :=
  checkString_of_isHex fun _ => isHex_of_mem_hexPad

theorem checkString_unsignedText (v : UInt32) :
    checkString (ServiceCommand.unsignedText v) = true :=
  checkString_hexPad _ _

theorem isHex_of_mem_bodyText {body : List UInt8} {c : Char} (hc : c ∈ Message.bodyText body) :
    isHex c = true := by
  obtain ⟨b, -, hb⟩ := List.mem_flatMap.mp hc
  exact isHex_of_mem_hexPad hb

theorem checkString_bodyText (body : List UInt8) : checkString (Message.bodyText body) = true :=
  checkString_of_isHex fun _ => isHex_of_mem_bodyText

/-! ### The tokens of a line -/

namespace ServiceCommand

/-- The text of an argument, without the blank before it. -/
def argumentToken (e : Text × Text) : Text := e.1 ++ ':' :: e.2

/-- An argument of words, whose key may be empty. -/
def WordArgument (e : Text × Text) : Prop := checkString e.1 = true ∧ checkString e.2 = true

theorem not_blank_argumentToken {e : Text × Text} (he : WordArgument e) :
    ∀ c ∈ argumentToken e, isBlank c = false := by
  intro c hc
  rcases List.mem_append.mp hc with hc | hc
  · exact not_blank_of_checkString he.1 c hc
  · rcases List.mem_cons.mp hc with rfl | hc
    · decide
    · exact not_blank_of_checkString he.2 c hc

/-- The line behind an argument is empty or starts with a blank. -/
theorem endsToken_flatMap (l : List (Text × Text)) :
    EndsToken isBlank (l.flatMap argumentText) := by
  cases l with
  | nil => exact fun c hc => by cases hc
  | cons e l =>
    intro c hc
    obtain rfl : ' ' = c := by simpa [argumentText] using hc
    decide

/-- **The tokens behind the action are the arguments**, in order. -/
theorem tokens_flatMap : ∀ {l : List (Text × Text)}, (∀ e ∈ l, WordArgument e) →
    tokens isBlank (l.flatMap argumentText) = l.map argumentToken := by
  intro l
  induction l with
  | nil => intro _; exact tokens_eq_nil (fun c hc => absurd hc List.not_mem_nil)
  | cons e l ih =>
    intro hl
    have he := hl e List.mem_cons_self
    have hne : argumentToken e ≠ [] := by simp [argumentToken]
    have hline : (e :: l).flatMap argumentText
        = [' '] ++ (argumentToken e ++ l.flatMap argumentText) := by
      simp [argumentText, argumentToken]
    rw [hline, tokens_blank (by simp [isBlank]),
      tokens_run hne (not_blank_argumentToken he) (endsToken_flatMap l),
      ih fun d hd => hl d (List.mem_cons_of_mem e hd), List.map_cons]

/-! ### The whole line -/

/-- A command of words that has an action and no empty key. -/
structure Writable (c : ServiceCommand) : Prop where
  action_ne : c.action ≠ []
  action : checkString c.action = true
  arguments : ∀ e ∈ c.arguments.entries, ValidArgument e

theorem writable_create {action : Text} (hne : action ≠ []) (h : checkString action = true) :
    Writable ⟨action, .empty⟩ :=
  ⟨hne, h, fun _ he => absurd he List.not_mem_nil⟩

/-- The checked setter keeps a command writable. -/
theorem Writable.insert {c : ServiceCommand} (hc : c.Writable) (key : Text) {value : Text}
    (hne : key ≠ []) (hkey : checkString key = true) (hvalue : checkString value = true) :
    Writable { c with arguments := c.arguments.insert key value } := by
  refine ⟨hc.action_ne, hc.action, fun e he => ?_⟩
  rcases OrderedMap.mem_insertIn he with rfl | he
  · exact ⟨hne, hkey, hvalue⟩
  · exact hc.arguments e he

/-- The line of a command, once the check for an empty action passed. -/
def line (c : ServiceCommand) : Text :=
  "cmd:".toList ++ (c.action ++ c.arguments.entries.flatMap argumentText)

theorem serialize_eq_line {c : ServiceCommand} (h : c.action ≠ []) :
    c.serialize = .ok c.line := by
  have : c.action.isEmpty = false := by simpa using h
  simp only [serialize, this, Bool.not_false, verify_true, line, List.append_assoc]
  rfl

/-- The line of a writable command is of the grammar. -/
theorem Writable.grammatical {c : ServiceCommand} (hc : c.Writable) :
    Grammatical c.line c.action c.arguments.entries := by
  refine ⟨_, rfl, endsToken_flatMap _, hc.action_ne, hc.action, ?_⟩
  rw [tokens_flatMap fun e he => (hc.arguments e he).2, List.forall₂_map_left_iff,
    List.forall₂_same]
  exact fun e he => ⟨rfl, hc.arguments e he⟩

theorem deserialize_line {c : ServiceCommand} (hc : c.Writable) (c₀ : ServiceCommand) :
    c₀.deserialize c.line = (c, .ok ()) :=
  deserialize_eq_ok_iff.mpr
    ⟨c.arguments.entries, hc.grammatical, (OrderedMap.foldl_insert_entries _).symm⟩

/-- **A writable command comes back unchanged.** -/
theorem create_line {c : ServiceCommand} (hc : c.Writable) :
    Packet.create c.line = .ok (.serviceCommand c) := by
  have hdevq : find "dev-q:".toList c.line 0 ≠ some 0 := by
    intro h
    rw [find, List.drop_zero, show c.line = 'c' :: ("md:".toList ++ (c.action ++
      c.arguments.entries.flatMap argumentText)) from rfl, indexOf] at h
    simp at h
  have hcmd : find "cmd:".toList c.line 0 = some 0 := by
    simp [find, line, indexOf]
  rw [Packet.create, if_neg hdevq, if_pos hcmd, deserialize_line hc]
  rfl

/-- `c'` is what the other end of a connection reads when `c` is sent. -/
def Transmits (c c' : ServiceCommand) : Prop :=
  ∃ text, c.serialize = .ok text ∧ Packet.create text = .ok (.serviceCommand c')

theorem Writable.transmits_iff {c : ServiceCommand} (hc : c.Writable) {c' : ServiceCommand} :
    Transmits c c' ↔ c' = c := by
  have hline := serialize_eq_line hc.action_ne
  constructor
  · rintro ⟨text, htext, hcreate⟩
    rw [hline] at htext
    cases htext
    rw [create_line hc] at hcreate
    cases hcreate
    rfl
  · rintro rfl
    exact ⟨_, hline, create_line hc⟩

/-! ### Commands that are built, and commands that are read -/

/-- **A command built with the checked setters.** -/
inductive Built : ServiceCommand → Prop
  | create {action : Text} {c : ServiceCommand} (h : create action = .ok c) : Built c
  | setAction {c c' : ServiceCommand} {value : Text} (hc : Built c)
      (h : c.setAction value = .ok c') : Built c'
  | addArgument {c c' : ServiceCommand} {key value : Text} (hc : Built c)
      (h : c.addArgument key value = .ok c') : Built c'
  | addArgumentUnsigned {c c' : ServiceCommand} {key : Text} {value : UInt32} (hc : Built c)
      (h : c.addArgumentUnsigned key value = .ok c') : Built c'
  | addRawArgument {c c' : ServiceCommand} {key : Text} {value : List UInt8} (hc : Built c)
      (h : c.addRawArgument key value = .ok c') : Built c'

/-- A check that passes. -/
theorem of_verify_bind {α : Type} {x : Bool} {f : Unit → Except Fault α} {a : α}
    (h : (verify x >>= f) = .ok a) : x = true ∧ f () = .ok a := by
  cases x with
  | false => cases h
  | true => exact ⟨rfl, h⟩

/-- What the checked setter checks, and what it stores. -/
theorem of_addArgument {c c' : ServiceCommand} {key value : Text}
    (h : c.addArgument key value = .ok c') : checkString key = true ∧ checkString value = true ∧
      c' = { c with arguments := c.arguments.insert key value } := by
  obtain ⟨hkey, h⟩ := of_verify_bind h
  obtain ⟨-, h⟩ := of_verify_bind h
  obtain ⟨hvalue, h⟩ := of_verify_bind h
  cases h
  exact ⟨hkey, hvalue, rfl⟩

/-- A command of words. -/
def OfWords (c : ServiceCommand) : Prop :=
  checkString c.action = true ∧
    ∀ e ∈ c.arguments.entries, checkString e.1 = true ∧ checkString e.2 = true

theorem OfWords.addArgument {c c' : ServiceCommand} {key value : Text} (hc : c.OfWords)
    (h : c.addArgument key value = .ok c') : c'.OfWords := by
  obtain ⟨hkey, hvalue, rfl⟩ := of_addArgument h
  refine ⟨hc.1, fun e he => ?_⟩
  rcases OrderedMap.mem_insertIn he with rfl | he
  · exact ⟨hkey, hvalue⟩
  · exact hc.2 e he

/-- **The setters only let words in.** -/
theorem Built.ofWords {c : ServiceCommand} (hc : Built c) : c.OfWords := by
  induction hc with
  | create h =>
    obtain ⟨haction, h⟩ := of_verify_bind h
    cases h
    exact ⟨haction, fun e he => absurd he List.not_mem_nil⟩
  | setAction _ h ih =>
    obtain ⟨haction, h⟩ := of_verify_bind h
    cases h
    exact ⟨haction, ih.2⟩
  | addArgument _ h ih => exact ih.addArgument h
  | addArgumentUnsigned _ h ih => exact ih.addArgument h
  | addRawArgument _ h ih => exact ih.addArgument h

theorem OfWords.writable {c : ServiceCommand} (hc : c.OfWords) (haction : c.action ≠ [])
    (hkeys : ∀ e ∈ c.arguments.entries, e.1 ≠ []) : c.Writable where
  action_ne := haction
  action := hc.1
  arguments e he := ⟨hkeys e he, hc.2 e he⟩

/-- Inserting valid arguments leaves the arguments valid. -/
theorem valid_foldl_insert : ∀ {es : List (Text × Text)} {m : Arguments},
    (∀ e ∈ es, ValidArgument e) → (∀ e ∈ m.entries, ValidArgument e) →
      ∀ e ∈ (es.foldl (fun m e => m.insert e.1 e.2) m).entries, ValidArgument e := by
  intro es
  induction es with
  | nil => exact fun _ hm => hm
  | cons e es ih =>
    intro m hes hm
    refine ih (fun d hd => hes d (List.mem_cons_of_mem e hd)) fun d hd => ?_
    rcases OrderedMap.mem_insertIn hd with rfl | hd
    · exact hes _ List.mem_cons_self
    · exact hm d hd

/-- **A command that was read can be written.** -/
theorem writable_of_deserialize {c₀ c : ServiceCommand} {line : Text}
    (h : c₀.deserialize line = (c, .ok ())) : c.Writable := by
  obtain ⟨es, ⟨rest, -, -, hne, hcheck, htokens⟩, hes⟩ := deserialize_eq_ok_iff.mp h
  have hvalid : ∀ e ∈ es, ValidArgument e := by
    intro e he
    obtain ⟨i, hi, rfl⟩ := List.mem_iff_getElem.mp he
    exact (htokens.get (by rw [htokens.length_eq]; exact hi) hi).2
  refine ⟨hne, hcheck, ?_⟩
  rw [hes]
  exact valid_foldl_insert hvalid fun e he => absurd he List.not_mem_nil

/-- The command of a packet can be written. -/
theorem writable_of_create {c : ServiceCommand} {line : Text}
    (h : Packet.create line = .ok (.serviceCommand c)) : c.Writable := by
  have hwrap : ∀ {α : Type} {wrap : α → Packet} {r : α × Except Exception Unit},
      Packet.ofOutcome wrap r = .ok (.serviceCommand c) →
        ∃ a, wrap a = .serviceCommand c ∧ r = (a, .ok ()) := by
    rintro α wrap ⟨a, result⟩ h
    cases result with
    | error e => cases h
    | ok u => exact ⟨a, Except.ok.inj h, rfl⟩
  unfold Packet.create at h
  split at h
  · obtain ⟨a, ha, -⟩ := hwrap h
    cases ha
  · split at h
    · obtain ⟨a, ha, hline⟩ := hwrap h
      cases ha
      exact writable_of_deserialize hline
    · obtain ⟨a, ha, -⟩ := hwrap h
      cases ha

/-- **Commands and lines.**  A command built with the checked setters comes back from its
line, if its action and its keys are not empty; and a line that is accepted stands for a
command that comes back from its own line. -/
theorem roundTrip :
    (∀ c, Built c → c.action ≠ [] → (∀ e ∈ c.arguments.entries, e.1 ≠ []) →
      ∃ text, (Packet.serviceCommand c).convertToString = .ok text ∧
        Packet.create text = .ok (.serviceCommand c)) ∧
    (∀ c₀ line c, deserialize c₀ line = (c, .ok ()) →
      ∃ text, (Packet.serviceCommand c).convertToString = .ok text ∧
        ∀ c₁, deserialize c₁ text = (c, .ok ())) := by
  constructor
  · intro c hc haction hkeys
    have hwritable := hc.ofWords.writable haction hkeys
    exact ⟨c.line, serialize_eq_line haction, create_line hwritable⟩
  · intro c₀ line c h
    have hwritable := writable_of_deserialize h
    exact ⟨c.line, serialize_eq_line hwritable.action_ne, deserialize_line hwritable⟩

/-- A command with an argument that has no value. -/
def samplePing : ServiceCommand := ⟨"ping".toList, OrderedMap.empty.insert "k".toList []⟩

/-- The command of a line whose arguments are out of order, one of them set twice. -/
def sampleLine : ServiceCommand :=
  ⟨"x".toList, (OrderedMap.empty.insert "a".toList []).insert "b".toList "2".toList⟩

/-- The two of them come back. -/
theorem roundTrip_sample :
    (∃ text, (Packet.serviceCommand samplePing).convertToString = .ok text ∧
      Packet.create text = .ok (.serviceCommand samplePing)) ∧
    ∃ text, (Packet.serviceCommand sampleLine).convertToString = .ok text ∧
      ∀ c₁, deserialize c₁ text = (sampleLine, .ok ()) := by
  obtain ⟨hbuilt, hread⟩ := roundTrip
  have hping : create "ping".toList = .ok ⟨"ping".toList, .empty⟩ := create_eq (by decide)
  have hadd : addArgument ⟨"ping".toList, .empty⟩ "k".toList [] = .ok samplePing :=
    addArgument_eq (by decide) (by decide) (by decide) _
  have hline : deserialize ⟨[], .empty⟩ "cmd:x b:1\ta: b:2 ".toList = (sampleLine, .ok ()) := by
    decide
  exact ⟨hbuilt samplePing (.addArgument (.create hping) hadd) (by decide) (by decide),
    hread ⟨[], .empty⟩ _ sampleLine hline⟩

end ServiceCommand

/-! ### Typed arguments -/

theorem length_hexPad_byte (b : UInt8) : (hexPad 2 b.toNat).length = 2 :=
  length_hexPad (by decide) b.toNat_lt

theorem length_bodyText (body : List UInt8) :
    (Message.bodyText body).length = 2 * body.length := by
  induction body with
  | nil => rfl
  | cons b body ih =>
    rw [Message.bodyText, List.flatMap_cons, List.length_append, length_hexPad_byte,
      List.length_cons]
    rw [Message.bodyText] at ih
    omega

/-- **Bytes come back**, wherever in a text they stand. -/
theorem readBytes_bodyText : ∀ (body : List UInt8) (pre rest : Text),
    Message.readBytes (pre ++ (Message.bodyText body ++ rest)) pre.length body.length = body := by
  intro body
  induction body with
  | nil => intro pre rest; rfl
  | cons b body ih =>
    intro pre rest
    have hline : pre ++ (Message.bodyText (b :: body) ++ rest)
        = pre ++ (hexPad 2 b.toNat ++ (Message.bodyText body ++ rest)) := by
      simp [Message.bodyText]
    -- the first byte is read, the others are read behind it
    have hfirst : substr (pre ++ (Message.bodyText (b :: body) ++ rest)) pre.length 2
        = hexPad 2 b.toNat := by
      have := substr_append pre (hexPad 2 b.toNat) (Message.bodyText body ++ rest)
      rwa [length_hexPad_byte, ← hline] at this
    have hbyte : UInt8.ofNat (istreamHex 32 (hexPad 2 b.toNat)).2 = b := by
      have h256 := b.toNat_lt
      have := istreamHex_hexPad 32 2 (n := b.toNat) (by omega) stops_nil
      rw [List.append_nil] at this
      rw [this, UInt8.ofNat_toNat]
    have hrest := ih (pre ++ hexPad 2 b.toNat) rest
    rw [List.append_assoc, ← hline, List.length_append, length_hexPad_byte] at hrest
    rw [Message.readBytes, List.length_cons, List.range_succ_eq_map, List.map_cons, List.map_map]
    rw [Nat.zero_mul, Nat.add_zero, hfirst, hbyte]
    refine congrArg (b :: ·) ?_
    rw [Message.readBytes] at hrest
    rw [← hrest]
    simp only [List.length_map, List.length_range]
    refine List.map_congr_left fun i _ => ?_
    rw [hrest, Function.comp_apply, Nat.succ_mul, Nat.add_comm (i * 2) 2, Nat.add_assoc]

namespace ServiceCommand

/-- **An unsigned argument comes back.** -/
theorem getArgumentUnsigned_of_find {c : ServiceCommand} {key : Text} {v : UInt32}
    (h : c.arguments.find key = some (unsignedText v)) (d : UInt32) :
    c.getArgumentUnsigned key d = v := by
  have hne : unsignedText v ≠ [] := hexPad_ne_nil _ _
  have hread := istreamHex_hexPad 32
    (if v.toNat < 256 then 2 else if v.toNat < 256 * 256 then 4 else 8) v.toNat_lt stops_nil
  rw [List.append_nil] at hread
  rw [getArgumentUnsigned, getArgument, h, Option.getD_some, if_neg hne, unsignedText, hread,
    UInt32.ofNat_toNat]

/-- **Raw bytes come back**, unless there are none. -/
theorem getRawArgument_of_find {c : ServiceCommand} {key : Text} {body : List UInt8}
    (h : c.arguments.find key = some (Message.bodyText body)) :
    c.getRawArgument key = if body = [] then none else some body := by
  have hlen := length_bodyText body
  rw [getRawArgument, getArgument, h, Option.getD_some]
  by_cases hb : body = []
  · have hnil : Message.bodyText body = [] := by rw [hb]; rfl
    rw [if_pos hb, if_pos (Or.inl hnil)]
  · have hpos : 0 < body.length := List.length_pos_iff.mpr hb
    have hne : Message.bodyText body ≠ [] := by
      intro h0
      rw [h0] at hlen
      simp only [List.length_nil] at hlen
      omega
    have hhex : findFirstNotOf isHex (Message.bodyText body) 0 = none :=
      findFirstOf_zero_eq_none_iff.mpr fun c hc => by simp [isHex_of_mem_bodyText hc]
    have hread := readBytes_bodyText body [] []
    rw [List.nil_append, List.append_nil, List.length_nil] at hread
    rw [if_neg hb, if_neg (by simp [hne, hhex, hlen]), hlen, Nat.mul_div_cancel_left _ (by decide),
      hread]

end ServiceCommand
end HomeAutomation
