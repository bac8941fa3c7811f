import HomeAutomation.Proto.Message
import Mathlib.Data.List.Forall2

/-!
# The grammar of command lines

`ServiceCommand::deserialize` moves along the line with searches from one position to
the next, and looks for the colon of an argument in everything that is left of the line.
It accepts a line exactly when this is a command of the grammar: the mark `cmd:`, the
word of the action, and behind it tokens of the form `key:value`.

The loop over the arguments is given a second time, as the program runs it: without a
bound on its turns, and with a `substr` that throws for a position behind the end of the
line.  There it has a result for every line.

## Main definitions

* `readAction`, `readArgument` — the two scans of the parser.
* `ArgumentLoop`, `Deserializes` — the loop and the parser as the program runs them.
* `IsArgument`, `Grammatical` — the grammar.

## Main results

* `exists_turn` — what one turn of the loop does.
* `deserializes_iff` — the parser ends on every line, as `deserialize` says.
* `deserialize_eq_ok_iff` — it accepts the grammar, a later argument replacing an earlier
  one with the same key.
* `error_of_deserialize` — it rejects every other line in the same way.
* `deserializes_grammar` — all of this about the parser as the program runs it.

## References

`common/source/proto/Message.cpp`.
-/

namespace HomeAutomation

open Str

/-- A word character is neither a separator of the line nor of an argument. -/
theorem not_sep_of_isWordChar {c : Char} (hc : isWordChar c = true) :
    isBlank c = false ∧ (c == ':') = false := by
  have hne : ∀ d : Char, isWordChar d = false → c ≠ d := by
    rintro d hd rfl
    rw [hc] at hd
    exact Bool.noConfusion hd
  simp [isBlank, hne ' ' (by decide), hne '\t' (by decide), hne ':' (by decide)]

theorem not_blank_of_checkString {s : Text} (hs : checkString s = true) :
    ∀ c ∈ s, isBlank c = false :=
  fun c hc => (not_sep_of_isWordChar (checkString_iff.mp hs c hc)).1

theorem colon_notMem_of_checkString {s : Text} (hs : checkString s = true) : ':' ∉ s := by
  intro hmem
  have := (not_sep_of_isWordChar (checkString_iff.mp hs ':' hmem)).2
  cases this

namespace ServiceCommand

/-! ### The parser as the program runs it -/

/-- `s.substr(pos, n)`. -/
def substrAt (s : Text) (pos n : ℕ) : Except Exception Text :=
  if s.length < pos then .error (.outOfRange "basic_string::substr") else .ok (substr s pos n)

theorem substrAt_eq {s : Text} {pos : ℕ} (h : pos ≤ s.length) (n : ℕ) :
    substrAt s pos n = .ok (substr s pos n) :=
  if_neg (Nat.not_lt.mpr h)

/-- `deserialize` up to its loop: the action, and where it ends. -/
def readAction (data : Text) : Except Exception (Text × ℕ) :=
  if data.length < 4 then
    .error (.invalidArgument "service command format error: cmd field expected")
  else do
    let head ← substrAt data 0 4
    if head ≠ "cmd:".toList then
      .error (.invalidArgument "service command format error: cmd field expected")
    else do
      let argEnd := (findFirstOf isBlank data 4).getD data.length
      let newAction ← substrAt data 4 (argEnd - 4)
      if newAction = [] ∨ checkString newAction = false then
        .error (.invalidArgument "service command format error: wrong cmd field")
      else return (newAction, argEnd)

/-- The body of the loop, for an argument that begins at a position: where it ends, its
key and its value. -/
def readArgument (data : Text) (argBegin : ℕ) : Except Exception (ℕ × Text × Text) :=
  let argEnd := (findFirstOf isBlank data argBegin).getD data.length
  match findFirstOf (· == ':') data argBegin with
  | none => .error (.invalidArgument "service command format error: argument syntax error")
  | some sep =>
    if argEnd < sep then
      .error (.invalidArgument "service command format error: argument syntax error")
    else do
      let key ← substrAt data argBegin (sep - argBegin)
      let value ← substrAt data (sep + 1) (argEnd - sep - 1)
      if key = [] ∨ checkString key = false ∨ checkString value = false then
        .error (.invalidArgument "service command format error: wrong argument field")
      else return (argEnd, key, value)

/-- **The loop as the program runs it**: how it ends, when it does. -/
inductive ArgumentLoop (data : Text) : ℕ → Arguments → Except Exception Arguments → Prop
  /-- The condition of the loop fails. -/
  | finished {argEnd : ℕ} {args : Arguments} (hend : data.length ≤ argEnd) :
      ArgumentLoop data argEnd args (.ok args)
  /-- Only blanks are left. -/
  | blank {argEnd : ℕ} {args : Arguments} (hmore : argEnd < data.length)
      (hbegin : findFirstNotOf isBlank data argEnd = none) :
      ArgumentLoop data argEnd args (.ok args)
  /-- The argument is malformed. -/
  | thrown {argEnd argBegin : ℕ} {args : Arguments} {e : Exception} (hmore : argEnd < data.length)
      (hbegin : findFirstNotOf isBlank data argEnd = some argBegin)
      (hread : readArgument data argBegin = .error e) :
      ArgumentLoop data argEnd args (.error e)
  /-- The argument is stored, and the loop goes on behind it. -/
  | turn {argEnd argBegin newEnd : ℕ} {args : Arguments} {key value : Text}
      {result : Except Exception Arguments} (hmore : argEnd < data.length)
      (hbegin : findFirstNotOf isBlank data argEnd = some argBegin)
      (hread : readArgument data argBegin = .ok (newEnd, key, value))
      (hrest : ArgumentLoop data newEnd (args.insert key value) result) :
      ArgumentLoop data argEnd args result

/-- **The parser as the program runs it**: the object as it is left, and the outcome. -/
inductive Deserializes (c : ServiceCommand) (data : Text) :
    ServiceCommand × Except Exception Unit → Prop
  | action {e : Exception} (haction : readAction data = .error e) :
      Deserializes c data (c, .error e)
  | arguments {newAction : Text} {argEnd : ℕ} {e : Exception}
      (haction : readAction data = .ok (newAction, argEnd))
      (hloop : ArgumentLoop data argEnd .empty (.error e)) : Deserializes c data (c, .error e)
  | accepted {newAction : Text} {argEnd : ℕ} {newArguments : Arguments}
      (haction : readAction data = .ok (newAction, argEnd))
      (hloop : ArgumentLoop data argEnd .empty (.ok newArguments)) :
      Deserializes c data (⟨newAction, newArguments⟩, .ok ())

/-! ### The grammar -/

/-- One argument as the checked setters store it, with a key that can be read
back. -/
def ValidArgument (e : Text × Text) : Prop :=
  e.1 ≠ [] ∧ checkString e.1 = true ∧ checkString e.2 = true

/-- The token is `key:value`. -/
def IsArgument (token : Text) (e : Text × Text) : Prop :=
  token = e.1 ++ ':' :: e.2 ∧ ValidArgument e

/-- **A command line**: the mark, the action, which ends with the line or before a blank,
and the tokens behind it, each of them an argument. -/
def Grammatical (line action : Text) (arguments : List (Text × Text)) : Prop :=
  ∃ rest, line = "cmd:".toList ++ (action ++ rest) ∧ EndsToken isBlank rest ∧
    action ≠ [] ∧ checkString action = true ∧
    List.Forall₂ IsArgument (tokens isBlank rest) arguments

/-! ### One token -/

/-- The argument that a token stands for. -/
def parseArgument (token : Text) : Except Exception (Text × Text) :=
  match token.findIdx? (· == ':') with
  | none => .error (.invalidArgument "service command format error: argument syntax error")
  | some sep =>
    if token.take sep = [] ∨ checkString (token.take sep) = false ∨
        checkString (token.drop (sep + 1)) = false then
      .error (.invalidArgument "service command format error: wrong argument field")
    else .ok (token.take sep, token.drop (sep + 1))

theorem parseArgument_of_notMem {token : Text} (h : ':' ∉ token) : parseArgument token
    = .error (.invalidArgument "service command format error: argument syntax error") := by
  have hnone : token.findIdx? (· == ':') = none := by
    rw [List.findIdx?_eq_none_iff]
    intro c hc
    simpa using fun heq : c = ':' => h (heq ▸ hc)
  rw [parseArgument, hnone]

theorem parseArgument_colon {key : Text} (hkey : ':' ∉ key) (value : Text) :
    parseArgument (key ++ ':' :: value)
      = if key = [] ∨ checkString key = false ∨ checkString value = false then
          .error (.invalidArgument "service command format error: wrong argument field")
        else .ok (key, value) := by
  have hsep : (key ++ ':' :: value).findIdx? (· == ':') = some key.length := by
    refine findIdx?_eq_length (fun c hc => ?_) (by decide)
    simpa using fun heq : c = ':' => hkey (heq ▸ hc)
  have hdrop : (key ++ ':' :: value).drop (key.length + 1) = value := by simp
  rw [parseArgument, hsep]
  dsimp only
  rw [List.take_left, hdrop]

/-- **A token is read as an argument exactly when it is one.** -/
theorem parseArgument_eq_ok_iff {token : Text} {e : Text × Text} :
    parseArgument token = .ok e ↔ IsArgument token e := by
  constructor
  · intro h
    by_cases hcolon : ':' ∈ token
    · obtain ⟨key, value, rfl, hkey⟩ := List.eq_append_cons_of_mem hcolon
      rw [parseArgument_colon hkey] at h
      split at h
      · cases h
      · next hvalid =>
        cases h
        simp only [not_or, Bool.not_eq_false] at hvalid
        exact ⟨rfl, hvalid⟩
    · rw [parseArgument_of_notMem hcolon] at h
      cases h
  · obtain ⟨key, value⟩ := e
    rintro ⟨rfl, hne, hkey, hvalue⟩
    dsimp only at hne hkey hvalue ⊢
    rw [parseArgument_colon (colon_notMem_of_checkString hkey),
      if_neg (by simp [hne, hkey, hvalue])]

/-- A token that is none is an invalid argument. -/
theorem error_of_parseArgument {token : Text} {e : Exception} (h : parseArgument token = .error e) :
    ∃ what, e = .invalidArgument what := by
  unfold parseArgument at h
  split at h
  · cases h
    exact ⟨_, rfl⟩
  · split at h
    · cases h
      exact ⟨_, rfl⟩
    · cases h

/-- The arguments of the tokens, one after the other. -/
def parseTokens (args : Arguments) : List Text → Except Exception Arguments
  | [] => .ok args
  | token :: tokens => do
    let e ← parseArgument token
    parseTokens (args.insert e.1 e.2) tokens

theorem parseTokens_eq_ok_iff : ∀ {l : List Text} {args args' : Arguments},
    parseTokens args l = .ok args' ↔
      ∃ es, List.Forall₂ IsArgument l es ∧ args' = es.foldl (fun m e => m.insert e.1 e.2) args := by
  -- the induction is on the tokens, whatever arguments are there already
  intro l
  induction l with
  | nil =>
    intro args args'
    constructor
    · intro h
      cases h
      exact ⟨[], .nil, rfl⟩
    · rintro ⟨es, hes, rfl⟩
      cases hes
      rfl
  | cons token l ih =>
    intro args args'
    constructor
    · intro h
      obtain ⟨e, he, h⟩ := bind_eq_ok_iff.mp h
      obtain ⟨es, hes, rfl⟩ := ih.mp h
      exact ⟨e :: es, .cons (parseArgument_eq_ok_iff.mp he) hes, rfl⟩
    · rintro ⟨es, hes, rfl⟩
      cases hes with
      | cons he hes =>
        rw [parseTokens, parseArgument_eq_ok_iff.mpr he, ok_bind]
        exact ih.mpr ⟨_, hes, rfl⟩

theorem error_of_parseTokens : ∀ {l : List Text} {args : Arguments} {e : Exception},
    parseTokens args l = .error e → ∃ what, e = .invalidArgument what := by
  intro l
  induction l with
  | nil => intro args e h; cases h
  | cons token l ih =>
    intro args e h
    rw [parseTokens] at h
    cases htoken : parseArgument token with
    | error e' =>
      rw [htoken] at h
      cases h
      exact error_of_parseArgument htoken
    | ok r =>
      rw [htoken, ok_bind] at h
      exact ih h

/-! ### One turn of the loop -/

section Turn

variable {data pre token rest : Text} (hdata : data = pre ++ (token ++ rest))
  (htoken : ∀ c ∈ token, isBlank c = false) (hrest : EndsToken isBlank rest)

include hdata htoken hrest

/-- A token with a colon is split at its first one. -/
theorem readArgument_colon {key value : Text} (hsplit : token = key ++ ':' :: value)
    (hkey : ':' ∉ key) : readArgument data pre.length
      = if key = [] ∨ checkString key = false ∨ checkString value = false then
          .error (.invalidArgument "service command format error: wrong argument field")
        else .ok ((pre ++ token).length, key, value) := by
  -- the token ends at the next blank
  have hend : (findFirstOf isBlank data pre.length).getD data.length = (pre ++ token).length := by
    rw [hdata]
    exact findFirstOf_run pre htoken hrest
  have hline : data = pre ++ (key ++ ':' :: (value ++ rest)) := by simp [hdata, hsplit]
  -- its first colon is the first one behind its start
  have hsep : findFirstOf (· == ':') data pre.length = some (pre.length + key.length) := by
    rw [hline]
    refine findFirstOf_append pre (fun c hc => ?_) (by decide)
    simpa using fun heq : c = ':' => hkey (heq ▸ hc)
  have hkeyText : substr data pre.length key.length = key := by
    rw [hline]
    exact substr_append pre key _
  have hvalueText : substr data (pre.length + key.length + 1) value.length = value := by
    have hstart : pre.length + key.length + 1 = (pre ++ key ++ [':']).length := by
      simp [Nat.add_assoc]
    rw [hline, hstart, show pre ++ (key ++ ':' :: (value ++ rest))
      = (pre ++ key ++ [':']) ++ (value ++ rest) by simp]
    exact substr_append _ _ _
  -- what the code computes from the positions is the length of the value
  have hlength : (pre ++ token).length = pre.length + key.length + 1 + value.length := by
    rw [hsplit, List.length_append, List.length_append, List.length_cons]
    omega
  have hinside : pre.length + key.length + 1 + value.length ≤ data.length := by
    rw [hline, List.length_append, List.length_append, List.length_cons, List.length_append]
    omega
  have hvalueLength : (pre ++ token).length - (pre.length + key.length) - 1 = value.length := by
    omega
  unfold readArgument
  simp only [hend, hsep]
  rw [if_neg (by omega), substrAt_eq (by omega), substrAt_eq (by omega), Nat.add_sub_cancel_left,
    hvalueLength, hkeyText, hvalueText, ok_bind, ok_bind]
  rfl

/-- A token without a colon is malformed, whatever stands behind it. -/
theorem readArgument_of_notMem (hcolon : ':' ∉ token) : readArgument data pre.length
    = .error (.invalidArgument "service command format error: argument syntax error") := by
  have hend : (findFirstOf isBlank data pre.length).getD data.length = (pre ++ token).length := by
    rw [hdata]
    exact findFirstOf_run pre htoken hrest
  -- without a colon in the token the search runs on
  have hnone : token.findIdx? (· == ':') = none := by
    rw [List.findIdx?_eq_none_iff]
    intro c hc
    simpa using fun heq : c = ':' => hcolon (heq ▸ hc)
  -- a colon of a later token stands behind the blank that ends this one
  have hlater : ∀ sep, findFirstOf (· == ':') data pre.length = some sep →
      (pre ++ token).length < sep := by
    intro sep hsep
    rw [hdata, findFirstOf, List.drop_left, List.findIdx?_append, hnone, Option.none_or] at hsep
    cases rest with
    | nil => cases hsep
    | cons c rest =>
      have hc : (c == ':') = false := by
        have hblank : isBlank c = true := hrest c rfl
        rw [beq_eq_false_iff_ne]
        rintro rfl
        cases hblank
      rw [List.findIdx?_cons, hc] at hsep
      obtain ⟨i, hi, rfl⟩ := Option.map_eq_some_iff.mp hsep
      obtain ⟨j, hj, rfl⟩ := Option.map_eq_some_iff.mp hi
      obtain ⟨k, -, rfl⟩ := Option.map_eq_some_iff.mp hj
      rw [List.length_append]
      omega
  unfold readArgument
  cases hsep : findFirstOf (· == ':') data pre.length with
  | none => rfl
  | some sep =>
    dsimp only
    rw [hend, if_pos (hlater sep hsep)]

/-- **An argument is read as its token.** -/
theorem readArgument_token : readArgument data pre.length
    = (parseArgument token).map fun e => ((pre ++ token).length, e) := by
  by_cases hcolon : ':' ∈ token
  · obtain ⟨key, value, hsplit, hkey⟩ := List.eq_append_cons_of_mem hcolon
    rw [readArgument_colon hdata htoken hrest hsplit hkey, hsplit, parseArgument_colon hkey,
      ← hsplit]
    split
    · rfl
    · rfl
  · rw [readArgument_of_notMem hdata htoken hrest hcolon, parseArgument_of_notMem hcolon]
    rfl

end Turn

/-- **One turn of the loop** reads the next token of the line, if there is one, and goes
on behind it. -/
theorem exists_turn {data : Text} {argEnd : ℕ} (hmore : argEnd < data.length) :
    (findFirstNotOf isBlank data argEnd = none ∧ tokens isBlank (data.drop argEnd) = []) ∨
    ∃ argBegin newEnd token, findFirstNotOf isBlank data argEnd = some argBegin ∧
      argEnd < newEnd ∧
      tokens isBlank (data.drop argEnd) = token :: tokens isBlank (data.drop newEnd) ∧
      readArgument data argBegin = (parseArgument token).map fun e => (newEnd, e) := by
  obtain ⟨pre, s, rfl, hpre⟩ : ∃ pre s, data = pre ++ s ∧ pre.length = argEnd :=
    ⟨data.take argEnd, data.drop argEnd, (List.take_append_drop _ _).symm, by simp; omega⟩
  rw [← hpre, List.drop_left]
  by_cases hblank : ∀ c ∈ s, isBlank c = true
  · refine Or.inl ⟨?_, tokens_eq_nil hblank⟩
    rw [findFirstNotOf]
    exact findFirstOf_append_none pre fun c hc => by simp [hblank c hc]
  · obtain ⟨b, token, rest, rfl, hb, hne, htoken, hrest⟩ := exists_token hblank
    have hline : pre ++ (b ++ (token ++ rest)) = (pre ++ b) ++ (token ++ rest) := by simp
    have hdrop : (pre ++ (b ++ (token ++ rest))).drop (pre ++ b ++ token).length = rest := by
      rw [hline, ← List.append_assoc, List.drop_left]
    obtain ⟨c, token', hcons⟩ := List.exists_cons_of_ne_nil hne
    refine Or.inr ⟨(pre ++ b).length, (pre ++ b ++ token).length, token, ?_, ?_, ?_, ?_⟩
    · have hc : isBlank c = false := htoken c (by simp [hcons])
      rw [findFirstNotOf, hcons, List.length_append]
      exact findFirstOf_append pre (fun d hd => by simp [hb d hd]) (by simp [hc])
    · have hpos : 0 < token.length := List.length_pos_iff.mpr hne
      simp only [List.length_append]
      omega
    · rw [hdrop, tokens_blank hb, tokens_run hne htoken hrest]
    · exact readArgument_token hline htoken hrest

/-! ### The loop -/

/-- The loop of `deserialize` has the body `readArgument`. -/
theorem deserializeArguments_succ {data : Text} {argEnd : ℕ} (hmore : argEnd < data.length)
    (fuel : ℕ) (args : Arguments) : deserializeArguments data (fuel + 1) argEnd args =
      (match findFirstNotOf isBlank data argEnd with
      | none => .ok args
      | some argBegin =>
        readArgument data argBegin >>= fun r =>
          deserializeArguments data fuel r.1 (args.insert r.2.1 r.2.2)) := by
  rw [deserializeArguments, if_neg (Nat.not_le.mpr hmore)]
  cases hbegin : findFirstNotOf isBlank data argEnd with
  | none => rfl
  | some argBegin =>
    have hinside : argBegin < data.length := (findFirstOf_bounds hbegin).2
    dsimp only
    unfold readArgument
    cases hsep : findFirstOf (· == ':') data argBegin with
    | none => rfl
    | some sep =>
      have hsepInside : sep < data.length := (findFirstOf_bounds hsep).2
      dsimp only
      split
      · rfl
      · rw [substrAt_eq hinside.le, substrAt_eq hsepInside, ok_bind, ok_bind]
        split
        · rfl
        · rfl

/-- **The loop reads the tokens behind its position.** -/
theorem deserializeArguments_eq {data : Text} : ∀ {fuel argEnd : ℕ} (args : Arguments),
    data.length - argEnd ≤ fuel →
      deserializeArguments data fuel argEnd args
        = parseTokens args (tokens isBlank (data.drop argEnd)) := by
  intro fuel
  induction fuel with
  | zero =>
    intro argEnd args hfuel
    rw [List.drop_eq_nil_of_le (by omega)]
    rfl
  | succ fuel ih =>
    intro argEnd args hfuel
    rcases Nat.lt_or_ge argEnd data.length with hmore | hend
    · rw [deserializeArguments_succ hmore]
      obtain ⟨hbegin, hnil⟩ | ⟨argBegin, newEnd, token, hbegin, hlt, hcons, hread⟩ :=
        exists_turn hmore
      · rw [hbegin, hnil]
        rfl
      · rw [hbegin, hcons, parseTokens]
        dsimp only
        rw [hread]
        cases parseArgument token with
        | error e => rfl
        | ok e =>
          have hless : data.length - newEnd ≤ fuel := by omega
          exact ih _ hless
    · rw [deserializeArguments, if_pos hend, List.drop_eq_nil_of_le hend]
      rfl

/-- **The loop of the program ends**, with what the tokens are read as. -/
theorem argumentLoop_tokens (data : Text) : ∀ (n : ℕ) {argEnd : ℕ} (args : Arguments),
    data.length - argEnd ≤ n →
      ArgumentLoop data argEnd args (parseTokens args (tokens isBlank (data.drop argEnd))) := by
  intro n
  induction n with
  | zero =>
    intro argEnd args hn
    rw [List.drop_eq_nil_of_le (by omega)]
    exact .finished (by omega)
  | succ n ih =>
    intro argEnd args hn
    rcases Nat.lt_or_ge argEnd data.length with hmore | hend
    · obtain ⟨hbegin, hnil⟩ | ⟨argBegin, newEnd, token, hbegin, hlt, hcons, hread⟩ :=
        exists_turn hmore
      · rw [hnil]
        exact .blank hmore hbegin
      · rw [hcons, parseTokens]
        cases htoken : parseArgument token with
        | error e =>
          rw [htoken] at hread
          exact .thrown hmore hbegin hread
        | ok e =>
          rw [htoken] at hread
          exact .turn hmore hbegin hread (ih _ (by omega))
    · rw [List.drop_eq_nil_of_le hend]
      exact .finished hend

/-- The loop of the program has no other result. -/
theorem ArgumentLoop.result_eq {data : Text} {argEnd : ℕ} {args : Arguments}
    {result : Except Exception Arguments} (h : ArgumentLoop data argEnd args result) :
    result = parseTokens args (tokens isBlank (data.drop argEnd)) := by
  induction h with
  | finished hend =>
    rw [List.drop_eq_nil_of_le hend]
    rfl
  | blank hmore hbegin =>
    rcases exists_turn hmore with ⟨-, hnil⟩ | ⟨argBegin, newEnd, token, hbegin', -⟩
    · rw [hnil]
      rfl
    · cases hbegin.symm.trans hbegin'
  | thrown hmore hbegin hread =>
    obtain ⟨hbegin', -⟩ | ⟨argBegin, newEnd, token, hbegin', -, hcons, hread'⟩ :=
      exists_turn hmore
    · cases hbegin.symm.trans hbegin'
    · cases hbegin.symm.trans hbegin'
      rw [hread] at hread'
      rw [hcons, parseTokens]
      cases htoken : parseArgument token with
      | error e =>
        rw [htoken] at hread'
        cases hread'
        rfl
      | ok e =>
        rw [htoken] at hread'
        cases hread'
  | turn hmore hbegin hread hrest ih =>
    obtain ⟨hbegin', -⟩ | ⟨argBegin, newEnd, token, hbegin', -, hcons, hread'⟩ :=
      exists_turn hmore
    · cases hbegin.symm.trans hbegin'
    · cases hbegin.symm.trans hbegin'
      rw [hread] at hread'
      rw [ih, hcons, parseTokens]
      cases htoken : parseArgument token with
      | error e =>
        rw [htoken] at hread'
        cases hread'
      | ok e =>
        rw [htoken] at hread'
        cases hread'
        rfl

/-! ### The whole line -/

/-- The first blank behind the mark ends the action. -/
theorem actionEnd_eq {action rest : Text} (haction : ∀ c ∈ action, isBlank c = false)
    (hrest : EndsToken isBlank rest) :
    (findFirstOf isBlank ("cmd:".toList ++ (action ++ rest)) 4).getD
      ("cmd:".toList ++ (action ++ rest)).length = 4 + action.length := by
  have hlength : ("cmd:".toList ++ action).length = 4 + action.length := by
    rw [List.length_append]
    rfl
  rw [← hlength]
  exact findFirstOf_run "cmd:".toList haction hrest

/-- The mark is there, and the action ends with the line or before a blank. -/
theorem readAction_eq {action rest : Text} (haction : ∀ c ∈ action, isBlank c = false)
    (hrest : EndsToken isBlank rest) : readAction ("cmd:".toList ++ (action ++ rest))
      = if action = [] ∨ checkString action = false then
          .error (.invalidArgument "service command format error: wrong cmd field")
        else .ok (action, 4 + action.length) := by
  have hlength : ¬ ("cmd:".toList ++ (action ++ rest)).length < 4 := by simp
  have hhead : substr ("cmd:".toList ++ (action ++ rest)) 0 4 = "cmd:".toList :=
    substr_append [] "cmd:".toList (action ++ rest)
  have htext : substr ("cmd:".toList ++ (action ++ rest)) 4 action.length = action :=
    substr_append "cmd:".toList action rest
  have hend := actionEnd_eq haction hrest
  unfold readAction
  simp only [hend]
  rw [if_neg hlength, substrAt_eq (Nat.zero_le _), substrAt_eq (Nat.not_lt.mp hlength), hhead,
    Nat.add_sub_cancel_left, htext, ok_bind, ok_bind, if_neg (not_not_intro rfl)]
  rfl

/-- A line without the mark is no command. -/
theorem readAction_of_no_mark {data : Text} (h : ¬ "cmd:".toList <+: data) : readAction data
    = .error (.invalidArgument "service command format error: cmd field expected") := by
  unfold readAction
  split
  · rfl
  · rw [substrAt_eq (Nat.zero_le _), ok_bind, if_pos]
    intro htake
    refine h ⟨data.drop 4, ?_⟩
    rw [← htake]
    exact List.take_append_drop 4 data

/-- The command that a line stands for. -/
def parse (data : Text) : Except Exception ServiceCommand := do
  let (newAction, argEnd) ← readAction data
  let newArguments ← parseTokens .empty (tokens isBlank (data.drop argEnd))
  return ⟨newAction, newArguments⟩

theorem parse_of_action {data newAction : Text} {argEnd : ℕ}
    (haction : readAction data = .ok (newAction, argEnd)) :
    parse data = (parseTokens .empty (tokens isBlank (data.drop argEnd))).map
      fun newArguments => ⟨newAction, newArguments⟩ := by
  rw [parse, haction]
  rfl

/-- The text behind the action. -/
theorem drop_action (action rest : Text) :
    ("cmd:".toList ++ (action ++ rest)).drop (4 + action.length) = rest := by
  have hlength : ("cmd:".toList ++ action).length = 4 + action.length := by
    rw [List.length_append]
    rfl
  rw [← List.append_assoc, ← hlength, List.drop_left]

/-- **What a line with the mark stands for**, by its action and the tokens behind it. -/
theorem parse_action {action rest : Text} (haction : ∀ c ∈ action, isBlank c = false)
    (hrest : EndsToken isBlank rest) : parse ("cmd:".toList ++ (action ++ rest))
      = if action = [] ∨ checkString action = false then
          .error (.invalidArgument "service command format error: wrong cmd field")
        else (parseTokens .empty (tokens isBlank rest)).map
          fun newArguments => ⟨action, newArguments⟩ := by
  have hread := readAction_eq haction hrest
  split at hread
  · next hword =>
    rw [if_pos hword, parse, hread]
    rfl
  · next hword => rw [if_neg hword, parse_of_action hread, drop_action]

theorem parse_of_no_mark {data : Text} (h : ¬ "cmd:".toList <+: data) : parse data
    = .error (.invalidArgument "service command format error: cmd field expected") := by
  rw [parse, readAction_of_no_mark h]
  rfl

/-- **The object is assigned what the line stands for**, or nothing. -/
theorem deserialize_eq (c : ServiceCommand) (data : Text) : c.deserialize data =
    (match parse data with
    | .error e => (c, .error e)
    | .ok c' => (c', .ok ())) := by
  by_cases hmark : "cmd:".toList <+: data
  · obtain ⟨s, rfl⟩ := hmark
    obtain ⟨action, rest, rfl, haction, hrest⟩ := exists_run isBlank s
    have hhead : ¬ (("cmd:".toList ++ (action ++ rest)).length < 4 ∨
        substr ("cmd:".toList ++ (action ++ rest)) 0 4 ≠ "cmd:".toList) := by
      simp [substr]
    have htext : substr ("cmd:".toList ++ (action ++ rest)) 4 action.length = action :=
      substr_append "cmd:".toList action rest
    rw [deserialize, if_neg hhead]
    dsimp only
    rw [actionEnd_eq haction hrest, Nat.add_sub_cancel_left, htext, parse_action haction hrest,
      deserializeArguments_eq .empty (le_refl _), drop_action]
    split
    · rfl
    · cases parseTokens .empty (tokens isBlank rest) with
      | error e => rfl
      | ok newArguments => rfl
  · have hhead : data.length < 4 ∨ substr data 0 4 ≠ "cmd:".toList := by
      refine or_iff_not_imp_left.mpr fun _ htake => hmark ⟨data.drop 4, ?_⟩
      rw [← htake]
      exact List.take_append_drop 4 data
    rw [deserialize, if_pos hhead, parse_of_no_mark hmark]

/-- **The program ends on every line**, in the way `deserialize` does. -/
theorem deserializes_iff {c : ServiceCommand} {data : Text}
    {r : ServiceCommand × Except Exception Unit} :
    Deserializes c data r ↔ c.deserialize data = r := by
  rw [deserialize_eq]
  constructor
  · intro h
    cases h with
    | action haction =>
      rw [parse, haction]
      rfl
    | arguments haction hloop =>
      rw [parse_of_action haction, ← hloop.result_eq]
      rfl
    | accepted haction hloop =>
      rw [parse_of_action haction, ← hloop.result_eq]
      rfl
  · rintro rfl
    cases haction : readAction data with
    | error e =>
      rw [parse, haction]
      exact .action haction
    | ok a =>
      obtain ⟨newAction, argEnd⟩ := a
      have hloop := argumentLoop_tokens data (data.length - argEnd) .empty (le_refl _)
      rw [parse_of_action haction]
      cases htokens : parseTokens .empty (tokens isBlank (data.drop argEnd)) with
      | error e =>
        rw [htokens] at hloop
        exact .arguments haction hloop
      | ok newArguments =>
        rw [htokens] at hloop
        exact .accepted haction hloop

/-- **The lines that stand for a command** are those of the grammar. -/
theorem parse_eq_ok_iff {line : Text} {c : ServiceCommand} :
    parse line = .ok c ↔ ∃ arguments, Grammatical line c.action arguments ∧
      c.arguments = arguments.foldl (fun m e => m.insert e.1 e.2) .empty := by
  constructor
  · intro h
    by_cases hmark : "cmd:".toList <+: line
    · obtain ⟨s, rfl⟩ := hmark
      obtain ⟨action, rest, rfl, haction, hrest⟩ := exists_run isBlank s
      rw [parse_action haction hrest] at h
      split at h
      · cases h
      · next hword =>
        rw [not_or, Bool.not_eq_false] at hword
        cases htokens : parseTokens .empty (tokens isBlank rest) with
        | error e =>
          rw [htokens] at h
          cases h
        | ok newArguments =>
          rw [htokens] at h
          cases h
          obtain ⟨es, hes, rfl⟩ := parseTokens_eq_ok_iff.mp htokens
          exact ⟨es, ⟨rest, rfl, hrest, hword.1, hword.2, hes⟩, rfl⟩
    · rw [parse_of_no_mark hmark] at h
      cases h
  · rintro ⟨arguments, ⟨rest, rfl, hrest, hne, hcheck, htokens⟩, harguments⟩
    rw [parse_action (not_blank_of_checkString hcheck) hrest, if_neg (by simp [hne, hcheck]),
      parseTokens_eq_ok_iff.mpr ⟨arguments, htokens, harguments⟩]
    rfl

/-- **Every other line is an invalid argument.** -/
theorem error_of_parse {line : Text} {e : Exception} (h : parse line = .error e) :
    ∃ what, e = .invalidArgument what := by
  by_cases hmark : "cmd:".toList <+: line
  · obtain ⟨s, rfl⟩ := hmark
    obtain ⟨action, rest, rfl, haction, hrest⟩ := exists_run isBlank s
    rw [parse_action haction hrest] at h
    split at h
    · cases h
      exact ⟨_, rfl⟩
    · cases htokens : parseTokens .empty (tokens isBlank rest) with
      | error e' =>
        rw [htokens] at h
        cases h
        exact error_of_parseTokens htokens
      | ok newArguments =>
        rw [htokens] at h
        cases h
  · rw [parse_of_no_mark hmark] at h
    cases h
    exact ⟨_, rfl⟩

theorem deserialize_eq_ok_iff {c₀ c : ServiceCommand} {line : Text} :
    c₀.deserialize line = (c, .ok ()) ↔ ∃ arguments, Grammatical line c.action arguments ∧
      c.arguments = arguments.foldl (fun m e => m.insert e.1 e.2) .empty := by
  rw [← parse_eq_ok_iff, deserialize_eq]
  cases parse line with
  | error e => simp
  | ok c' => simp

/-- **A line that is rejected** leaves the object as it was. -/
theorem error_of_deserialize {c₀ c : ServiceCommand} {line : Text} {e : Exception}
    (h : c₀.deserialize line = (c, .error e)) : c = c₀ ∧ ∃ what, e = .invalidArgument what := by
  rw [deserialize_eq] at h
  cases hparse : parse line with
  | error e' =>
    rw [hparse] at h
    cases h
    exact ⟨rfl, error_of_parse hparse⟩
  | ok c' =>
    rw [hparse] at h
    cases h

/-- **The lines of commands.**  The parser ends on every line, and in one way only.  It
accepts the lines of the grammar, where the last argument with a key gives its value; it
rejects every other line as an invalid argument. -/
theorem deserializes_grammar (c : ServiceCommand) (line : Text) :
    (∃! r, Deserializes c line r) ∧
    ((∃ c', Deserializes c line (c', .ok ())) ↔
      ∃ action arguments, Grammatical line action arguments) ∧
    (∀ c', Deserializes c line (c', .ok ()) ↔
      ∃ arguments, Grammatical line c'.action arguments ∧
        ∀ key, c'.arguments.find key = arguments.reverse.lookup key) ∧
    ∀ c' e, Deserializes c line (c', .error e) → c' = c ∧ ∃ what, e = .invalidArgument what := by
  have hmap : ∀ (m : Arguments) (arguments : List (Text × Text)),
      m = arguments.foldl (fun m e => m.insert e.1 e.2) .empty ↔
        ∀ key, m.find key = arguments.reverse.lookup key := by
    intro m arguments
    have hfind : ∀ key, (arguments.foldl (fun m e => m.insert e.1 e.2)
        (.empty : Arguments)).find key = arguments.reverse.lookup key := fun key => by
      rw [OrderedMap.find_foldl_insert_lookup, OrderedMap.find_empty, Option.or_none]
    constructor
    · rintro rfl
      exact hfind
    · exact fun h => OrderedMap.ext_find fun key => (h key).trans (hfind key).symm
  have haccepts : ∀ c', Deserializes c line (c', .ok ()) ↔
      ∃ arguments, Grammatical line c'.action arguments ∧
        c'.arguments = arguments.foldl (fun m e => m.insert e.1 e.2) .empty :=
    fun c' => deserializes_iff.trans deserialize_eq_ok_iff
  refine ⟨⟨_, deserializes_iff.mpr rfl, fun r hr => (deserializes_iff.mp hr).symm⟩, ?_, ?_, ?_⟩
  · constructor
    · rintro ⟨c', hc'⟩
      obtain ⟨arguments, hline, -⟩ := (haccepts c').mp hc'
      exact ⟨c'.action, arguments, hline⟩
    · rintro ⟨action, arguments, hline⟩
      exact ⟨⟨action, _⟩, (haccepts _).mpr ⟨arguments, hline, rfl⟩⟩
  · intro c'
    rw [haccepts]
    simp only [hmap]
  · exact fun c' e h => error_of_deserialize (deserializes_iff.mp h)

end ServiceCommand
end HomeAutomation
