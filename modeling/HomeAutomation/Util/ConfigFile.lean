import HomeAutomation.Lib.Framing
import HomeAutomation.Lib.OrderedMap
import HomeAutomation.Lib.Trim
import HomeAutomation.Util.Outcome
import Mathlib.Data.Char
import Mathlib.Data.List.Forall2
import Mathlib.Data.List.Lex

/-!
# The configuration file

A configuration file is read line by line into a map from keys to values.  A line is
empty, opens a section or gives a value; a comment runs from `#` to the end of its line,
and the margins of lines, names, keys and values do not count.  The key of a value is
prefixed with the name of the section it stands in.  A value never replaces one that was
given before.

The grammar is stated apart from the reader, which searches for the first `#`, for the
first `=`, and looks at the two ends of what is left of the line.

## Main definitions

* `stripComment`, `readLine`, `readLines`, `readFile` — the reader.
* `LaidOut`, `Line`, `Says` — the grammar of a line.
* `definitions` — the values that the lines of a file give.
* `Expressible` — a value that some file can give.

## Main results

* `readLine_says` — the reader does what a line says.
* `readFile_eq_ok_iff` — **which files are accepted, and what they give.**
* `readFile_eq_error_iff` — what the others are rejected for.
* `exists_readFile_iff` — **which maps a file can give.**

## References

`common/source/util/Config.cpp`, `common/include/util/Config.h`.
-/

namespace HomeAutomation
namespace ConfigFile

open Str Framing

/-! ### The reader -/

/-- The set `space`. -/
def space (c : Char) : Bool := c == ' ' || c == '\t' || c == '\r'

/-- `strip_comment`. -/
def stripComment (line : Text) : Text :=
  match findFirstOf (· == '#') line 0 with
  | none => line
  | some pos => line.take pos

/-- The key of a value in a section. -/
def qualify (sectionName localKey : Text) : Text :=
  if sectionName = [] then localKey else sectionName ++ '.' :: localKey

/-- What `read_file` throws for a line that begins with a bracket. -/
def wrongSection : Exception :=
  .runtimeError "Syntax error in configuration file (wrong section syntax)"

/-- What `read_file` throws for a line without `=`. -/
def noValue : Exception := .runtimeError "Syntax error in configuration file (value not specified)"

/-- One turn of the loop of `read_file`: the name of the section and the values. -/
def readLine (sectionName : Text) (values : OrderedMap Text Text) (line : Text) :
    Except Exception (Text × OrderedMap Text Text) :=
  let line := trim space (stripComment line)
  if line = [] then .ok (sectionName, values)
  else if line.head? = some '[' then
    if line.getLast? ≠ some ']' then .error wrongSection
    else .ok (trim space (substr line 1 (line.length - 2)), values)
  else
    match findFirstOf (· == '=') line 0 with
    | none => .error noValue
    | some sep =>
      let localKey := trim space (substr line 0 sep)
      let value := trim space (line.drop (sep + 1))
      .ok (sectionName, values.insertNew (qualify sectionName localKey) value)

/-- The loop of `read_file`. -/
def readLines : Text → OrderedMap Text Text → List Text → Except Exception (OrderedMap Text Text)
  | _, values, [] => .ok values
  | sectionName, values, line :: lines =>
    match readLine sectionName values line with
    | .error e => .error e
    | .ok (sectionName, values) => readLines sectionName values lines

/-- The lines that `std::getline` reads one after the other: the last one need not be
terminated, but is not read when nothing is left. -/
def fileLines (text : Text) : List Text :=
  frames (· == '\n') text ++
    if residue (· == '\n') text = [] then [] else [residue (· == '\n') text]

/-- `read_file`, for the text of the file, if there is such a file. -/
def readFile (fileName : String) : Option Text → Except Exception (OrderedMap Text Text)
  | none => .error (.runtimeError ("Configuration file not found: " ++ fileName))
  | some text => readLines [] .empty (fileLines text)

/-! ### The grammar -/

/-- **The body of a line**: what is left without its comment and its margins. -/
def LaidOut (line body : Text) : Prop :=
  ∃ b e comment, line = b ++ (body ++ (e ++ comment)) ∧ (∀ c ∈ b, space c = true) ∧
    (∀ c ∈ e, space c = true) ∧ '#' ∉ body ∧ (∀ c ∈ comment.head?, c = '#') ∧ Core space body

/-- What a line says. -/
inductive Line
  | blank
  | opening (name : Text)
  | definition (localKey value : Text)

/-- **The grammar of a line.** -/
inductive Says : Text → Line → Prop
  | blank {line : Text} (h : LaidOut line []) : Says line .blank
  | opening {line name b e : Text} (h : LaidOut line ('[' :: (b ++ (name ++ e) ++ [']'])))
      (hb : ∀ c ∈ b, space c = true) (he : ∀ c ∈ e, space c = true) (hname : Core space name) :
      Says line (.opening name)
  | definition {line localKey value b e : Text}
      (h : LaidOut line (localKey ++ b ++ '=' :: (e ++ value)))
      (hb : ∀ c ∈ b, space c = true) (he : ∀ c ∈ e, space c = true)
      (hkey : Core space localKey) (hvalue : Core space value) (hsep : '=' ∉ localKey)
      (hopen : localKey.head? ≠ some '[') : Says line (.definition localKey value)

/-- A line that begins like the opening of a section and does not end like one. -/
def BadSection (line : Text) : Prop :=
  ∃ body, LaidOut line body ∧ body.head? = some '[' ∧ body.getLast? ≠ some ']'

/-- A line that is not empty, does not open a section and has no `=`. -/
def NoValue (line : Text) : Prop :=
  ∃ body, LaidOut line body ∧ body ≠ [] ∧ body.head? ≠ some '[' ∧ '=' ∉ body

namespace Line

/-- The section behind a line. -/
def sectionAfter (sectionName : Text) : Line → Text
  | opening name => name
  | _ => sectionName

/-- The value that a line gives. -/
def gives (sectionName : Text) : Line → List (Text × Text)
  | definition localKey value => [(qualify sectionName localKey, value)]
  | _ => []

end Line

/-- The values that the lines of a file give, in their order. -/
def definitions : Text → List Line → List (Text × Text)
  | _, [] => []
  | sectionName, line :: lines =>
    line.gives sectionName ++ definitions (line.sectionAfter sectionName) lines

/-! ### The body of a line -/

theorem hash_not_space : space '#' = false := rfl

/-- **Stripping a line leaves its body.** -/
theorem trim_stripComment_iff {line body : Text} :
    trim space (stripComment line) = body ↔ LaidOut line body := by
  have hblank : ∀ {m : Text}, (∀ c ∈ m, space c = true) → '#' ∉ m := by
    intro m hm hmem
    have := hm '#' hmem
    rw [hash_not_space] at this
    cases this
  constructor
  · rintro rfl
    -- the comment, and the margins of what is before it
    obtain ⟨comment, hline, hhash, hcomment⟩ : ∃ comment, line = stripComment line ++ comment ∧
        '#' ∉ stripComment line ∧ ∀ c ∈ comment.head?, c = '#' := by
      rcases exists_run (· == '#') line with ⟨w, rest, rfl, hw, hrest⟩
      have hnot : '#' ∉ w := fun hmem => by simpa using hw '#' hmem
      have hstrip : stripComment (w ++ rest) = w := by
        unfold stripComment
        cases rest with
        | nil =>
          rw [List.append_nil, findFirstOf_zero_eq_none_iff.mpr hw]
        | cons c rest =>
          have hfind := findFirstOf_append (r := rest) [] hw (hrest c rfl)
          simp only [List.nil_append, List.length_nil, Nat.zero_add] at hfind
          rw [hfind]
          exact List.take_left
      rw [hstrip]
      exact ⟨rest, rfl, hnot, fun c hc => by simpa using hrest c hc⟩
    rcases trim_eq_iff.mp (rfl : trim space (stripComment line) = _) with
      ⟨hcore, b, e, hstrip, hb, he⟩
    refine ⟨b, e, comment, ?_, hb, he, fun hmem => hhash (mem_of_mem_trim hmem), hcomment, hcore⟩
    conv_lhs => rw [hline, hstrip]
    simp
  · rintro ⟨b, e, comment, rfl, hb, he, hhash, hcomment, hcore⟩
    have hnot : ∀ c ∈ b ++ (body ++ e), (c == '#') = false := by
      intro c hc
      have hne : c ≠ '#' := by
        rintro rfl
        rcases List.mem_append.mp hc with hc | hc
        · exact hblank hb hc
        · rcases List.mem_append.mp hc with hc | hc
          · exact hhash hc
          · exact hblank he hc
      simpa using hne
    have hstrip : stripComment (b ++ (body ++ (e ++ comment))) = b ++ (body ++ e) := by
      have hjoin : b ++ (body ++ (e ++ comment)) = b ++ (body ++ e) ++ comment := by simp
      rw [hjoin]
      unfold stripComment
      cases comment with
      | nil => rw [List.append_nil, findFirstOf_zero_eq_none_iff.mpr hnot]
      | cons c comment =>
        have hc : (c == '#') = true := by simpa using hcomment c rfl
        have hfind := findFirstOf_append (r := comment) [] hnot hc
        simp only [List.nil_append, List.length_nil, Nat.zero_add] at hfind
        rw [hfind]
        exact List.take_left
    rw [hstrip]
    exact trim_margins hb he hcore

/-- A line has one body. -/
theorem LaidOut.unique {line body body' : Text} (h : LaidOut line body)
    (h' : LaidOut line body') : body = body' :=
  (trim_stripComment_iff.mpr h).symm.trans (trim_stripComment_iff.mpr h')

theorem LaidOut.core {line body : Text} (h : LaidOut line body) : Core space body := by
  rcases h with ⟨-, -, -, -, -, -, -, -, h⟩
  exact h

/-! ### One line -/

/-- **The reader does what a line says.** -/
theorem readLine_says {line : Text} {l : Line} (h : Says line l) (sectionName : Text)
    (values : OrderedMap Text Text) :
    readLine sectionName values line = .ok (l.sectionAfter sectionName,
      (l.gives sectionName).foldl (fun m e => m.insertNew e.1 e.2) values) := by
  unfold readLine
  dsimp only
  cases h with
  | blank h =>
    rw [trim_stripComment_iff.mpr h, if_pos rfl]
    rfl
  | @opening name b e h hb he hname =>
    have hlast : ('[' :: (b ++ (name ++ e) ++ [']'])).getLast? = some ']' := by
      rw [← List.cons_append, List.getLast?_concat]
    have hlength : ('[' :: (b ++ (name ++ e) ++ [']'])).length - 2 = (b ++ (name ++ e)).length := by
      rw [List.length_cons, List.length_append]
      rfl
    have hbody : substr ('[' :: (b ++ (name ++ e) ++ [']'])) 1 (b ++ (name ++ e)).length
        = b ++ (name ++ e) := substr_append ['['] (b ++ (name ++ e)) [']']
    rw [trim_stripComment_iff.mpr h, if_neg (by simp), if_pos (by simp), if_neg (not_not_intro hlast),
      hlength, hbody, trim_margins hb he hname]
    rfl
  | @definition localKey value b e h hb he hkey hvalue hsep hopen =>
    have hne : localKey ++ b ++ '=' :: (e ++ value) ≠ [] := by simp
    have hhead : (localKey ++ b ++ '=' :: (e ++ value)).head? ≠ some '[' := by
      cases localKey with
      | nil =>
        cases b with
        | nil => simp
        | cons c b =>
          have hc : space c = true := hb c List.mem_cons_self
          intro heq
          obtain rfl : c = '[' := by simpa using heq
          cases hc
      | cons c localKey => simpa using hopen
    have hnot : ∀ c ∈ localKey ++ b, (c == '=') = false := by
      intro c hc
      have hne : c ≠ '=' := by
        rintro rfl
        rcases List.mem_append.mp hc with hc | hc
        · exact hsep hc
        · have := hb '=' hc
          cases this
      simpa using hne
    have hfind : findFirstOf (· == '=') (localKey ++ b ++ '=' :: (e ++ value)) 0
        = some (localKey ++ b).length := by
      have := findFirstOf_append (r := e ++ value) (c := '=') (p := (· == '=')) [] hnot rfl
      simpa using this
    rw [trim_stripComment_iff.mpr h, if_neg hne, if_neg hhead, hfind]
    dsimp only
    have hleft : substr (localKey ++ b ++ '=' :: (e ++ value)) 0 (localKey ++ b).length
        = localKey ++ b := by
      rw [substr, List.drop_zero, List.take_left]
    have hright : (localKey ++ b ++ '=' :: (e ++ value)).drop ((localKey ++ b).length + 1)
        = e ++ value := by
      rw [← List.drop_drop, List.drop_left]
      rfl
    have hkey' := trim_margins (p := space) (b := []) (by simp) hb hkey
    have hvalue' := trim_margins (p := space) (e := []) he (by simp) hvalue
    rw [List.nil_append] at hkey'
    rw [List.append_nil] at hvalue'
    rw [hleft, hright, hkey', hvalue']
    rfl

/-- The reader rejects what begins like a section and does not end like one. -/
theorem readLine_badSection {line : Text} (h : BadSection line) (sectionName : Text)
    (values : OrderedMap Text Text) : readLine sectionName values line = .error wrongSection := by
  rcases h with ⟨body, hbody, hhead, hlast⟩
  unfold readLine
  dsimp only
  rw [trim_stripComment_iff.mpr hbody, if_neg, if_pos hhead, if_pos hlast]
  rintro rfl
  cases hhead

/-- The reader rejects what has no value. -/
theorem readLine_noValue {line : Text} (h : NoValue line) (sectionName : Text)
    (values : OrderedMap Text Text) : readLine sectionName values line = .error noValue := by
  rcases h with ⟨body, hbody, hne, hhead, hsep⟩
  have hfind : findFirstOf (· == '=') body 0 = none := by
    rw [findFirstOf_zero_eq_none_iff]
    intro c hc
    have hne : c ≠ '=' := by
      rintro rfl
      exact hsep hc
    simpa using hne
  unfold readLine
  dsimp only
  rw [trim_stripComment_iff.mpr hbody, if_neg hne, if_neg hhead, hfind]

/-- **Every line says something, or is one of the two kinds of errors.** -/
theorem says_or_bad (line : Text) : (∃ l, Says line l) ∨ BadSection line ∨ NoValue line := by
  obtain ⟨body, hbody⟩ : ∃ body, LaidOut line body := ⟨_, trim_stripComment_iff.mp rfl⟩
  by_cases hne : body = []
  · subst hne
    exact .inl ⟨.blank, .blank hbody⟩
  by_cases hhead : body.head? = some '['
  · by_cases hlast : body.getLast? = some ']'
    · left
      obtain ⟨rest, rfl⟩ : ∃ rest, body = '[' :: rest := by
        cases body with
        | nil => cases hhead
        | cons c rest => exact ⟨rest, by simpa using hhead⟩
      obtain ⟨name, rfl⟩ : ∃ name, rest = name ++ [']'] := by
        rcases List.eq_nil_or_concat rest with rfl | ⟨name, c, rfl⟩
        · cases hlast
        · refine ⟨name, ?_⟩
          have hc : c = ']' := by simpa [List.getLast?_cons] using hlast
          rw [hc, List.concat_eq_append]
      rcases exists_core space name with ⟨b, t, e, rfl, hb, he, ht⟩
      exact ⟨.opening t, .opening hbody hb he ht⟩
    · exact .inr (.inl ⟨body, hbody, hhead, hlast⟩)
  · by_cases hsep : '=' ∈ body
    · left
      rcases List.eq_append_cons_of_mem hsep with ⟨key, value, rfl, hkey⟩
      rcases exists_core space key with ⟨m, localKey, b, rfl, hm, hb, hlocal⟩
      rcases exists_core space value with ⟨e, value, m', rfl, he, hm', hvalue⟩
      -- the body itself has no margins
      obtain rfl : m = [] := by
        cases m with
        | nil => rfl
        | cons c m =>
          have := hbody.core.head c rfl
          rw [hm c List.mem_cons_self] at this
          cases this
      obtain rfl : m' = [] := by
        rcases List.eq_nil_or_concat m' with rfl | ⟨m', c, rfl⟩
        · rfl
        · have hc : space c = true := hm' c (by simp)
          have := hbody.core.last c (by simp [List.getLast?_cons])
          rw [hc] at this
          cases this
      rw [List.nil_append] at hbody hhead hkey
      rw [List.append_nil] at hbody hhead
      refine ⟨.definition localKey value, .definition hbody hb he hlocal hvalue ?_ fun h => hhead ?_⟩
      · exact fun hmem => hkey (List.mem_append_left _ hmem)
      · cases localKey with
        | nil => cases h
        | cons c localKey => simpa using h
    · exact .inr (.inr ⟨body, hbody, hne, hhead, hsep⟩)

/-! ### The whole file -/

/-- The reader takes the lines that say something. -/
theorem readLines_says {lines : List Text} {said : List Line} (h : List.Forall₂ Says lines said) :
    ∀ (sectionName : Text) (values : OrderedMap Text Text),
      readLines sectionName values lines = .ok
        ((definitions sectionName said).foldl (fun m e => m.insertNew e.1 e.2) values) := by
  induction h with
  | nil => exact fun _ _ => rfl
  | cons hline _ ih =>
    intro sectionName values
    rw [readLines, readLine_says hline]
    dsimp only
    rw [ih, definitions, List.foldl_append]

/-- The lines in front of the first error, and that error. -/
theorem readLines_error {before after : List Text} {line : Text} {e : Exception}
    (hbefore : ∀ l ∈ before, ∃ said, Says l said)
    (hline : ∀ sectionName values, readLine sectionName values line = .error e) :
    ∀ (sectionName : Text) (values : OrderedMap Text Text),
      readLines sectionName values (before ++ line :: after) = .error e := by
  induction before with
  | nil =>
    intro sectionName values
    rw [List.nil_append, readLines, hline]
  | cons l before ih =>
    intro sectionName values
    rcases List.forall_mem_cons.mp hbefore with ⟨⟨said, hsaid⟩, hbefore⟩
    rw [List.cons_append, readLines, readLine_says hsaid]
    exact ih hbefore _ _

/-- The lines all say something, or there is a first one that does not. -/
theorem says_or_first_bad : ∀ lines : List Text, (∃ said, List.Forall₂ Says lines said) ∨
    ∃ before line after, lines = before ++ line :: after ∧
      (∀ l ∈ before, ∃ said, Says l said) ∧ (BadSection line ∨ NoValue line) := by
  intro lines
  induction lines with
  | nil => exact .inl ⟨[], .nil⟩
  | cons line lines ih =>
    rcases says_or_bad line with ⟨l, hl⟩ | hbad
    · rcases ih with ⟨said, hsaid⟩ | ⟨before, line', after, rfl, hbefore, hbad⟩
      · exact .inl ⟨l :: said, .cons hl hsaid⟩
      · exact .inr ⟨line :: before, line', after, rfl,
          List.forall_mem_cons.mpr ⟨⟨l, hl⟩, hbefore⟩, hbad⟩
    · exact .inr ⟨[], line, lines, rfl, by simp, hbad⟩

/-- What a file gives whose lines all say something: the first value of each key. -/
theorem readFile_said_iff {fileName : String} {text : Text} {said : List Line}
    {values : OrderedMap Text Text} (hsaid : List.Forall₂ Says (fileLines text) said) :
    readFile fileName (some text) = .ok values ↔
      ∀ key, values.find key = OrderedMap.findIn key (definitions [] said) := by
  rw [readFile, readLines_says hsaid]
  constructor
  · intro h key
    cases h
    rw [OrderedMap.find_foldl_insertNew, OrderedMap.find_empty, Option.none_or]
  · intro hvalues
    congr 1
    apply OrderedMap.ext_find
    intro key
    rw [OrderedMap.find_foldl_insertNew, OrderedMap.find_empty, Option.none_or, hvalues]

/-- The lines of a file that is accepted all say something. -/
theorem says_of_readFile {fileName : String} {text : Text} {values : OrderedMap Text Text}
    (h : readFile fileName (some text) = .ok values) :
    ∃ said, List.Forall₂ Says (fileLines text) said := by
  rcases says_or_first_bad (fileLines text) with
    hsaid | ⟨before, line, after, hlines, hbefore, hbad | hbad⟩
  · exact hsaid
  -- the first line that says nothing ends the reader, whatever it lacks
  · rw [readFile, hlines, readLines_error hbefore (readLine_badSection hbad)] at h
    cases h
  · rw [readFile, hlines, readLines_error hbefore (readLine_noValue hbad)] at h
    cases h

/-- **Which files are accepted, and what they give**: those whose lines all say
something, and the value of a key is the first one that a line gives for it, in the
section opened last before it. -/
theorem readFile_eq_ok_iff {fileName : String} {file : Option Text}
    {values : OrderedMap Text Text} : readFile fileName file = .ok values ↔
      ∃ text said, file = some text ∧ List.Forall₂ Says (fileLines text) said ∧
        ∀ key, values.find key = OrderedMap.findIn key (definitions [] said) := by
  constructor
  · intro h
    cases file with
    | none => cases h
    | some text =>
      obtain ⟨said, hsaid⟩ := says_of_readFile h
      exact ⟨text, said, rfl, hsaid, (readFile_said_iff hsaid).mp h⟩
  · rintro ⟨text, said, rfl, hsaid, hvalues⟩
    exact (readFile_said_iff hsaid).mpr hvalues

/-- A section with a comment, and a value that comes too late. -/
example : readFile "dhrouter.conf" (some
    "[bind.default] # the one binding\n port = 2020\r\n\nport=2121".toList)
      = .ok (OrderedMap.empty.insert "bind.default.port".toList "2020".toList) := by
  rfl

/-- **What the others are rejected for**: the file is missing, or its first line that
says nothing begins like a section or has no value. -/
theorem readFile_eq_error_iff {fileName : String} {file : Option Text} {e : Exception} :
    readFile fileName file = .error e ↔
      (file = none ∧ e = .runtimeError ("Configuration file not found: " ++ fileName)) ∨
      ∃ text before line after, file = some text ∧ fileLines text = before ++ line :: after ∧
        (∀ l ∈ before, ∃ said, Says l said) ∧
        ((BadSection line ∧ e = wrongSection) ∨ (NoValue line ∧ e = noValue)) := by
  constructor
  · intro h
    cases file with
    | none =>
      cases h
      exact .inl ⟨rfl, rfl⟩
    | some text =>
      right
      rcases says_or_first_bad (fileLines text) with
        ⟨said, hsaid⟩ | ⟨before, line, after, hlines, hbefore, hbad | hbad⟩
      · rw [readFile, readLines_says hsaid] at h
        cases h
      · rw [readFile, hlines, readLines_error hbefore (readLine_badSection hbad)] at h
        cases h
        exact ⟨text, before, line, after, rfl, hlines, hbefore, .inl ⟨hbad, rfl⟩⟩
      · rw [readFile, hlines, readLines_error hbefore (readLine_noValue hbad)] at h
        cases h
        exact ⟨text, before, line, after, rfl, hlines, hbefore, .inr ⟨hbad, rfl⟩⟩
  · rintro (⟨rfl, rfl⟩ | ⟨text, before, line, after, rfl, hlines, hbefore, ⟨hbad, rfl⟩ | ⟨hbad, rfl⟩⟩)
    · rfl
    · rw [readFile, hlines, readLines_error hbefore (readLine_badSection hbad)]
    · rw [readFile, hlines, readLines_error hbefore (readLine_noValue hbad)]

/-! ### What a file can give -/

/-- A name or a value that can stand in a line. -/
structure Plain (s : Text) : Prop where
  core : Core space s
  no_comment : '#' ∉ s
  one_line : '\n' ∉ s

/-- **A value that some file can give.** -/
def Expressible (e : Text × Text) : Prop :=
  ∃ sectionName localKey, Plain sectionName ∧ Plain localKey ∧ '=' ∉ localKey ∧
    localKey.head? ≠ some '[' ∧ e.1 = qualify sectionName localKey ∧ Plain e.2

/-- No line holds the end of a line. -/
theorem newline_not_mem {text line : Text} (h : line ∈ fileLines text) : '\n' ∉ line := by
  intro hmem
  rcases List.mem_append.mp h with h | h
  · have := not_sep_of_mem_frames h '\n' hmem
    simp at this
  · split at h
    · cases h
    · rw [List.mem_singleton.mp h] at hmem
      have := residue_forall text '\n' hmem
      simp at this

/-- Lines that are written with their ends are read back. -/
theorem fileLines_flatMap {lines : List Text} (h : ∀ line ∈ lines, '\n' ∉ line) :
    fileLines (lines.flatMap fun line => line ++ ['\n']) = lines := by
  have hsep : ∀ line ∈ lines, ∀ c ∈ line, (c == '\n') = false := by
    intro line hline c hc
    have hne : c ≠ '\n' := by
      rintro rfl
      exact h line hline hc
    simpa using hne
  have hcut : frames (· == '\n') (lines.flatMap fun line => line ++ ['\n']) = lines ∧
      residue (· == '\n') (lines.flatMap fun line => line ++ ['\n']) = [] :=
    frames_flatMap (by simp) hsep
  rw [fileLines, hcut.1, hcut.2, if_pos rfl, List.append_nil]

/-- What stands in the body of a line is plain, as far as it is a core. -/
theorem plain_of_laidOut {line body s : Text} (h : LaidOut line body) (hline : '\n' ∉ line)
    (hs : s ⊆ body) (hcore : Core space s) : Plain s := by
  rcases h with ⟨b, e, comment, rfl, -, -, hhash, -, -⟩
  refine ⟨hcore, fun hmem => hhash (hs hmem), fun hmem => hline ?_⟩
  exact List.mem_append_right _ (List.mem_append_left _ (hs hmem))

/-- The values of a file are expressible. -/
theorem expressible_of_definitions {lines : List Text} {said : List Line}
    (h : List.Forall₂ Says lines said) (hlines : ∀ line ∈ lines, '\n' ∉ line) :
    ∀ {sectionName : Text}, Plain sectionName →
      ∀ e ∈ definitions sectionName said, Expressible e := by
  induction h with
  | nil =>
    intro sectionName _ e he
    cases he
  | @cons line l lines said hline _ ih =>
    intro sectionName hsection e he
    rcases List.forall_mem_cons.mp hlines with ⟨hnewline, hlines⟩
    cases hline with
    | blank h => exact ih hlines hsection e he
    | @opening name b e' h hb he' hname =>
      apply ih hlines (plain_of_laidOut h hnewline _ hname) e he
      exact fun c hc => by simp [hc]
    | @definition localKey value b e' h hb he' hkey hvalue hsep hopen =>
      rcases List.mem_cons.mp he with rfl | he
      · refine ⟨sectionName, localKey, hsection, plain_of_laidOut h hnewline ?_ hkey, hsep, hopen,
          rfl, plain_of_laidOut h hnewline ?_ hvalue⟩
        · exact fun c hc => by simp [hc]
        · exact fun c hc => by simp [hc]
      · exact ih hlines hsection e he

theorem plain_nil : Plain [] := ⟨core_nil, by simp, by simp⟩

/-- A plain text with a character around it that is no margin is the body of a line. -/
theorem laidOut_self {body : Text} (hhash : '#' ∉ body) (hcore : Core space body) :
    LaidOut body body :=
  ⟨[], [], [], by simp, by simp, by simp, hhash, by simp, hcore⟩

/-- The lines that give one value. -/
theorem exists_lines {e : Text × Text} (he : Expressible e) :
    ∃ lines said, List.Forall₂ Says lines said ∧ (∀ line ∈ lines, '\n' ∉ line) ∧
      ∀ sectionName rest, ∃ sectionName', definitions sectionName (said ++ rest)
        = e :: definitions sectionName' rest := by
  rcases he with ⟨sectionName, localKey, hsection, hkey, hsep, hopen, hname, hvalue⟩
  have hfirst : Says ('[' :: (sectionName ++ [']'])) (.opening sectionName) := by
    have hbody : LaidOut ('[' :: (sectionName ++ [']'])) ('[' :: ([] ++ (sectionName ++ []) ++ [']'])) := by
      simp only [List.nil_append, List.append_nil]
      apply laidOut_self
      · simpa using hsection.no_comment
      · refine ⟨by simp [space], ?_⟩
        rw [← List.cons_append, List.getLast?_concat]
        simp [space]
    exact .opening hbody (by simp) (by simp) hsection.core
  have hcore : Core space (localKey ++ '=' :: e.2) := by
    constructor
    · cases localKey with
      | nil => simp [space]
      | cons c localKey => simpa using hkey.core.head c rfl
    · rcases List.eq_nil_or_concat e.2 with hnil | ⟨value, c, hc⟩
      · rw [hnil, List.getLast?_concat]
        simp [space]
      · have hlast := hvalue.core.last c (by simp [hc])
        intro d hd
        rw [hc, List.concat_eq_append, ← List.cons_append, ← List.append_assoc,
          List.getLast?_concat] at hd
        cases hd
        exact hlast
  have hsecond : Says (localKey ++ '=' :: e.2) (.definition localKey e.2) := by
    have hbody : LaidOut (localKey ++ '=' :: e.2) (localKey ++ [] ++ '=' :: ([] ++ e.2)) := by
      simp only [List.nil_append, List.append_nil]
      apply laidOut_self _ hcore
      simpa using ⟨hkey.no_comment, hvalue.no_comment⟩
    exact .definition hbody (by simp) (by simp) hkey.core hvalue.core hsep hopen
  refine ⟨_, _, .cons hfirst (.cons hsecond .nil), ?_, fun _ rest => ⟨sectionName, ?_⟩⟩
  · have h₁ := hsection.one_line
    have h₂ := hkey.one_line
    have h₃ := hvalue.one_line
    simp [h₁, h₂, h₃]
  · simp only [List.cons_append, List.nil_append, definitions, Line.gives, Line.sectionAfter, ← hname]

/-- Any expressible values are given by some lines. -/
theorem exists_definitions : ∀ {entries : List (Text × Text)}, (∀ e ∈ entries, Expressible e) →
    ∃ lines said, List.Forall₂ Says lines said ∧ (∀ line ∈ lines, '\n' ∉ line) ∧
      ∀ sectionName, definitions sectionName said = entries := by
  intro entries
  induction entries with
  | nil => exact fun _ => ⟨[], [], .nil, by simp, fun _ => rfl⟩
  | cons e entries ih =>
    intro h
    rcases List.forall_mem_cons.mp h with ⟨he, h⟩
    rcases exists_lines he with ⟨lines₁, said₁, hsaid₁, hnewline₁, hdef₁⟩
    rcases ih h with ⟨lines₂, said₂, hsaid₂, hnewline₂, hdef₂⟩
    refine ⟨lines₁ ++ lines₂, said₁ ++ said₂, List.rel_append hsaid₁ hsaid₂,
      List.forall_mem_append.mpr ⟨hnewline₁, hnewline₂⟩, fun sectionName => ?_⟩
    rcases hdef₁ sectionName said₂ with ⟨sectionName', hdef⟩
    rw [hdef, hdef₂]

/-- **Which maps a file can give**: a map is what some file gives exactly when each of
its entries is expressible.  So a map that is written out is read back. -/
theorem exists_readFile_iff (fileName : String) (values : OrderedMap Text Text) :
    (∃ text, readFile fileName (some text) = .ok values) ↔ ∀ e ∈ values.entries, Expressible e := by
  constructor
  · rintro ⟨text, h⟩ e he
    rcases says_of_readFile h with ⟨said, hsaid⟩
    have hfind : OrderedMap.findIn e.1 (definitions [] said) = some e.2 := by
      rw [← (readFile_said_iff hsaid).mp h, ← OrderedMap.mem_entries_iff]
      exact he
    exact expressible_of_definitions hsaid (fun line hline => newline_not_mem hline) plain_nil e
      (OrderedMap.mem_of_findIn hfind)
  · intro h
    rcases exists_definitions h with ⟨lines, said, hsaid, hnewline, hdef⟩
    -- every entry is written as a section and a definition of its own
    have hlines : List.Forall₂ Says (fileLines (lines.flatMap fun line => line ++ ['\n'])) said := by
      rwa [fileLines_flatMap hnewline]
    refine ⟨_, (readFile_said_iff hlines).mpr fun key => ?_⟩
    rw [hdef]
    rfl

end ConfigFile
end HomeAutomation
