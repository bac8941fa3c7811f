import Mathlib.Data.List.Basic
import Mathlib.Data.List.Induction
import Mathlib.Data.List.TakeWhile
import Mathlib.Data.Nat.Digits.Defs
import Mathlib.Tactic.IntervalCases
import Mathlib.Tactic.Ring

/-!
# Hexadecimal text

Numbers written in base sixteen and read back by the two readers the C and C++
standard libraries offer.  Writing is `std::hex` with a `'0'` fill and a field
width, which prints the same text as `%.*x`.  Reading skips blanks, takes an
optional sign and an optional `0x`, and then the longest run of hexadecimal
digits; the two libraries differ only in what they report.

## Main definitions

* `hexVal`, `isHex`, `ofHex` — one digit, and the number a run of digits denotes.
* `hexPad w n` — the number `n` printed with at least `w` digits.
* `scanHex` — the text-level scan shared by both readers: sign and magnitude.
* `istreamHex bits`, `istreamHexOnto bits` — `std::istream >> std::hex` into an
  unsigned type.
* `sscanfHex` — the conversion of `%x`.
* `signedNumber` — the number that a text begins with, with its sign.
* `wholeNumber`, `leadingNumber` — the number that a text is, or begins with.

## Main results

* `ofHex_hexPad` — printing loses nothing.
* `ofHex_append`, `ofHex_lt` — the number that a run of digits denotes.
* `scanHex_append`, `sscanfHex_digits` — a run of digits is read whole, whatever
  follows it.
-/

namespace HomeAutomation
namespace Hex

/-! ### Digits -/

/-- The value of a hexadecimal digit, of either case. -/
def hexVal (c : Char) : Option ℕ :=
  if '0' ≤ c ∧ c ≤ '9' then some (c.toNat - 48)
  else if 'a' ≤ c ∧ c ≤ 'f' then some (c.toNat - 87)
  else if 'A' ≤ c ∧ c ≤ 'F' then some (c.toNat - 55)
  else none

/-- Membership in `"0123456789abcdefABCDEF"`. -/
def isHex (c : Char) : Bool := (hexVal c).isSome

/-- The number denoted by a run of digits, most significant digit first. -/
def ofHex (ds : List Char) : ℕ := ds.foldl (fun acc c => 16 * acc + (hexVal c).getD 0) 0

theorem ofHex_append_singleton (ds : List Char) (c : Char) :
    ofHex (ds ++ [c]) = 16 * ofHex ds + (hexVal c).getD 0 := by
  simp [ofHex]

theorem hexVal_lt {c : Char} {v : ℕ} (h : hexVal c = some v) : v < 16 := by
  unfold hexVal at h
  split at h
  · next hdigit =>
    -- each range of digits lies below sixteen, counted from its first digit
    have hle : c.toNat ≤ '9'.toNat := hdigit.2
    have hnine : '9'.toNat = 57 := rfl
    cases h
    omega
  split at h
  · next hdigit =>
    have hle : c.toNat ≤ 'f'.toNat := hdigit.2
    have hf : 'f'.toNat = 102 := rfl
    cases h
    omega
  split at h
  · next hdigit =>
    have hle : c.toNat ≤ 'F'.toNat := hdigit.2
    have hf : 'F'.toNat = 70 := rfl
    cases h
    omega
  · cases h

/-- The number that two runs of digits denote together. -/
theorem ofHex_append (ds es : List Char) :
    ofHex (ds ++ es) = ofHex ds * 16 ^ es.length + ofHex es := by
  induction es using List.reverseRecOn with
  | nil => simp [ofHex]
  | append_singleton es c ih =>
    rw [← List.append_assoc, ofHex_append_singleton, ofHex_append_singleton, ih,
      List.length_append, List.length_singleton, pow_succ]
    ring

theorem ofHex_lt (ds : List Char) : ofHex ds < 16 ^ ds.length := by
  induction ds using List.reverseRecOn with
  | nil => decide
  | append_singleton ds c ih =>
    have hc : (hexVal c).getD 0 < 16 := by
      cases hval : hexVal c with
      | none => decide
      | some v => exact hexVal_lt hval
    rw [ofHex_append_singleton, List.length_append, List.length_singleton, pow_succ]
    omega

theorem hexVal_digitChar {d : ℕ} (hd : d < 16) : hexVal d.digitChar = some d := by
  interval_cases d <;> decide

theorem isHex_digitChar {d : ℕ} (hd : d < 16) : isHex d.digitChar = true := by
  rw [isHex, hexVal_digitChar hd, Option.isSome_some]

/-- No digit is a blank, a sign or a radix mark. -/
theorem ne_of_isHex {c d : Char} (hc : isHex c = true) (hd : isHex d = false) : c ≠ d := by
  rintro rfl
  rw [hc] at hd
  exact Bool.noConfusion hd

/-! ### Printing -/

/-- `n` in lower-case hexadecimal, filled with `'0'` to at least `w` characters. -/
def hexPad (w n : ℕ) : List Char := (Nat.toDigits 16 n).leftpad w '0'

theorem isHex_of_mem_toDigits (n : ℕ) : ∀ c ∈ Nat.toDigits 16 n, isHex c = true := by
  induction n using Nat.strong_induction_on with
  | _ n ih =>
    intro c hc
    rcases Nat.lt_or_ge n 16 with h | h
    · rw [Nat.toDigits_of_lt_base h, List.mem_singleton] at hc
      rw [hc]
      exact isHex_digitChar h
    · rw [Nat.toDigits_of_base_le (by decide) h, List.mem_append, List.mem_singleton] at hc
      rcases hc with hc | hc
      · exact ih (n / 16) (Nat.div_lt_self (by omega) (by decide)) c hc
      · rw [hc]
        exact isHex_digitChar (Nat.mod_lt _ (by decide))

theorem ofHex_toDigits (n : ℕ) : ofHex (Nat.toDigits 16 n) = n := by
  induction n using Nat.strong_induction_on with
  | _ n ih =>
    rcases Nat.lt_or_ge n 16 with h | h
    · rw [Nat.toDigits_of_lt_base h]
      simp [ofHex, hexVal_digitChar h]
    · rw [Nat.toDigits_of_base_le (by decide) h, ofHex_append_singleton,
        ih (n / 16) (Nat.div_lt_self (by omega) (by decide)),
        hexVal_digitChar (Nat.mod_lt _ (by decide)), Option.getD_some]
      exact Nat.div_add_mod n 16

/-- The fill does not change the number. -/
theorem ofHex_replicate_append (k : ℕ) (ds : List Char) :
    ofHex (List.replicate k '0' ++ ds) = ofHex ds := by
  induction k with
  | zero => rfl
  | succ k ih =>
    rw [List.replicate_succ, List.cons_append]
    have h0 : ∀ l, ofHex ('0' :: l) = ofHex l := fun l => by
      simp [ofHex, show hexVal '0' = some 0 from rfl]
    rw [h0, ih]

/-- **Printing loses nothing.** -/
@[simp] theorem ofHex_hexPad (w n : ℕ) : ofHex (hexPad w n) = n := by
  rw [hexPad, List.leftpad, ofHex_replicate_append, ofHex_toDigits]

theorem isHex_of_mem_hexPad {w n : ℕ} {c : Char} (hc : c ∈ hexPad w n) : isHex c = true := by
  rw [hexPad, List.leftpad, List.mem_append, List.mem_replicate] at hc
  rcases hc with ⟨-, rfl⟩ | hc
  · decide
  · exact isHex_of_mem_toDigits n c hc

theorem hexPad_ne_nil (w n : ℕ) : hexPad w n ≠ [] := by
  intro h
  rw [hexPad, List.leftpad, List.append_eq_nil_iff] at h
  exact Nat.toDigits_ne_nil h.2

/-- A number that fits the field fills it exactly. -/
theorem length_hexPad {w n : ℕ} (hw : 0 < w) (hn : n < 16 ^ w) : (hexPad w n).length = w := by
  have hle : (Nat.toDigits 16 n).length ≤ w := (Nat.length_toDigits_le_iff (by decide) hw).mpr hn
  rw [hexPad, List.length_leftpad]
  exact max_eq_left hle

/-! ### Reading -/

/-- `std::isspace` in the `"C"` locale. -/
def isSpace (c : Char) : Bool :=
  c = ' ' || c = '\t' || c = '\n' || c = '\x0b' || c = '\x0c' || c = '\r'

/-- Take an optional sign: whether it was a minus, and the rest. -/
def takeSign : List Char → Bool × List Char
  | '-' :: s => (true, s)
  | '+' :: s => (false, s)
  | s => (false, s)

/-- Drop an optional radix mark `0x` or `0X`. -/
def dropRadix : List Char → List Char
  | '0' :: 'x' :: s => s
  | '0' :: 'X' :: s => s
  | s => s

/-- The scan both readers make: blanks, sign, radix mark, digits.  It fails when
no digit is there; a radix mark alone is not a number. -/
def scanHex (s : List Char) : Option (Bool × ℕ) :=
  let (neg, s) := takeSign (s.dropWhile isSpace)
  let ds := (dropRadix s).takeWhile isHex
  if ds = [] then none else some (neg, ofHex ds)

/-- The value a scanned number has in an unsigned type of the given width: a
magnitude out of range saturates, a minus sign negates modulo the range. -/
def unsignedOf (bits : ℕ) : Bool × ℕ → ℕ
  | (neg, v) => if 2 ^ bits ≤ v then 2 ^ bits - 1 else if neg then (2 ^ bits - v) % 2 ^ bits else v

/-- `std::istream >> std::hex >> value` into an unsigned type of the given width:
whether the stream is still good, and the value of a variable that was zero.  A
failed extraction stores zero. -/
def istreamHex (bits : ℕ) (s : List Char) : Bool × ℕ :=
  match scanHex s with
  | none => (false, 0)
  | some (neg, v) => (decide (v < 2 ^ bits), unsignedOf bits (neg, v))

/-- The same into a variable with the value `old`: where nothing but blanks is left, the
extraction is not tried and stores nothing. -/
def istreamHexOnto (bits : ℕ) (s : List Char) (old : ℕ) : ℕ :=
  if s.all isSpace then old else (istreamHex bits s).2

/-- The conversion `%x` of `sscanf` into a 32-bit unsigned: `none` when it does
not match.  A radix mark without a digit behind it, as in `0x`, is a matching failure, as in
ISO C; glibc and newlib read it as 0. -/
def sscanfHex (s : List Char) : Option ℕ := (scanHex s).map (unsignedOf 32)

theorem isSpace_of_isHex {c : Char} (hc : isHex c = true) : isSpace c = false := by
  simp only [isSpace, Bool.or_eq_false_iff, decide_eq_false_iff_not]
  exact ⟨⟨⟨⟨⟨ne_of_isHex hc (by decide), ne_of_isHex hc (by decide)⟩,
    ne_of_isHex hc (by decide)⟩, ne_of_isHex hc (by decide)⟩, ne_of_isHex hc (by decide)⟩,
    ne_of_isHex hc (by decide)⟩

theorem takeSign_of_isHex {c : Char} (hc : isHex c = true) (s : List Char) :
    takeSign (c :: s) = (false, c :: s) := by
  have h1 : c ≠ '-' := ne_of_isHex hc (by decide)
  have h2 : c ≠ '+' := ne_of_isHex hc (by decide)
  unfold takeSign
  split <;> simp_all

/-- What follows a run of digits without becoming part of the number. -/
def Stops (rest : List Char) : Prop :=
  ∀ c ∈ rest.head?, isHex c = false ∧ c ≠ 'x' ∧ c ≠ 'X'

theorem stops_nil : Stops [] := by simp [Stops]

theorem stops_cons {c : Char} (s : List Char) (h : isHex c = false ∧ c ≠ 'x' ∧ c ≠ 'X') :
    Stops (c :: s) := by
  simpa [Stops] using h

theorem dropRadix_append {ds rest : List Char} (hds : ∀ c ∈ ds, isHex c = true)
    (hrest : Stops rest) (hne : ds ≠ []) : dropRadix (ds ++ rest) = ds ++ rest := by
  -- the second character is either another digit or the head of `rest`, never an `x`
  have hx : ∀ c s, ds ++ rest = '0' :: c :: s → c ≠ 'x' ∧ c ≠ 'X' := by
    intro c s h
    match ds, hne with
    | [a], _ =>
      simp only [List.cons_append, List.nil_append, List.cons.injEq] at h
      exact (hrest c (by simp [h.2])).2
    | a :: b :: l, _ =>
      simp only [List.cons_append, List.cons.injEq] at h
      have hb : isHex b = true := hds b (by simp)
      rw [← h.2.1]
      exact ⟨ne_of_isHex hb (by decide), ne_of_isHex hb (by decide)⟩
  unfold dropRadix
  split
  · next s h => exact absurd rfl (hx _ _ h).1
  · next s h => exact absurd rfl (hx _ _ h).2
  · rfl

theorem takeWhile_isHex_append {ds rest : List Char} (hds : ∀ c ∈ ds, isHex c = true)
    (hrest : Stops rest) : (ds ++ rest).takeWhile isHex = ds := by
  rw [List.takeWhile_append_of_pos hds]
  cases rest with
  | nil => simp
  | cons c s =>
    have hc := (hrest c (by simp)).1
    simp [hc]

/-- **A run of digits is read whole**, and what follows it is not. -/
theorem scanHex_append {ds rest : List Char} (hds : ∀ c ∈ ds, isHex c = true)
    (hne : ds ≠ []) (hrest : Stops rest) : scanHex (ds ++ rest) = some (false, ofHex ds) := by
  obtain ⟨c, l, rfl⟩ := List.exists_cons_of_ne_nil hne
  have hc : isHex c = true := hds c (by simp)
  have hsp := isSpace_of_isHex hc
  have hdrop : ((c :: l) ++ rest).dropWhile isSpace = (c :: l) ++ rest := by
    simp [hsp]
  have hsign : takeSign ((c :: l) ++ rest) = (false, (c :: l) ++ rest) :=
    takeSign_of_isHex hc _
  rw [scanHex, hdrop, hsign]
  simp only [dropRadix_append hds hrest hne, takeWhile_isHex_append hds hrest]
  rw [if_neg hne]

theorem unsignedOf_of_lt {bits v : ℕ} (hv : v < 2 ^ bits) : unsignedOf bits (false, v) = v := by
  rw [unsignedOf, if_neg (by omega)]
  rfl

/-- The stream reads back what was printed. -/
theorem istreamHex_hexPad (bits w : ℕ) {n : ℕ} {rest : List Char} (hn : n < 2 ^ bits)
    (hrest : Stops rest) : istreamHex bits (hexPad w n ++ rest) = (true, n) := by
  rw [istreamHex, scanHex_append (fun _ => isHex_of_mem_hexPad) (hexPad_ne_nil w n) hrest]
  simp [unsignedOf_of_lt hn, hn]

/-- `%x` reads a run of up to eight digits. -/
theorem sscanfHex_digits {ds rest : List Char} (hds : ∀ c ∈ ds, isHex c = true) (hne : ds ≠ [])
    (hlength : ds.length ≤ 8) (hrest : Stops rest) : sscanfHex (ds ++ rest) = some (ofHex ds) := by
  have hlt : ofHex ds < 2 ^ 32 :=
    (ofHex_lt ds).trans_le (Nat.pow_le_pow_right (by decide) hlength)
  rw [sscanfHex, scanHex_append hds hne hrest, Option.map_some, unsignedOf_of_lt hlt]

/-! ### Numbers with a sign -/

/-- The number that a text begins with, with its sign. -/
def signedNumber (s : List Char) : Option ℤ :=
  (scanHex s).map fun r => if r.1 = true then -(r.2 : ℤ) else r.2

/-- `%x` reads a number in range as it is. -/
theorem sscanfHex_of_signedNumber {s : List Char} {v : ℕ} (h : signedNumber s = some (v : ℤ))
    (hv : v < 2 ^ 32) : sscanfHex s = some v := by
  obtain ⟨⟨neg, w⟩, hscan, hsign⟩ := Option.map_eq_some_iff.mp h
  rw [sscanfHex, hscan, Option.map_some, Option.some.injEq]
  cases neg with
  | false =>
    obtain rfl : w = v := Int.ofNat_inj.mp hsign
    exact unsignedOf_of_lt hv
  | true =>
    -- a minus sign before a zero
    obtain ⟨rfl, rfl⟩ : w = 0 ∧ v = 0 := by
      simp only [if_true] at hsign
      omega
    rfl

/-! ### Texts that are numbers -/

/-- The number that a text denotes as a whole. -/
def wholeNumber (s : List Char) : Option ℕ :=
  if s ≠ [] ∧ s.all isHex = true then some (ofHex s) else none

/-- The number that a text begins with, behind blanks and an optional radix mark. -/
def leadingNumber (s : List Char) : Option ℕ :=
  let ds := (dropRadix (s.dropWhile isSpace)).takeWhile isHex
  if ds = [] then none else some (ofHex ds)

theorem wholeNumber_eq_some_iff {s : List Char} {v : ℕ} :
    wholeNumber s = some v ↔ s ≠ [] ∧ (∀ c ∈ s, isHex c = true) ∧ v = ofHex s := by
  rw [wholeNumber]
  split
  · next h =>
    rw [List.all_eq_true] at h
    rw [Option.some.injEq]
    exact ⟨fun hv => ⟨h.1, h.2, hv.symm⟩, fun hv => hv.2.2.symm⟩
  · next h =>
    rw [List.all_eq_true] at h
    constructor
    · intro hv
      cases hv
    · rintro ⟨hne, hhex, -⟩
      exact absurd ⟨hne, hhex⟩ h

/-- A number that makes up the text behind its blanks is the number it begins with. -/
theorem leadingNumber_of_wholeNumber {s : List Char} {v : ℕ}
    (h : wholeNumber (s.dropWhile isSpace) = some v) : leadingNumber s = some v := by
  obtain ⟨hne, hhex, rfl⟩ := wholeNumber_eq_some_iff.mp h
  have hdrop := dropRadix_append hhex stops_nil hne
  have htake := takeWhile_isHex_append hhex stops_nil
  rw [List.append_nil] at hdrop htake
  rw [leadingNumber, hdrop, htake, if_neg hne]

/-- Both readers read the number that a text begins with. -/
theorem scanHex_of_leadingNumber {s : List Char} {v : ℕ} (h : leadingNumber s = some v) :
    scanHex s = some (false, v) := by
  unfold leadingNumber at h
  unfold scanHex
  cases hs : s.dropWhile isSpace with
  | nil =>
    rw [hs] at h
    cases h
  | cons c t =>
    rw [hs] at h
    -- behind a sign the digits would not be the beginning of the text
    have hsign : takeSign (c :: t) = (false, c :: t) := by
      have hminus : c ≠ '-' := by
        rintro rfl
        simp [dropRadix, show isHex '-' = false from rfl] at h
      have hplus : c ≠ '+' := by
        rintro rfl
        simp [dropRadix, show isHex '+' = false from rfl] at h
      unfold takeSign
      split
      · next heq => exact absurd (List.cons.inj heq).1 hminus
      · next heq => exact absurd (List.cons.inj heq).1 hplus
      · rfl
    rw [hsign]
    dsimp only at h ⊢
    split at h
    · cases h
    · next hds =>
      cases h
      rw [if_neg hds]

theorem length_dropRadix_le (s : List Char) : (dropRadix s).length ≤ s.length := by
  unfold dropRadix
  split
  · simp only [List.length_cons]
    omega
  · simp only [List.length_cons]
    omega
  · exact le_refl _

/-- A short text begins with a small number. -/
theorem leadingNumber_lt {s : List Char} {v : ℕ} (h : leadingNumber s = some v) :
    v < 16 ^ s.length := by
  unfold leadingNumber at h
  dsimp only at h
  split at h
  · cases h
  · cases h
    refine (ofHex_lt _).trans_le (Nat.pow_le_pow_right (by decide) ?_)
    exact ((List.takeWhile_sublist _).length_le.trans (length_dropRadix_le _)).trans
      (List.dropWhile_sublist _).length_le

/-- A number that fits is read as it is. -/
theorem istreamHex_of_leadingNumber {bits v : ℕ} {s : List Char} (h : leadingNumber s = some v)
    (hv : v < 2 ^ bits) : istreamHex bits s = (true, v) := by
  rw [istreamHex, scanHex_of_leadingNumber h]
  simp [unsignedOf_of_lt hv, hv]

theorem istreamHexOnto_of_leadingNumber {bits v : ℕ} {s : List Char}
    (h : leadingNumber s = some v) (hv : v < 2 ^ bits) (old : ℕ) :
    istreamHexOnto bits s old = v := by
  have hblank : ¬ s.all isSpace = true := by
    intro hall
    have hnil : s.dropWhile isSpace = [] := by
      rw [List.dropWhile_eq_nil_iff]
      exact List.all_eq_true.mp hall
    rw [leadingNumber, hnil] at h
    cases h
  rw [istreamHexOnto, if_neg hblank, istreamHex_of_leadingNumber h hv]

/-- A run of digits begins with the number it denotes. -/
theorem leadingNumber_digits {ds : List Char} (hds : ∀ c ∈ ds, isHex c = true) (hne : ds ≠ []) :
    leadingNumber ds = some (ofHex ds) := by
  have hdrop : ds.dropWhile isSpace = ds := by
    obtain ⟨c, l, rfl⟩ := List.exists_cons_of_ne_nil hne
    simp [isSpace_of_isHex (hds c List.mem_cons_self)]
  refine leadingNumber_of_wholeNumber ?_
  rw [hdrop]
  exact wholeNumber_eq_some_iff.mpr ⟨hne, hds, rfl⟩

/-- A text of digits is read whole, as long as its number fits. -/
theorem istreamHex_of_wholeNumber {bits v : ℕ} {s : List Char} (h : wholeNumber s = some v)
    (hv : v < 2 ^ bits) : istreamHex bits s = (true, v) := by
  obtain ⟨hne, hhex, rfl⟩ := wholeNumber_eq_some_iff.mp h
  exact istreamHex_of_leadingNumber (leadingNumber_digits hhex hne) hv

theorem unsignedOf_lt (bits : ℕ) (r : Bool × ℕ) : unsignedOf bits r < 2 ^ bits := by
  obtain ⟨neg, v⟩ := r
  have hpos : 0 < 2 ^ bits := Nat.two_pow_pos bits
  rw [unsignedOf]
  split
  · omega
  · cases neg with
    | true => exact Nat.mod_lt _ hpos
    | false =>
      rw [if_neg Bool.false_ne_true]
      omega

theorem istreamHex_lt (bits : ℕ) (s : List Char) : (istreamHex bits s).2 < 2 ^ bits := by
  unfold istreamHex
  split
  · exact Nat.two_pow_pos bits
  · next neg v _ => exact unsignedOf_lt bits (neg, v)

end Hex
end HomeAutomation
