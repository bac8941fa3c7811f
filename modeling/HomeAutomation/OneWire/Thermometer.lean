import HomeAutomation.OneWire.Crc
import Mathlib.Data.Fin.VecNotation

/-!
# The scratchpad of a thermometer

`ThermometerSession::read_scratchpad` reads eight bytes and takes their check for the sign
that they are right.  But the check of the eight bytes is the ninth, which is not read: it
is zero for few of them.

The line is ideal, as for the search: a session sees the bits that are answered in the
slots in which it reads, and a released line behind them.

## Main definitions

* `Line`, `Line.read`, `Line.write` — the bits of a session.
* `Temperature`, `Scratchpad`, `readScratchpad` — the thermometer.
* `ScratchpadVerified` — the check is made as it should be.

## Main results

* `readBytes_answering` — a session reads the bytes that are sent.
* `crcMatch_readScratchpad` — what the check of the source says.
* `scratchpadVerified_iff` — when it is right.

## References

`firmware/ti/onewire/ThermometerSession.cpp`, `Session.cpp`,
`firmware/ti/include/onewire/onewire.h`.
-/

namespace HomeAutomation
namespace OneWire

/-! ### The line -/

/-- The line in a session: the bits that will be answered, and those that were written. -/
structure Line where
  answers : List Bool
  written : List Bool

namespace Line

/-- A slot in which the session reads.  A line that nobody pulls down reads as a one. -/
def slot (l : Line) : Bool × Line := (l.answers.headD true, { l with answers := l.answers.tail })

/-- The loop of `Session::read`, for `n` bits from the number `bit` on. -/
def readLoop : ℕ → ℕ → UInt32 → Line → UInt32 × Line
  | 0, _, result, l => (result, l)
  | n + 1, bit, result, l =>
    readLoop n (bit + 1) (if l.slot.1 then result ||| 1 <<< UInt32.ofNat bit else result) l.slot.2

/-- `Session::read`. -/
def read (bits : ℕ) (l : Line) : UInt32 × Line := readLoop bits 0 0 l

/-- `Session::write`. -/
def write (value : UInt32) (bits : ℕ) (l : Line) : Line :=
  { l with written := l.written ++ (List.range bits).map value.toBitVec.getLsbD }

/-- The loop of `read_scratchpad`, for `n` bytes. -/
def readBytes : ℕ → Line → List UInt8 × Line
  | 0, l => ([], l)
  | n + 1, l =>
    let rest := readBytes n (l.read 8).2
    ((l.read 8).1.toUInt8 :: rest.1, rest.2)

/-- The bits in which a byte is sent. -/
def bitsOf (byte : UInt8) : List Bool := (List.range 8).map byte.toBitVec.getLsbD

/-- A line on which some bytes will be answered. -/
def answering (bytes : List UInt8) : Line := ⟨bytes.flatMap bitsOf, []⟩

end Line

/-! ### The thermometer -/

/-- `Temperature`, in sixteenths of a degree. -/
structure Temperature where
  value : Int16 := 0
  deriving DecidableEq

namespace Temperature

/-- `from_raw16`. -/
def fromRaw16 (lo hi : UInt8) : Temperature := ⟨(hi.toUInt16 <<< 8 ||| lo.toUInt16).toInt16⟩

/-- `from_raw8`. -/
def fromRaw8 (value : UInt8) : Temperature := ⟨value.toInt8.toInt16 <<< 4⟩

end Temperature

/-- `ThermometerSession::Scratchpad`. -/
structure Scratchpad where
  temperature : Temperature := {}
  th : Temperature := {}
  tl : Temperature := {}
  config : UInt8 := 0
  crcMatch : Bool := false
  deriving DecidableEq

/-- `READ_SCRATCHPAD`. -/
def readScratchpadCommand : UInt32 := 0xbe

/-- `ThermometerSession::read_scratchpad`. -/
def readScratchpad (l : Line) : Scratchpad × Line :=
  let (rawData, l) := (l.write readScratchpadCommand 8).readBytes 8
  ({ crcMatch := crc rawData = 0
     temperature := .fromRaw16 (rawData.getD 0 0) (rawData.getD 1 0)
     th := .fromRaw8 (rawData.getD 2 0)
     tl := .fromRaw8 (rawData.getD 3 0)
     config := rawData.getD 4 0 }, l)

/-! ### What a session reads -/

/-- A session reads the byte that is sent. -/
theorem read_bitsOf (byte : UInt8) (rest written : List Bool) :
    ((Line.mk (Line.bitsOf byte ++ rest) written).read 8).1.toUInt8 = byte ∧
      ((Line.mk (Line.bitsOf byte ++ rest) written).read 8).2 = ⟨rest, written⟩ := by
  have hbyte : ∀ x : BitVec 8,
      ((Line.mk (Line.bitsOf ⟨x⟩) []).read 8).1.toUInt8 = UInt8.ofBitVec x := by decide +kernel
  exact ⟨hbyte byte.toBitVec, rfl⟩

/-- **A session reads the bytes that are sent**, and leaves those behind them. -/
theorem readBytes_answering (bytes rest : List UInt8) (written : List Bool) :
    (Line.mk ((bytes ++ rest).flatMap Line.bitsOf) written).readBytes bytes.length
      = (bytes, ⟨rest.flatMap Line.bitsOf, written⟩) := by
  induction bytes with
  | nil => rfl
  | cons byte bytes ih =>
    obtain ⟨hfirst, hline⟩ := read_bitsOf byte ((bytes ++ rest).flatMap Line.bitsOf) written
    rw [List.length_cons, List.cons_append, List.flatMap_cons, Line.readBytes, hline, ih, hfirst]

/-! ### The check of the scratchpad -/

/-- The data of nine bytes. -/
def dataOf (received : Fin 9 → UInt8) : List UInt8 := List.ofFn fun i : Fin 8 => received i.castSucc

/-- What the session makes of nine bytes. -/
def reported (received : Fin 9 → UInt8) : Scratchpad :=
  (readScratchpad (Line.answering (List.ofFn received))).1

/-- A scratchpad as a thermometer sends it: behind the data comes their check. -/
def Intact (sent : Fin 9 → UInt8) : Prop := sent (Fin.last 8) = crc (dataOf sent)

/-- **The check is made**: it says whether the ninth byte is the check of the others; in
particular it finds an intact scratchpad right, and one with a single wrong byte wrong. -/
structure ScratchpadVerified (received : Fin 9 → UInt8) : Prop where
  iff_intact : (reported received).crcMatch = true ↔ Intact received
  accepted : Intact received → (reported received).crcMatch = true
  rejected : ∀ sent, Intact sent → (∃! i, received i ≠ sent i) →
    (reported received).crcMatch = false

theorem ofFn_eq_dataOf (received : Fin 9 → UInt8) :
    List.ofFn received = dataOf received ++ [received (Fin.last 8)] := List.ofFn_succ_last

/-- **What the source says**: the check of the eight data bytes is zero. -/
theorem crcMatch_readScratchpad (received : Fin 9 → UInt8) :
    (reported received).crcMatch = true ↔ crc (dataOf received) = 0 := by
  have hlength : (dataOf received).length = 8 := List.length_ofFn
  have hread := readBytes_answering (dataOf received) [received (Fin.last 8)]
    ((List.range 8).map readScratchpadCommand.toBitVec.getLsbD)
  rw [hlength, ← ofFn_eq_dataOf] at hread
  have hraw : (((Line.answering (List.ofFn received)).write readScratchpadCommand 8).readBytes 8).1
      = dataOf received := congrArg Prod.fst hread
  rw [reported, readScratchpad]
  dsimp only
  rw [hraw, decide_eq_true_iff]

/-- What stands at a place of the data. -/
theorem dataOf_getElem? (received : Fin 9 → UInt8) (j : Fin 8) :
    (dataOf received)[(j : ℕ)]? = some (received j.castSucc) := by
  rw [dataOf, List.getElem?_ofFn, dif_pos j.isLt]

/-- Behind the data there is nothing. -/
theorem dataOf_getElem?_none (received : Fin 9 → UInt8) {k : ℕ} (hk : 8 ≤ k) :
    (dataOf received)[k]? = none :=
  List.getElem?_eq_none (List.length_ofFn.trans_le hk)

/-- Scratchpads with a single different byte, which is one of the data. -/
theorem differInOneByte_dataOf {sent received : Fin 9 → UInt8} {j : Fin 8}
    (hne : received j.castSucc ≠ sent j.castSucc)
    (honly : ∀ i, received i ≠ sent i → i = j.castSucc) :
    DifferInOneByte (dataOf received) (dataOf sent) := by
  refine ⟨by rw [dataOf, dataOf, List.length_ofFn, List.length_ofFn], j, ?_, ?_⟩
  · simpa only [dataOf_getElem?, ne_eq, Option.some.injEq] using hne
  · intro k hk
    rcases lt_or_ge k 8 with hlt | hge
    · have hk' : received (Fin.castSucc ⟨k, hlt⟩) ≠ sent (Fin.castSucc ⟨k, hlt⟩) := by
        have hreceived := dataOf_getElem? received ⟨k, hlt⟩
        have hsent := dataOf_getElem? sent ⟨k, hlt⟩
        dsimp only at hreceived hsent
        simpa only [hreceived, hsent, ne_eq, Option.some.injEq] using hk
      exact congrArg Fin.val (Fin.castSucc_injective 8 (honly _ hk'))
    · rw [dataOf_getElem?_none received hge, dataOf_getElem?_none sent hge] at hk
      exact absurd rfl hk

/-- A scratchpad with a single wrong byte is not intact. -/
theorem not_intact_of_corrupted {sent received : Fin 9 → UInt8} (hsent : Intact sent)
    (h : ∃! i, received i ≠ sent i) : ¬ Intact received := by
  obtain ⟨i, hne, honly⟩ := h
  intro hreceived
  induction i using Fin.lastCases with
  | last =>
    -- the wrong byte is the check, and the data are those that were sent
    have hdata : dataOf received = dataOf sent := by
      refine congrArg List.ofFn (funext fun j => ?_)
      by_contra hj
      exact absurd (honly _ hj) (Fin.castSucc_lt_last j).ne
    exact hne (by rw [hreceived, hsent, hdata])
  | cast j =>
    have hlast : received (Fin.last 8) = sent (Fin.last 8) := by
      by_contra hl
      exact absurd (honly _ hl) (Fin.castSucc_lt_last j).ne'
    refine crc_ne (differInOneByte_dataOf hne honly) ?_
    rw [← hreceived, ← hsent, hlast]

/-- **When the check is right.**  The source finds right what has the check zero, whatever
the ninth byte. -/
theorem scratchpadVerified_iff (received : Fin 9 → UInt8) :
    ScratchpadVerified received ↔
      (crc (dataOf received) = 0 ∧ received (Fin.last 8) = 0) ∨
        (crc (dataOf received) ≠ 0 ∧ received (Fin.last 8) ≠ crc (dataOf received)) := by
  have hiff : ScratchpadVerified received ↔ (crc (dataOf received) = 0 ↔ Intact received) := by
    constructor
    · exact fun h => (crcMatch_readScratchpad received).symm.trans h.iff_intact
    · intro h
      have hmatch := (crcMatch_readScratchpad received).trans h
      exact ⟨hmatch, hmatch.mpr, fun sent hsent hone => Bool.eq_false_iff.mpr fun htrue =>
        not_intact_of_corrupted hsent hone (hmatch.mp htrue)⟩
  rw [hiff, Intact]
  rcases eq_or_ne (crc (dataOf received)) 0 with hzero | hnonzero
  · simp only [hzero, true_iff, true_and, ne_eq, not_true_eq_false, false_and, or_false]
  · simp only [hnonzero, false_iff, false_and, ne_eq, not_false_eq_true, true_and, false_or]

/-- A scratchpad of a thermometer at 85 degrees, as it is after the power is switched on. -/
def poweredOn : Fin 9 → UInt8 := ![0x50, 0x05, 0x4b, 0x46, 0x7f, 0xff, 0x0c, 0x10, 0x1c]

/-- **An intact scratchpad is found wrong.** -/
theorem intact_not_verified :
    Intact poweredOn ∧ (reported poweredOn).crcMatch = false ∧ ¬ ScratchpadVerified poweredOn := by
  have hintact : Intact poweredOn := by
    rw [Intact]
    decide +kernel
  have hcrc : crc (dataOf poweredOn) ≠ 0 := by decide +kernel
  have hwrong : (reported poweredOn).crcMatch = false :=
    Bool.eq_false_iff.mpr fun h => hcrc ((crcMatch_readScratchpad poweredOn).mp h)
  exact ⟨hintact, hwrong, fun h => Bool.false_ne_true (hwrong.symm.trans (h.accepted hintact))⟩

end OneWire
end HomeAutomation
