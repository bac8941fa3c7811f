import HomeAutomation.Lib.Conversation
import HomeAutomation.Node.Functions
import HomeAutomation.OneWire.Session
import HomeAutomation.OneWire.Thermometer

/-!
# The two masters of a 1-Wire bus

The CAN master and the nodes have each their own code for the bus: `Session` of the one
takes any number of bits of a word, and the port of the others takes bytes.  Both are
conversations, slot by slot.  The time slots themselves are those of the wire.

The loop of `convert_t` has no bound of its own; the conversation is given a number of
turns, and comes to `false` if they are not enough.

## Main definitions

* `Session.write`, `Session.read`, `Session.readRom`, `Session.matchRom`, `Session.skipRom`,
  `Session.searchRom` — the session.
* `ThermometerSession.convertT`, `ThermometerSession.writeScratchpad`,
  `ThermometerSession.readScratchpad`, `ThermometerSession.readT` — thermometers.
* `Port.writeByte`, `Port.readByte`, `Port.readTemp` — the port of a node.
* `Port.observed` — what a node sees of the wire.

## Main results

* `Session.write_eq`, `Session.read_eq` — the bits of a word, the lowest first.
* `Session.matchRom_eq` — `match_rom` writes the command and the 64 bits of the id.
* `Port.writeByte_eq`, `Port.readByte_eq` — **both masters do the same with a byte.**
* `ThermometerSession.run_readScratchpad` — a scratchpad that is read from given bits.
* `Port.run_readTemp` — what a node makes of the wire.

## References

`firmware/ti/onewire/Session.cpp`, `firmware/ti/onewire/ThermometerSession.cpp`,
`firmware/ti/include/onewire/onewire.h`, `stm8/can_node/onewire.c`,
`stm8/can_node/mod_ds18b20.c`.
-/

namespace HomeAutomation
namespace OneWire

/-- The lowest bits of a word, the lowest first. -/
def bitsOfWord (value : UInt32) (bits : ℕ) : List Bool :=
  (List.range bits).map value.toBitVec.getLsbD

/-- The bits of an id, the lowest first. -/
def bitsOfId (id : UniqueId) : List Bool := (List.range 64).map id.getLsbD

@[simp] theorem length_bitsOfId (id : UniqueId) : (bitsOfId id).length = 64 := by
  simp [bitsOfId]

/-! ### The session of the CAN master -/

namespace Session

/-- `READ_ROM`. -/
def readRomCommand : UInt32 := 0x33

/-- `MATCH_ROM`. -/
def matchRomCommand : UInt32 := 0x55

/-- `SKIP_ROM`. -/
def skipRomCommand : UInt32 := 0xcc

/-- `SEARCH_ROM` and `ALARM_SEARCH`. -/
def searchCommand : SearchType → UInt32
  | .normal => 0xf0
  | .alarm => 0xec

/-- The loop of `write`, for `n` bits from the number `bit` on. -/
def writeLoop (value : UInt32) : ℕ → ℕ → Talk Unit
  | 0, _ => .done ()
  | n + 1, bit => .write (value &&& 1 <<< UInt32.ofNat bit ≠ 0) (writeLoop value n (bit + 1))

/-- `write`. -/
def write (value : UInt32) (bits : ℕ) : Talk Unit := writeLoop value bits 0

/-- The loop of `read`, for `n` bits from the number `bit` on. -/
def readLoop : ℕ → ℕ → UInt32 → Talk UInt32
  | 0, _, result => .done result
  | n + 1, bit, result => .read fun high =>
    readLoop n (bit + 1) (if high then result ||| 1 <<< UInt32.ofNat bit else result)

/-- `read`. -/
def read (bits : ℕ) : Talk UInt32 := readLoop bits 0 0

/-- `read_rom`. -/
def readRom : Talk UniqueId := do
  write readRomCommand 8
  let lo ← read 32
  let hi ← read 32
  return hi.toBitVec.setWidth 64 <<< 32 ||| lo.toBitVec.setWidth 64

/-- `match_rom`. -/
def matchRom (rom : UniqueId) : Talk Unit := do
  write matchRomCommand 8
  write ⟨(rom &&& 0xffffffff#64).setWidth 32⟩ 32
  write ⟨(rom >>> 32).setWidth 32⟩ 32

/-- `skip_rom`. -/
def skipRom : Talk Unit := write skipRomCommand 8

section Search

variable (beyond : ℕ → BitVec 32)

/-- The choice of the bit at an index, with the context and `next_fork`. -/
def chooseBit (index : ℕ) (answer : UInt32) (context : SearchContext) (nextFork : ℕ) :
    SearchContext × ℕ :=
  let value := answer &&& 1 ≠ 0
  let complement := answer &&& 2 ≠ 0
  if value ∨ complement then (context.setBit beyond index value, nextFork)
  else if index = context.lastFork then (context.setBit beyond index true, nextFork)
  else if index > context.lastFork then (context.setBit beyond index false, index)
  else if !context.getBit beyond index then (context, index)
  else (context, nextFork)

/-- The loop of `search_rom`, for `n` bits from the number `index` on. -/
def searchLoop : ℕ → ℕ → SearchContext → ℕ → Talk (SearchContext × Bool)
  | 0, _, context, nextFork =>
    .done ({ context with lastFork := nextFork, done := nextFork = 0 }, true)
  | n + 1, index, context, nextFork => do
    let answer ← read 2
    if answer = 3 then return (context, false)
    let (context, nextFork) := chooseBit beyond index answer context nextFork
    write (if context.getBit beyond index then 1 else 0) 1
    searchLoop n (index + 1) context nextFork

/-- `search_rom`. -/
def searchRom (context : SearchContext) : Talk (SearchContext × Bool) := do
  if context.done then return (context, false)
  write (searchCommand context.type) 8
  searchLoop beyond 64 0 context 0

end Search

/-! ### What the session writes -/

theorem toBitVec_shift {bit : ℕ} (hbit : bit < 32) :
    (1 <<< UInt32.ofNat bit : UInt32).toBitVec = BitVec.twoPow 32 bit := by
  simp [BitVec.twoPow, Nat.mod_eq_of_lt hbit]

/-- The bit that `write` looks at. -/
theorem and_shift_ne_zero_iff (value : UInt32) {bit : ℕ} (hbit : bit < 32) :
    value &&& 1 <<< UInt32.ofNat bit ≠ 0 ↔ value.toBitVec.getLsbD bit = true := by
  rw [ne_eq, ← UInt32.toBitVec_inj, UInt32.toBitVec_and, toBitVec_shift hbit]
  constructor
  · intro h
    by_contra hlow
    apply h
    apply BitVec.eq_of_getLsbD_eq
    intro i _
    by_cases hi : bit = i
    · subst hi
      simp [hlow]
    · simp [hi]
  · intro h hzero
    have hbits : (value.toBitVec &&& BitVec.twoPow 32 bit).getLsbD bit = false := by
      rw [hzero]
      simp
    rw [BitVec.getLsbD_and, BitVec.getLsbD_twoPow, h] at hbits
    simp [hbit] at hbits

/-- **`write` writes the lowest bits**, the lowest first. -/
theorem write_eq (value : UInt32) {bits : ℕ} (hbits : bits ≤ 32) :
    write value bits = Talk.writeBits (bitsOfWord value bits) := by
  have hloop : ∀ n bit, bit + n ≤ 32 → writeLoop value n bit
      = Talk.writeBits ((List.range' bit n).map value.toBitVec.getLsbD) := by
    intro n
    induction n with
    | zero => exact fun bit _ => rfl
    | succ n ih =>
      intro bit hle
      have hbit := and_shift_ne_zero_iff value (show bit < 32 by omega)
      rw [writeLoop, ih (bit + 1) (by omega), List.range'_succ, List.map_cons, Talk.writeBits]
      congr 1
      rw [Bool.eq_iff_iff, decide_eq_true_iff]
      exact hbit
  rw [write, hloop bits 0 (by omega), bitsOfWord, List.range_eq_range']

/-- What `read` makes of the bits that it reads. -/
def gather (bit : ℕ) (result : UInt32) : List Bool → UInt32
  | [] => result
  | high :: rest =>
    gather (bit + 1) (if high then result ||| 1 <<< UInt32.ofNat bit else result) rest

theorem readLoop_eq (n bit : ℕ) (result : UInt32) : readLoop n bit result
    = Talk.readBits n >>= fun bits => .done (gather bit result bits) := by
  induction n generalizing bit result with
  | zero => rfl
  | succ n ih =>
    rw [readLoop, Talk.readBits, Talk.read_bind]
    refine congrArg Talk.read (funext fun high => ?_)
    rw [ih, bind_assoc]
    rfl

/-- **`read` makes a word of bits**, the lowest first. -/
theorem read_eq (n : ℕ) :
    read n = Talk.readBits n >>= fun bits => .done (gather 0 0 bits) := readLoop_eq n 0 0

theorem getLsbD_gather (bits : List Bool) : ∀ (bit : ℕ) (result : UInt32), bit + bits.length ≤ 32 →
    ∀ i, (gather bit result bits).toBitVec.getLsbD i
      = (result.toBitVec.getLsbD i || decide (bit ≤ i) && bits.getD (i - bit) false) := by
  induction bits with
  | nil => simp [gather]
  | cons high bits ih =>
    intro bit result hle i
    rw [List.length_cons] at hle
    have hmask := toBitVec_shift (show bit < 32 by omega)
    rw [gather, ih (bit + 1) _ (by omega)]
    -- a bit below the one read, that one, or one above it
    rcases lt_trichotomy i bit with hlt | rfl | hgt
    · have h₁ : ¬ bit + 1 ≤ i := by omega
      have h₂ : ¬ bit ≤ i := by omega
      cases high with
      | false => simp [h₁, h₂]
      | true => simp [h₁, h₂, hmask, show bit ≠ i by omega]
    · have h₁ : i < 32 := by omega
      cases high with
      | false => simp
      | true => simp [hmask, h₁]
    · have h₁ : bit + 1 ≤ i := by omega
      have h₂ : bit ≤ i := by omega
      have h₃ : i - bit = i - (bit + 1) + 1 := by omega
      cases high with
      | false => simp [h₁, h₂, h₃]
      | true => simp [h₁, h₂, h₃, hmask, show bit ≠ i by omega]

/-- A word of as many bits as it has. -/
theorem gather_getLsbD {bits : List Bool} (h : bits.length ≤ 32) (i : ℕ) :
    (gather 0 0 bits).toBitVec.getLsbD i = bits.getD i false := by
  rw [getLsbD_gather bits 0 0 (by omega)]
  simp

theorem bitsOfWord_byte (byte : UInt8) : bitsOfWord byte.toUInt32 8 = Line.bitsOf byte := by
  unfold bitsOfWord Line.bitsOf
  rw [List.map_inj_left]
  intro i hi
  rw [List.mem_range] at hi
  simp [show i < 32 by omega]

/-- **`match_rom` writes the command and the bits of the id.** -/
theorem matchRom_eq (rom : UniqueId) :
    matchRom rom = Talk.writeBits (bitsOfWord matchRomCommand 8 ++ bitsOfId rom) := by
  -- the two halves of the id, sent one after the other
  have hlow : ∀ i ∈ List.range 32,
      ((rom &&& 0xffffffff#64).setWidth 32).getLsbD i = rom.getLsbD i := by
    intro i hi
    rw [List.mem_range] at hi
    have hones : (0xffffffff#64) = (BitVec.allOnes 32).setWidth 64 := rfl
    rw [BitVec.getLsbD_setWidth, BitVec.getLsbD_and, hones, BitVec.getLsbD_setWidth,
      BitVec.getLsbD_allOnes]
    simp [hi, show i < 64 by omega]
  have hhigh : ∀ i ∈ List.range 32,
      ((rom >>> 32).setWidth 32).getLsbD i = rom.getLsbD (32 + i) := by
    intro i hi
    rw [List.mem_range] at hi
    simp [hi]
  have hid : bitsOfId rom = bitsOfWord ⟨(rom &&& 0xffffffff#64).setWidth 32⟩ 32
      ++ bitsOfWord ⟨(rom >>> 32).setWidth 32⟩ 32 := by
    have hrange : List.range 64 = List.range 32 ++ (List.range 32).map (32 + ·) :=
      List.range_add (n := 32) (m := 32)
    unfold bitsOfId bitsOfWord
    rw [List.map_congr_left hlow, List.map_congr_left hhigh, hrange, List.map_append, List.map_map]
    rfl
  rw [matchRom, write_eq _ (by omega), write_eq _ (by omega), write_eq _ (by omega), hid,
    Talk.writeBits_append, Talk.writeBits_append]

/-- The id whose halves are these bits. -/
def idOfBits (lo hi : List Bool) : UniqueId :=
  (gather 0 0 hi).toBitVec.setWidth 64 <<< 32 ||| (gather 0 0 lo).toBitVec.setWidth 64

theorem readRom_eq : readRom = Talk.writeBits (bitsOfWord readRomCommand 8) >>= fun _ =>
    Talk.readBits 32 >>= fun lo => Talk.readBits 32 >>= fun hi => .done (idOfBits lo hi) := by
  rw [readRom, write_eq _ (by omega), read_eq]
  simp only [bind_assoc]
  rfl

/-- The bits of an id that was read. -/
theorem getLsbD_idOfBits {lo hi : List Bool} (hlo : lo.length = 32) (hhi : hi.length = 32) (i : ℕ) :
    (idOfBits lo hi).getLsbD i = (lo ++ hi).getD i false := by
  rw [idOfBits, BitVec.getLsbD_or, BitVec.getLsbD_shiftLeft, BitVec.getLsbD_setWidth,
    BitVec.getLsbD_setWidth, gather_getLsbD hlo.le, gather_getLsbD hhi.le]
  rcases lt_or_ge i 32 with hi₁ | hi₁
  · rw [List.getD_append _ _ _ _ (by omega)]
    simp [hi₁, show i < 64 by omega]
  · rw [List.getD_append_right _ _ _ _ (by omega), hlo, List.getD_eq_default lo false (by omega)]
    by_cases hi₂ : i < 64
    · simp [hi₁, hi₂, show i - 32 < 64 by omega]
    · rw [List.getD_eq_default hi false (by omega)]
      simp [hi₂]

end Session

/-! ### Thermometers of the CAN master -/

/-- `Temperature::raw8`. -/
def Temperature.raw8 (t : Temperature) : UInt8 := (t.value >>> 4).toInt8.toUInt8

namespace ThermometerSession

/-- `CONVERT_T`. -/
def convertCommand : UInt32 := 0x44

/-- `WRITE_SCRATCHPAD`. -/
def writeScratchpadCommand : UInt32 := 0x4e

/-- The loop of `convert_t`, for so many turns; whether they were enough. -/
def waitLoop : ℕ → Talk Bool
  | 0 => .done false
  | turns + 1 => do
    let answer ← Session.read 1
    if answer = 0 then waitLoop turns else return true

/-- `convert_t`, with so many turns of its loop for `Wait`. -/
def convertT (wait : Option ℕ) : Talk Bool := do
  Session.write convertCommand 8
  match wait with
  | none => return true
  | some turns => waitLoop turns

/-- `write_scratchpad`. -/
def writeScratchpad (th tl : Temperature) (config : UInt8) : Talk Unit := do
  Session.write writeScratchpadCommand 8
  Session.write th.raw8.toUInt32 8
  Session.write tl.raw8.toUInt32 8
  Session.write config.toUInt32 8

/-- The loop of `read_scratchpad`, for `n` bytes. -/
def readBytes : ℕ → Talk (List UInt8)
  | 0 => .done []
  | n + 1 => do
    let byte ← Session.read 8
    let rest ← readBytes n
    return byte.toUInt8 :: rest

/-- `read_scratchpad`. -/
def readScratchpad : Talk Scratchpad := do
  Session.write readScratchpadCommand 8
  let rawData ← readBytes 8
  return { crcMatch := crc rawData = 0
           temperature := .fromRaw16 (rawData.getD 0 0) (rawData.getD 1 0)
           th := .fromRaw8 (rawData.getD 2 0)
           tl := .fromRaw8 (rawData.getD 3 0)
           config := rawData.getD 4 0 }

/-- `read_t`. -/
def readT : Talk Temperature := do
  Session.write readScratchpadCommand 8
  let lo ← Session.read 8
  let hi ← Session.read 8
  return .fromRaw16 lo.toUInt8 hi.toUInt8

/-- The byte whose bits are read. -/
theorem gather_bitsOf (byte : UInt8) : (Session.gather 0 0 (Line.bitsOf byte)).toUInt8 = byte := by
  have hall : ∀ x : BitVec 8,
      (Session.gather 0 0 (Line.bitsOf ⟨x⟩)).toUInt8 = UInt8.ofBitVec x := by decide +kernel
  exact hall byte.toBitVec

/-- **The bits of some bytes are read as these bytes.** -/
theorem run_readBytes {S : Type*} {W : Wire S} : ∀ {bytes : List UInt8} {s : S},
    ((Talk.readBits (8 * bytes.length)).run W s).1 = bytes.flatMap Line.bitsOf →
      ((readBytes bytes.length).run W s).1 = bytes := by
  intro bytes
  induction bytes with
  | nil => exact fun _ => rfl
  | cons byte bytes ih =>
    intro s h
    rw [List.length_cons, show 8 * (bytes.length + 1) = 8 + 8 * bytes.length by omega,
      Talk.readBits_add, Talk.run_bind, Talk.run_bind, Talk.run_done, List.flatMap_cons] at h
    have hlength : ((Talk.readBits 8).run W s).1.length = (Line.bitsOf byte).length := by
      rw [Talk.length_run_readBits]
      rfl
    rcases List.append_inj h hlength with ⟨hbyte, hbytes⟩
    rw [List.length_cons, readBytes, Talk.run_bind, Talk.run_bind, Talk.pure_eq, Talk.run_done,
      Session.read_eq, Talk.run_bind, Talk.run_done, hbyte, ih hbytes, gather_bitsOf]

theorem readT_eq : readT = Session.write readScratchpadCommand 8 >>= fun _ =>
    readBytes 2 >>= fun bytes => .done (.fromRaw16 (bytes.getD 0 0) (bytes.getD 1 0)) := by
  unfold readT readBytes readBytes readBytes
  simp only [bind_assoc]
  rfl

/-- A line as a wire.  It knows nothing of resets. -/
def lineWire : Wire Line where
  reset l := (true, l)
  write bit l := { l with written := l.written ++ [bit] }
  read l := l.slot

theorem run_read_line (bits : ℕ) (l : Line) : (Session.read bits).run lineWire l = l.read bits := by
  have hloop : ∀ n bit result (l : Line),
      (Session.readLoop n bit result).run lineWire l = Line.readLoop n bit result l := by
    intro n
    induction n with
    | zero => exact fun bit result l => rfl
    | succ n ih => exact fun bit result l => ih _ _ _
  exact hloop bits 0 0 l

theorem run_write_line (value : UInt32) {bits : ℕ} (hbits : bits ≤ 32) (l : Line) :
    (Session.write value bits).run lineWire l = ((), l.write value bits) := by
  have hwritten : ∀ (bs : List Bool) (l : Line),
      (Talk.writeBits bs).run lineWire l = ((), { l with written := l.written ++ bs }) := by
    intro bs
    induction bs with
    | nil => exact fun l => by simp [Talk.writeBits]
    | cons b bs ih =>
      intro l
      rw [Talk.writeBits, Talk.run_write, ih]
      simp [lineWire]
  rw [Session.write_eq value hbits, hwritten]
  rfl

theorem run_readBytes_line (n : ℕ) (l : Line) : (readBytes n).run lineWire l = l.readBytes n := by
  induction n generalizing l with
  | zero => rfl
  | succ n ih =>
    rw [readBytes, Talk.run_bind, Talk.run_bind, run_read_line, ih]
    rfl

/-- **The conversation over a line**: a scratchpad is read as from the bits of the line. -/
theorem run_readScratchpad (l : Line) :
    readScratchpad.run lineWire l = OneWire.readScratchpad l := by
  rw [readScratchpad, Talk.run_bind, run_write_line _ (by omega), Talk.run_bind,
    run_readBytes_line]
  rfl

end ThermometerSession

/-! ### The port of a node -/

namespace Port

/-- The loop of `write_byte`. -/
def writeByteLoop : ℕ → UInt8 → Talk Unit
  | 0, _ => .done ()
  | n + 1, byte => .write (byte &&& 1 ≠ 0) (writeByteLoop n (byte >>> 1))

/-- `write_byte`. -/
def writeByte (byte : UInt8) : Talk Unit := writeByteLoop 8 byte

/-- The loop of `read_byte`. -/
def readByteLoop : ℕ → UInt8 → Talk UInt8
  | 0, byte => .done byte
  | n + 1, byte => .read fun high => readByteLoop n (byte >>> 1 ||| if high then 0x80 else 0)

/-- `read_byte`. -/
def readByte : Talk UInt8 := readByteLoop 8 0

/-- `CAN_Node_OW_read_bytes`. -/
def readBytes : ℕ → Talk (List UInt8)
  | 0 => .done []
  | n + 1 => do
    let byte ← readByte
    let rest ← readBytes n
    return byte :: rest

/-- The loop of `read_temp` that waits for the conversion. -/
def waitLoop : ℕ → Talk Bool
  | 0 => .done false
  | waitCount + 1 => do
    let byte ← readByte
    if byte ≠ 0 then return true else waitLoop waitCount

/-- `Cmd_SKIP_ROM`, `Cmd_CONVERT_T` and `Cmd_READ_SCRATCHPAD`. -/
def skipRom : UInt8 := 0xcc
def convertT : UInt8 := 0x44
def readScratchpad : UInt8 := 0xbe

/-- `read_temp`. -/
def readTemp : Talk (Option (UInt8 × UInt8)) :=
  .reset fun present =>
    if !present then .done none
    else do
      writeByte skipRom
      writeByte convertT
      let found ← waitLoop 1565
      if !found then .done none
      else .reset fun present =>
        if !present then .done none
        else do
          writeByte skipRom
          writeByte readScratchpad
          let temp ← readBytes 2
          return some (temp.getD 0 0, temp.getD 1 0)

/-- A byte is written with its lowest bit first. -/
theorem writeByte_bits (byte : UInt8) : writeByte byte = Talk.writeBits (Line.bitsOf byte) := by
  -- the byte is shifted, so the bit to send is always the lowest
  have hlow : ∀ b : UInt8, b &&& 1 ≠ 0 ↔ b.toBitVec.getLsbD 0 = true := by
    have hall : ∀ x : BitVec 8, (⟨x⟩ : UInt8) &&& 1 ≠ 0 ↔ x.getLsbD 0 = true := by decide +kernel
    exact fun b => hall b.toBitVec
  have hloop : ∀ n (b : UInt8),
      writeByteLoop n b = Talk.writeBits ((List.range n).map b.toBitVec.getLsbD) := by
    intro n
    induction n with
    | zero => exact fun b => rfl
    | succ n ih =>
      intro b
      -- the loop sends bit `i` of the byte in turn `i`
      have hshift : ∀ i ∈ List.range n,
          (b >>> 1).toBitVec.getLsbD i = (b.toBitVec.getLsbD ∘ Nat.succ) i := by
        intro i _
        simp [Nat.add_comm]
      rw [writeByteLoop, ih, List.range_succ_eq_map, List.map_cons, List.map_map,
        List.map_congr_left hshift, Talk.writeBits]
      congr 1
      rw [Bool.eq_iff_iff, decide_eq_true_iff]
      exact hlow b
  exact hloop 8 byte

/-- **Both masters write a byte alike.** -/
theorem writeByte_eq (byte : UInt8) : writeByte byte = Session.write byte.toUInt32 8 := by
  rw [writeByte_bits, Session.write_eq _ (by omega), Session.bitsOfWord_byte]

/-- What `read_byte` makes of the bits that it reads. -/
def shiftIn (byte : UInt8) : List Bool → UInt8
  | [] => byte
  | high :: rest => shiftIn (byte >>> 1 ||| if high then 0x80 else 0) rest

theorem readByteLoop_eq (n : ℕ) (byte : UInt8) : readByteLoop n byte
    = Talk.readBits n >>= fun bits => .done (shiftIn byte bits) := by
  induction n generalizing byte with
  | zero => rfl
  | succ n ih =>
    rw [readByteLoop, Talk.readBits, Talk.read_bind]
    refine congrArg Talk.read (funext fun high => ?_)
    rw [ih, bind_assoc]
    rfl

/-- Eight bits shifted in from above are the byte that is gathered from below. -/
theorem shiftIn_eq_gather {bits : List Bool} (h : bits.length = 8) :
    shiftIn 0 bits = (Session.gather 0 0 bits).toUInt8 := by
  have hall : ∀ b₀ b₁ b₂ b₃ b₄ b₅ b₆ b₇ : Bool, shiftIn 0 [b₀, b₁, b₂, b₃, b₄, b₅, b₆, b₇]
      = (Session.gather 0 0 [b₀, b₁, b₂, b₃, b₄, b₅, b₆, b₇]).toUInt8 := by decide +kernel
  match bits, h with
  | [b₀, b₁, b₂, b₃, b₄, b₅, b₆, b₇], _ => exact hall b₀ b₁ b₂ b₃ b₄ b₅ b₆ b₇

/-- **Both masters read a byte alike.** -/
theorem readByte_eq : readByte = Session.read 8 >>= fun value => .done value.toUInt8 := by
  rw [readByte, readByteLoop_eq, Session.read_eq, bind_assoc]
  apply Talk.readBits_bind_congr
  intro bits h
  rw [shiftIn_eq_gather h]
  rfl

theorem readBytes_eq (n : ℕ) : readBytes n = ThermometerSession.readBytes n := by
  induction n with
  | zero => rfl
  | succ n ih =>
    rw [readBytes, ThermometerSession.readBytes, readByte_eq, ih, bind_assoc]
    rfl

/-! ### What a node sees of the wire -/

section Observed

variable {S : Type*} (W : Wire S)

/-- The wire behind some bytes that were read. -/
def afterBytes : ℕ → S → S
  | 0, s => s
  | n + 1, s => afterBytes n (readByte.run W s).2

/-- The wire when the conversion has been started. -/
def converting (s : S) : S :=
  ((writeByte convertT).run W ((writeByte skipRom).run W (W.reset s).2).2).2

/-- The wire when the loop of `read_temp` has ended. -/
def waited (s : S) : S := ((waitLoop 1565).run W (converting W s)).2

/-- **What a node sees of the wire** in `read_temp`, the polls counted down as in the source. -/
def observed (s : S) : OneWireBus where
  firstReset := (W.reset s).1
  polls waitCount := (readByte.run W (afterBytes W (1564 - waitCount) (converting W s))).1
  secondReset := (W.reset (waited W s)).1
  scratchpad :=
    let temp := (writeByte skipRom >>= fun _ => writeByte readScratchpad >>= fun _ =>
      readBytes 2).run W (W.reset (waited W s)).2
    (temp.1.getD 0 0, temp.1.getD 1 0)

theorem run_waitLoop {polls : ℕ → UInt8} : ∀ (n : ℕ) (s : S),
    (∀ k < n, polls k = (readByte.run W (afterBytes W (n - 1 - k) s)).1) →
      ((waitLoop n).run W s).1 = Node.conversionDone polls n := by
  intro n
  induction n with
  | zero => exact fun s _ => rfl
  | succ n ih =>
    intro s hpolls
    have hfirst : polls n = (readByte.run W s).1 := by
      rw [hpolls n (Nat.lt_succ_self n), show n + 1 - 1 - n = 0 by omega]
      rfl
    rw [waitLoop, Talk.run_bind, Node.conversionDone, hfirst]
    by_cases hzero : (readByte.run W s).1 = 0
    · rw [if_neg (not_not.mpr hzero), ih, hzero]
      · rfl
      · intro k hk
        rw [hpolls k (by omega), show n + 1 - 1 - k = n - 1 - k + 1 by omega]
        rfl
    · simp [hzero]

/-- **What a node makes of the wire** is what the model of its thermometer makes of what it
sees. -/
theorem run_readTemp (s : S) : (readTemp.run W s).1 = Node.readTemp (observed W s) := by
  have hwait : ((waitLoop 1565).run W (converting W s)).1
      = Node.conversionDone (observed W s).polls 1565 :=
    run_waitLoop W 1565 _ fun k _ => rfl
  -- the two answers to the resets are those the model of the channel is given
  have hfirst : (observed W s).firstReset = (W.reset s).1 := rfl
  have hsecond : (observed W s).secondReset = (W.reset (waited W s)).1 := rfl
  unfold readTemp Node.readTemp
  rw [Talk.run_reset, hfirst, hsecond, ← hwait]
  -- nobody answers the first reset
  cases hpresent : (W.reset s).1 with
  | false => rfl
  | true =>
    have hstate : ((writeByte convertT).run W ((writeByte skipRom).run W (W.reset s).2).2).2
        = converting W s := rfl
    simp only [Bool.not_true, Bool.false_eq_true, if_false, Talk.run_bind, hstate, Bool.true_and]
    cases hfound : ((waitLoop 1565).run W (converting W s)).1 with
    | false => rfl
    | true =>
      simp only [Bool.not_true, Bool.false_eq_true, if_false, Talk.run_reset, Bool.true_and]
      -- nobody answers the second reset
      cases hagain : (W.reset (waited W s)).1 with
      | false =>
        have hagain' : (W.reset ((waitLoop 1565).run W (converting W s)).2).1 = false := hagain
        simp [hagain']
      | true =>
        have hagain' : (W.reset ((waitLoop 1565).run W (converting W s)).2).1 = true := hagain
        simp only [hagain', Bool.not_true, Bool.false_eq_true, if_false, Talk.run_bind, if_true]
        rfl

end Observed
end Port
end OneWire
end HomeAutomation
