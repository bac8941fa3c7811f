import HomeAutomation.OneWire.Measurement

/-!
# The thresholds of a thermometer

`write_scratchpad` sends two temperatures, cut down to a byte each, and a byte of
configuration, and `read_scratchpad` reads them back.  What is read is what was written
for temperatures of whole degrees that fit in a byte, and for no others.

## Main definitions

* `Temperature.Whole` — whole degrees that fit in a byte.
* `Keeps` — what a thermometer does with what is written to it.
* `configure` — thresholds are written and read back.

## Main results

* `fromRaw8_raw8_iff` — the temperatures that a byte can hold.
* `configure_iff` — **the thresholds that are read back**, on a bus with any other devices.

## References

`firmware/ti/onewire/ThermometerSession.cpp`, `firmware/ti/include/onewire/onewire.h`.
-/

namespace HomeAutomation
namespace OneWire

/-! ### Temperatures in a byte -/

/-- A temperature of whole degrees that fits in a byte with a sign. -/
def Temperature.Whole (t : Temperature) : Prop :=
  16 ∣ t.value.toInt ∧ -2048 ≤ t.value.toInt ∧ t.value.toInt < 2048

/-- What a byte stands for is sixteen times its number. -/
theorem toInt_fromRaw8 (b : UInt8) : (Temperature.fromRaw8 b).value.toInt = b.toInt8.toInt * 16 := by
  have hbits : (Temperature.fromRaw8 b).value.toBitVec = b.toInt8.toInt16.toBitVec <<< 4 := rfl
  have hsixteen : (BitVec.twoPow 16 4).toInt = 16 := by decide
  have hlt := b.toInt8.toInt_lt
  have hle := b.toInt8.le_toInt
  rw [← Int16.toInt_toBitVec, hbits, BitVec.shiftLeft_eq_mul_twoPow, BitVec.toInt_mul,
    Int16.toInt_toBitVec, Int8.toInt_toInt16, hsixteen]
  exact Int.bmod_eq_of_le (by omega) (by omega)

/-- The byte of a temperature is its number of degrees, rounded down and cut to a byte. -/
theorem toInt_raw8 (t : Temperature) : t.raw8.toInt8.toInt = (t.value.toInt / 16).bmod 256 := by
  have hbyte : t.raw8.toInt8 = (t.value >>> 4).toInt8 := rfl
  have hbits : (t.value >>> 4).toBitVec = t.value.toBitVec.sshiftRight 4 := rfl
  rw [hbyte, Int16.toInt_toInt8, ← Int16.toInt_toBitVec, hbits, BitVec.toInt_sshiftRight]
  simp [Int.shiftRight_eq_div_pow]

/-- **The temperatures that a byte can hold.** -/
theorem fromRaw8_raw8_iff (t : Temperature) : Temperature.fromRaw8 t.raw8 = t ↔ t.Whole := by
  have hvalue : Temperature.fromRaw8 t.raw8 = t
      ↔ (Temperature.fromRaw8 t.raw8).value.toInt = t.value.toInt := by
    rw [Int16.toInt_inj]
    constructor
    · exact congrArg Temperature.value
    · intro h
      cases t
      exact congrArg Temperature.mk h
  have hlt := t.value.toInt_lt
  have hle := t.value.le_toInt
  rw [hvalue, toInt_fromRaw8, toInt_raw8, Temperature.Whole]
  constructor
  · intro h
    have hupper := Int.bmod_lt (x := t.value.toInt / 16) (m := 256) (by omega)
    have hlower := Int.le_bmod (x := t.value.toInt / 16) (m := 256) (by omega)
    exact ⟨⟨_, by rw [mul_comm]; exact h.symm⟩, by omega, by omega⟩
  · rintro ⟨⟨k, hk⟩, hlower, hupper⟩
    rw [hk, Int.mul_ediv_cancel_left k (by omega), Int.bmod_eq_of_le (by omega) (by omega), mul_comm]

/-! ### Thermometers that keep what is written -/

section Keeps

variable {σ : Type*} (F : Party σ)

/-- The bytes of `write_scratchpad`. -/
def scratchpadBytes (th tl config : UInt8) : List UInt8 :=
  [ThermometerSession.writeScratchpadCommand.toUInt8, th, tl, config]

/-- The thermometer when these bytes have been written to it. -/
def configured (s : σ) (th tl config : UInt8) : σ :=
  F.hearsAll ((scratchpadBytes th tl config).flatMap Line.bitsOf) (F.reset s)

/-- **A thermometer that keeps what is written to it**: behind the next reset it sends both
thresholds as the third and the fourth byte, and what it keeps of the configuration as the
fifth. -/
structure Keeps (s : σ) (kept : UInt8 → UInt8) : Prop where
  heeds : ∀ th tl config,
    F.Listens ((scratchpadBytes th tl config).flatMap Line.bitsOf) (F.reset s)
  listens : ∀ th tl config,
    F.Listens (Line.bitsOf Port.readScratchpad) (F.reset (configured F s th tl config))
  answers : ∀ th tl config, ∃ b₀ b₁ b₅ b₆ b₇,
    ((Talk.readBits 64).run F.alone (F.hearsAll (Line.bitsOf Port.readScratchpad)
      (F.reset (configured F s th tl config)))).1
        = [b₀, b₁, th, tl, kept config, b₅, b₆, b₇].flatMap Line.bitsOf

end Keeps

/-! ### An ideal memory -/

/-- Where a memory is in the slots in which it is addressed. -/
inductive Storing
  | command (heard : List Bool)
  | receiving (heard : List Bool)
  | sending (rest : List Bool)

/-- The registers of a thermometer. -/
structure Memory where
  th : UInt8
  tl : UInt8
  config : UInt8
  phase : Storing

/-- The byte of eight bits. -/
def byteOfBits (bits : List Bool) : UInt8 := (Session.gather 0 0 bits).toUInt8

/-- What a memory does once it has heard a command. -/
def Memory.commanded (s : Memory) (command : List Bool) : Storing :=
  if command = Line.bitsOf ThermometerSession.writeScratchpadCommand.toUInt8 then .receiving []
  else if command = Line.bitsOf Port.readScratchpad then
    .sending ([0, 0, s.th, s.tl, s.config, 0, 0, 0].flatMap Line.bitsOf)
  else .sending []

/-- A thermometer that keeps three bytes. -/
def memory : Party Memory where
  reset s := { s with phase := .command [] }
  sends s :=
    match s.phase with
    | .sending rest => rest.headD true
    | _ => true
  hears level s :=
    match s.phase with
    | .command heard =>
      { s with phase :=
          if heard.length < 7 then .command (heard ++ [level]) else s.commanded (heard ++ [level]) }
    | .receiving heard =>
      let heard := heard ++ [level]
      if heard.length = 24 then
        ⟨byteOfBits (heard.take 8), byteOfBits ((heard.drop 8).take 8), byteOfBits (heard.drop 16),
          .command []⟩
      else { s with phase := .receiving heard }
    | .sending rest => { s with phase := .sending rest.tail }

/-- A memory hears a command in eight slots. -/
theorem memory_commanded {s : Memory} (hs : s.phase = .command []) {bits : List Bool}
    (hbits : bits.length = 8) : memory.Listens bits s ∧
      memory.hearsAll bits s = { s with phase := s.commanded bits } := by
  obtain ⟨th, tl, config, phase⟩ := s
  cases hs
  match bits, hbits with
  | [b₀, b₁, b₂, b₃, b₄, b₅, b₆, b₇], _ =>
    exact ⟨⟨rfl, rfl, rfl, rfl, rfl, rfl, rfl, rfl, trivial⟩, rfl⟩

/-- What a memory does with the bits up to the last of three bytes. -/
theorem memory_receives : ∀ {bits heard : List Bool} {s : Memory}, s.phase = .receiving heard →
    bits ≠ [] → heard.length + bits.length = 24 → memory.Listens bits s ∧
      memory.hearsAll bits s = ⟨byteOfBits ((heard ++ bits).take 8),
        byteOfBits (((heard ++ bits).drop 8).take 8), byteOfBits ((heard ++ bits).drop 16),
        .command []⟩ := by
  intro bits
  induction bits with
  | nil => exact fun _ hne => absurd rfl hne
  | cons bit bits ih =>
    intro heard s hs _ hlength
    rw [List.length_cons] at hlength
    obtain ⟨th, tl, config, phase⟩ := s
    cases hs
    rw [Party.Listens, Party.hearsAll, List.foldl_cons]
    -- the last of the 24 bits ends the command, any other one is kept for it
    by_cases hlast : (heard ++ [bit]).length = 24
    · have hslot : memory.hears bit ⟨th, tl, config, .receiving heard⟩
          = ⟨byteOfBits ((heard ++ [bit]).take 8), byteOfBits (((heard ++ [bit]).drop 8).take 8),
            byteOfBits ((heard ++ [bit]).drop 16), .command []⟩ := if_pos hlast
      have hnil : bits = [] := by
        rw [List.length_append, List.length_singleton] at hlast
        exact List.length_eq_zero_iff.mp (by omega)
      rw [hslot, hnil]
      exact ⟨⟨rfl, trivial⟩, rfl⟩
    · have hslot : memory.hears bit ⟨th, tl, config, .receiving heard⟩
          = ⟨th, tl, config, .receiving (heard ++ [bit])⟩ := if_neg hlast
      rw [List.length_append, List.length_singleton] at hlast
      have hne : bits ≠ [] := List.ne_nil_of_length_pos (by omega)
      rcases ih (s := ⟨th, tl, config, .receiving (heard ++ [bit])⟩) rfl hne
        (by rw [List.length_append, List.length_singleton]; omega) with ⟨hlistens, hheard⟩
      rw [Party.hearsAll, List.append_assoc] at hheard
      rw [hslot, hheard]
      exact ⟨⟨rfl, hlistens⟩, rfl⟩

theorem length_bitsOf (byte : UInt8) : (Line.bitsOf byte).length = 8 := rfl

/-- What is written to a memory. -/
theorem memory_configured (s : Memory) (th tl config : UInt8) :
    memory.Listens ((scratchpadBytes th tl config).flatMap Line.bitsOf) (memory.reset s) ∧
      configured memory s th tl config = ⟨th, tl, config, .command []⟩ := by
  have hcommand : memory.Listens
        (Line.bitsOf ThermometerSession.writeScratchpadCommand.toUInt8) (memory.reset s) ∧
      memory.hearsAll (Line.bitsOf ThermometerSession.writeScratchpadCommand.toUInt8) (memory.reset s)
        = { s with phase := .receiving [] } := by
    rcases memory_commanded (s := memory.reset s) rfl
      (length_bitsOf ThermometerSession.writeScratchpadCommand.toUInt8) with ⟨hlistens, hheard⟩
    rw [Memory.commanded, if_pos rfl] at hheard
    exact ⟨hlistens, hheard⟩
  -- the command, and then the three bytes
  have hbytes : (scratchpadBytes th tl config).flatMap Line.bitsOf
      = Line.bitsOf ThermometerSession.writeScratchpadCommand.toUInt8
        ++ (Line.bitsOf th ++ (Line.bitsOf tl ++ Line.bitsOf config)) := by
    simp [scratchpadBytes]
  have hlength : (Line.bitsOf th ++ (Line.bitsOf tl ++ Line.bitsOf config)).length = 24 := by
    simp [length_bitsOf]
  have hne : Line.bitsOf th ++ (Line.bitsOf tl ++ Line.bitsOf config) ≠ [] :=
    List.ne_nil_of_length_pos (by omega)
  have hlength' : ([] : List Bool).length
      + (Line.bitsOf th ++ (Line.bitsOf tl ++ Line.bitsOf config)).length = 24 := by
    rw [hlength]
    rfl
  rcases memory_receives (s := { s with phase := .receiving [] }) rfl hne hlength' with ⟨hlistens, hheard⟩
  rw [configured, hbytes, Party.listens_append, Party.hearsAll_append, hcommand.2, hheard]
  -- which byte of the 24 bits is which
  refine ⟨⟨hcommand.1, hlistens⟩, ?_⟩
  have hbyte : ∀ byte : UInt8, byteOfBits (Line.bitsOf byte) = byte := ThermometerSession.gather_bitsOf
  have hth : (Line.bitsOf th ++ (Line.bitsOf tl ++ Line.bitsOf config)).take 8 = Line.bitsOf th :=
    List.take_left' (length_bitsOf th)
  have hrest : (Line.bitsOf th ++ (Line.bitsOf tl ++ Line.bitsOf config)).drop 8
      = Line.bitsOf tl ++ Line.bitsOf config := List.drop_left' (length_bitsOf th)
  have htl : (Line.bitsOf tl ++ Line.bitsOf config).take 8 = Line.bitsOf tl :=
    List.take_left' (length_bitsOf tl)
  have hconfig : (Line.bitsOf tl ++ Line.bitsOf config).drop 8 = Line.bitsOf config :=
    List.drop_left' (length_bitsOf tl)
  have hsixteen : (Line.bitsOf th ++ (Line.bitsOf tl ++ Line.bitsOf config)).drop 16
      = Line.bitsOf config := by
    rw [show 16 = 8 + 8 from rfl, ← List.drop_drop, hrest, hconfig]
  rw [List.nil_append, hth, hrest, htl, hsixteen, hbyte, hbyte, hbyte]

/-- What is read of a memory that sends. -/
theorem memory_sends : ∀ (rest : List Bool) {s : Memory}, s.phase = .sending rest →
    ((Talk.readBits rest.length).run memory.alone s).1 = rest := by
  intro rest
  induction rest with
  | nil => exact fun _ => rfl
  | cons b rest ih =>
    rintro ⟨th, tl, config, phase⟩ rfl
    have hslot : memory.alone.read ⟨th, tl, config, .sending (b :: rest)⟩
        = (b, ⟨th, tl, config, .sending rest⟩) := rfl
    rw [List.length_cons, Talk.readBits, Talk.run_read, hslot, Talk.run_bind, Talk.run_done, ih rfl]

/-- An ideal memory keeps what is written to it. -/
theorem keeps_memory (s : Memory) : Keeps memory s id := by
  refine ⟨fun th tl config => (memory_configured s th tl config).1, fun th tl config => ?_,
    fun th tl config => ⟨0, 0, 0, 0, 0, ?_⟩⟩
  · exact (memory_commanded rfl (length_bitsOf Port.readScratchpad)).1
  · rw [(memory_configured s th tl config).2]
    have hcommand : memory.hearsAll (Line.bitsOf Port.readScratchpad)
        (memory.reset ⟨th, tl, config, .command []⟩)
          = ⟨th, tl, config, .sending ([0, 0, th, tl, config, 0, 0, 0].flatMap Line.bitsOf)⟩ := by
      -- the reading command is not the writing one
      have hother : Line.bitsOf Port.readScratchpad
          ≠ Line.bitsOf ThermometerSession.writeScratchpadCommand.toUInt8 := by
        decide
      rw [(memory_commanded rfl (length_bitsOf Port.readScratchpad)).2, Memory.commanded,
        if_neg hother, if_pos rfl]
      rfl
    have hlength : ([0, 0, th, tl, config, 0, 0, 0].flatMap Line.bitsOf).length = 64 := by
      simp [length_bitsOf]
    have hsent := memory_sends ([0, 0, th, tl, config, 0, 0, 0].flatMap Line.bitsOf)
      (s := ⟨th, tl, config, .sending ([0, 0, th, tl, config, 0, 0, 0].flatMap Line.bitsOf)⟩) rfl
    rw [hlength] at hsent
    -- the two thresholds and the configuration stand where they were written
    rw [hcommand]
    exact hsent

/-! ### Conversations -/

/-- `write_scratchpad` writes four bytes. -/
theorem writeScratchpad_eq (th tl : Temperature) (config : UInt8) :
    ThermometerSession.writeScratchpad th tl config
      = Talk.writeBits ((scratchpadBytes th.raw8 tl.raw8 config).flatMap Line.bitsOf) := by
  have hcommand : bitsOfWord ThermometerSession.writeScratchpadCommand 8
      = Line.bitsOf ThermometerSession.writeScratchpadCommand.toUInt8 := by decide
  have hbyte : ∀ byte : UInt8, Session.write byte.toUInt32 8 = Talk.writeBits (Line.bitsOf byte) := by
    intro byte
    rw [Session.write_eq _ (by omega), Session.bitsOfWord_byte]
  rw [ThermometerSession.writeScratchpad, Session.write_eq _ (by omega), hcommand, hbyte, hbyte,
    hbyte, ← Talk.writeBits_append, ← Talk.writeBits_append, ← Talk.writeBits_append]
  simp [scratchpadBytes]

/-- Thresholds are written to one thermometer and read back. -/
def configure (id : UniqueId) (th tl : Temperature) (config : UInt8) : Talk Scratchpad := do
  addressed id (ThermometerSession.writeScratchpad th tl config)
  addressed id ThermometerSession.readScratchpad

section Configure

variable {σ : Type*} {F : Party σ} {A : σ → Bool} {ι : Type*} [Fintype ι]
variable {kept : UInt8 → UInt8}

theorem unbroken_writeScratchpad (th tl : Temperature) (config : UInt8) :
    (ThermometerSession.writeScratchpad th tl config).Unbroken := by
  rw [writeScratchpad_eq]
  apply Talk.unbroken_writeBits

theorem unbroken_readScratchpad : ThermometerSession.readScratchpad.Unbroken := by
  have hbytes : ∀ n, (ThermometerSession.readBytes n).Unbroken := by
    intro n
    rw [← Port.readBytes_eq]
    apply unbroken_readBytes
  exact (unbroken_write _ (by omega)).bind fun _ => (hbytes 8).bind fun _ => .done _

/-- What is read back, with the thermometer alone. -/
theorem run_readScratchpad_alone {s : σ} (hk : Keeps F s kept) (th tl config : UInt8) :
    let r := (ThermometerSession.readScratchpad.run F.alone
      (F.reset (configured F s th tl config))).1
    r.th = .fromRaw8 th ∧ r.tl = .fromRaw8 tl ∧ r.config = kept config := by
  have hbits : bitsOfWord readScratchpadCommand 8 = Line.bitsOf Port.readScratchpad :=
    Session.bitsOfWord_byte Port.readScratchpad
  rcases hk.answers th tl config with ⟨b₀, b₁, b₅, b₆, b₇, hanswer⟩
  have hread : ((ThermometerSession.readBytes [b₀, b₁, th, tl, kept config, b₅, b₆, b₇].length).run
      F.alone _).1 = _ := ThermometerSession.run_readBytes hanswer
  rw [ThermometerSession.readScratchpad, Talk.run_bind, Session.write_eq _ (by omega), hbits,
    Party.run_writeBits_alone (hk.listens th tl config), Talk.run_bind]
  dsimp only [List.length_cons, List.length_nil] at hread
  dsimp only
  rw [hread]
  exact ⟨rfl, rfl, rfl⟩

/-- What `write_scratchpad` and `read_scratchpad` come to on a bus. -/
theorem run_configure {d : ι → Device σ} {i : ι} (hid : ∀ j ≠ i, (d j).id ≠ (d i).id)
    (hk : Keeps F (d i).state kept) (th tl : Temperature) (config : UInt8) :
    let r := ((configure (d i).id th tl config).run (onBus F A).bus d).1
    r.th = .fromRaw8 th.raw8 ∧ r.tl = .fromRaw8 tl.raw8 ∧ r.config = kept config := by
  rcases run_addressed (F := F) (A := A) hid (unbroken_writeScratchpad th tl config) with
    ⟨-, hdevice, hothers⟩
  have hwritten : ((ThermometerSession.writeScratchpad th tl config).run F.alone
      (F.reset (d i).state)).2 = configured F (d i).state th.raw8 tl.raw8 config := by
    rw [writeScratchpad_eq, Party.run_writeBits_alone (hk.heeds _ _ _)]
    rfl
  rw [hwritten] at hdevice
  rw [configure, Talk.run_bind]
  generalize ((addressed (d i).id (ThermometerSession.writeScratchpad th tl config)).run
    (onBus F A).bus d).2 = d' at hdevice hothers
  -- the thermometer keeps its id, so the second conversation finds it
  have hid' : ∀ j ≠ i, (d' j).id ≠ (d' i).id := by
    intro j hj
    rw [hothers j hj, hdevice]
    exact hid j hj
  rcases run_addressed (F := F) (A := A) hid' unbroken_readScratchpad with ⟨hvalue, -, -⟩
  rw [hdevice] at hvalue
  dsimp only at hvalue ⊢
  rw [hvalue]
  exact run_readScratchpad_alone hk th.raw8 tl.raw8 config

/-- **The thresholds that are read back as they were written** are those of whole degrees that
fit in a byte; the configuration is what the thermometer keeps of it. -/
theorem configure_iff {d : ι → Device σ} {i : ι} (hid : ∀ j ≠ i, (d j).id ≠ (d i).id)
    (hk : Keeps F (d i).state kept) (th tl : Temperature) (config : UInt8) :
    let r := ((configure (d i).id th tl config).run (onBus F A).bus d).1
    (r.th = th ∧ r.tl = tl ↔ th.Whole ∧ tl.Whole) ∧ r.config = kept config := by
  rcases run_configure (F := F) (A := A) hid hk th tl config with ⟨hth, htl, hconfig⟩
  refine ⟨?_, hconfig⟩
  rw [hth, htl, fromRaw8_raw8_iff, fromRaw8_raw8_iff]

end Configure

/-- Two memories, whatever they did before. -/
def sampleMemories : Fin 2 → Device Memory
  | 0 => ⟨0x28, .off, ⟨0, 0, 0, .receiving []⟩⟩
  | 1 => ⟨0x1028, .addressed, ⟨1, 2, 3, .sending [false]⟩⟩

/-- Half a degree is lost. -/
theorem configure_iff_half :
    ((configure (sampleMemories 0).id ⟨168⟩ ⟨-160⟩ 0x1f).run
        (onBus memory fun _ => false).bus sampleMemories).1.th ≠ ⟨168⟩ ∨
      ((configure (sampleMemories 0).id ⟨168⟩ ⟨-160⟩ 0x1f).run
        (onBus memory fun _ => false).bus sampleMemories).1.tl ≠ ⟨-160⟩ := by
  have hid : ∀ j ≠ 0, (sampleMemories j).id ≠ (sampleMemories 0).id := by decide
  have hhalf : ¬ Temperature.Whole ⟨168⟩ := fun h => absurd h.1 (by decide)
  have hiff := (configure_iff (A := fun _ => false) hid (keeps_memory (sampleMemories 0).state)
    ⟨168⟩ ⟨-160⟩ 0x1f).1
  exact not_and_or.mp fun h => hhalf (hiff.mp h).1

end OneWire
end HomeAutomation
