import HomeAutomation.Node.Requests
import HomeAutomation.OneWire.Devices

/-!
# Measuring a temperature

Both masters start a conversion, read until the thermometer sends a one, and read the two
bytes of the temperature behind another reset.  The CAN master addresses one thermometer of
its bus and looks at every bit; a node has one thermometer, reads bytes, and gives up.

## Main definitions

* `readOn` — a party in slots in which the master reads.
* `Measures` — what a thermometer does that needs so many slots for a conversion.
* `measure` — a measurement with a session, of one thermometer among others.

## Main results

* `run_measure` — the temperature that a session reads, on a bus with any other devices.
* `run_readTemp_bus` — the bytes that a node reads.
* `temperature_reply` — **both masters read the same thermometer alike**, up to the end of a
  client's query for it.

## References

`firmware/ti/onewire/ThermometerSession.cpp`, `firmware/ti/onewire/Session.cpp`,
`stm8/can_node/mod_ds18b20.c`, `stm8/can_node/onewire.c`.
-/

namespace HomeAutomation
namespace OneWire

/-! ### A party that is read -/

section Party

variable {σ : Type*} (F : Party σ)

/-- The party behind some slots in which the master reads. -/
def readOn : ℕ → σ → σ
  | 0, s => s
  | n + 1, s => readOn n (F.hears (F.sends s) s)

theorem readOn_add (m n : ℕ) (s : σ) : readOn F (m + n) s = readOn F n (readOn F m s) := by
  induction m generalizing s with
  | zero => rw [Nat.zero_add, readOn]
  | succ m ih =>
    rw [Nat.succ_add, readOn, ih]
    rfl

/-- What is read of a party that is alone. -/
theorem run_readBits_alone (n : ℕ) (s : σ) : (Talk.readBits n).run F.alone s
    = ((List.range n).map fun k => F.sends (readOn F k s), readOn F n s) := by
  induction n generalizing s with
  | zero => rfl
  | succ n ih =>
    rw [Talk.readBits, Talk.run_read, Talk.run_bind]
    have hslot : F.alone.read s = (F.sends s, F.hears (F.sends s) s) := rfl
    rw [hslot, ih, List.range_succ_eq_map, List.map_cons, List.map_map]
    rfl

/-- The party when it has heard that it should convert. -/
def started (s : σ) : σ := F.hearsAll (Line.bitsOf Port.convertT) (F.reset s)

/-- **A thermometer that needs so many slots for a conversion**: while it converts it sends
zeros, and behind it ones; and behind the next reset it sends what it has measured. -/
structure Measures (s : σ) (duration : ℕ) (lo hi : UInt8) : Prop where
  heeds : F.Listens (Line.bitsOf Port.convertT) (F.reset s)
  busy : ∀ k < duration, F.sends (readOn F k (started F s)) = false
  ready : ∀ k, duration ≤ k → F.sends (readOn F k (started F s)) = true
  listens : ∀ k, duration < k →
    F.Listens (Line.bitsOf Port.readScratchpad) (F.reset (readOn F k (started F s)))
  answers : ∀ k, duration < k →
    ((Talk.readBits 16).run F.alone (F.hearsAll (Line.bitsOf Port.readScratchpad)
      (F.reset (readOn F k (started F s))))).1 = [lo, hi].flatMap Line.bitsOf

end Party

/-! ### Waiting -/

section Waiting

variable {σ : Type*} {F : Party σ} {s : σ} {duration : ℕ} {lo hi : UInt8}

theorem Measures.sends (hm : Measures F s duration lo hi) (k : ℕ) :
    F.sends (readOn F k (started F s)) = decide (duration ≤ k) := by
  by_cases hk : duration ≤ k
  · rw [hm.ready k hk, decide_eq_true hk]
  · rw [hm.busy k (by omega), decide_eq_false hk]

/-- The two bytes that are read of it. -/
theorem Measures.run_readBytes (hm : Measures F s duration lo hi) {k : ℕ} (hk : duration < k) :
    ((ThermometerSession.readBytes 2).run F.alone (F.hearsAll (Line.bitsOf Port.readScratchpad)
      (F.reset (readOn F k (started F s))))).1 = [lo, hi] :=
  show ((ThermometerSession.readBytes [lo, hi].length).run F.alone _).1 = _ from
    ThermometerSession.run_readBytes (hm.answers k hk)

/-- The loop of `convert_t`, some slots after the command. -/
theorem run_waitLoop_session (hm : Measures F s duration lo hi) : ∀ (turns m : ℕ), m ≤ duration →
    ((ThermometerSession.waitLoop turns).run F.alone (readOn F m (started F s))).1
        = decide (duration < m + turns) ∧
      (duration < m + turns → ∃ k, duration < k ∧
        ((ThermometerSession.waitLoop turns).run F.alone (readOn F m (started F s))).2
          = readOn F k (started F s)) := by
  intro turns
  induction turns with
  -- no turn is left, and the conversion is not over
  | zero =>
    intro m hle
    exact ⟨(decide_eq_false (by omega)).symm, fun h => by omega⟩
  | succ turns ih =>
    intro m hle
    have hread : (Session.read 1).run F.alone (readOn F m (started F s))
        = (Session.gather 0 0 [decide (duration ≤ m)], readOn F (m + 1) (started F s)) := by
      rw [Session.read_eq, Talk.run_bind, run_readBits_alone, readOn_add]
      simp [readOn, hm.sends]
    rw [ThermometerSession.waitLoop, Talk.run_bind, hread]
    -- either this slot is past the end of the conversion, or the next turns go on
    by_cases hdone : duration ≤ m
    · have hanswer : Session.gather 0 0 [decide (duration ≤ m)] ≠ 0 := by
        rw [decide_eq_true hdone]
        decide
      rw [if_neg hanswer]
      exact ⟨(decide_eq_true (by omega)).symm, fun _ => ⟨m + 1, by omega, rfl⟩⟩
    · have hanswer : Session.gather 0 0 [decide (duration ≤ m)] = 0 := by
        rw [decide_eq_false hdone]
        decide
      rw [if_pos hanswer, show m + (turns + 1) = m + 1 + turns by omega]
      exact ih (m + 1) (by omega)

/-- A byte is zero that is read of zeros only. -/
theorem shiftIn_ne_zero_iff {bits : List Bool} (h : bits.length = 8) :
    Port.shiftIn 0 bits ≠ 0 ↔ true ∈ bits := by
  have hall : ∀ b₀ b₁ b₂ b₃ b₄ b₅ b₆ b₇ : Bool, Port.shiftIn 0 [b₀, b₁, b₂, b₃, b₄, b₅, b₆, b₇] ≠ 0
      ↔ true ∈ [b₀, b₁, b₂, b₃, b₄, b₅, b₆, b₇] := by decide +kernel
  match bits, h with
  | [b₀, b₁, b₂, b₃, b₄, b₅, b₆, b₇], _ => exact hall b₀ b₁ b₂ b₃ b₄ b₅ b₆ b₇

/-- The loop of `read_temp`, some slots after the command. -/
theorem run_waitLoop_port (hm : Measures F s duration lo hi) : ∀ (n m : ℕ), m ≤ duration →
    ((Port.waitLoop n).run F.alone (readOn F m (started F s))).1
        = decide (duration < m + 8 * n) ∧
      (duration < m + 8 * n → ∃ k, duration < k ∧
        ((Port.waitLoop n).run F.alone (readOn F m (started F s))).2
          = readOn F k (started F s)) := by
  intro n
  induction n with
  | zero =>
    intro m hle
    exact ⟨(decide_eq_false (by omega)).symm, fun h => by omega⟩
  | succ n ih =>
    intro m hle
    have hread : Port.readByte.run F.alone (readOn F m (started F s))
        = (Port.shiftIn 0 ((List.range 8).map fun k => decide (duration ≤ m + k)),
          readOn F (m + 8) (started F s)) := by
      rw [Port.readByte, Port.readByteLoop_eq, Talk.run_bind, run_readBits_alone, readOn_add]
      simp only [← readOn_add, hm.sends]
      rfl
    -- eight slots a turn, and one of them past the end is enough
    have hzero : Port.shiftIn 0 ((List.range 8).map fun k => decide (duration ≤ m + k)) ≠ 0
        ↔ duration < m + 8 := by
      rw [shiftIn_ne_zero_iff (by simp)]
      simp only [List.mem_map, List.mem_range, decide_eq_true_iff]
      constructor
      · rintro ⟨k, hk, hle⟩
        omega
      · exact fun h => ⟨7, by omega, by omega⟩
    rw [Port.waitLoop, Talk.run_bind, hread]
    by_cases hdone : duration < m + 8
    · rw [if_pos (hzero.mpr hdone)]
      exact ⟨(decide_eq_true (by omega)).symm, fun _ => ⟨m + 8, hdone, rfl⟩⟩
    · rw [if_neg (fun h => hdone (hzero.mp h)), show m + 8 * (n + 1) = m + 8 + 8 * n by omega]
      exact ih (m + 8) (by omega)

end Waiting

/-! ### An ideal thermometer -/

/-- Where a thermometer is in the slots in which it is addressed. -/
inductive Measuring
  | command (heard : List Bool)
  | converting (left : ℕ)
  | sending (rest : List Bool)

/-- A thermometer that needs so many slots for a conversion, at a temperature. -/
def thermometer (duration : ℕ) (lo hi : UInt8) : Party Measuring where
  reset _ := .command []
  sends
    | .command _ => true
    | .converting left => decide (left = 0)
    | .sending rest => rest.headD true
  hears level
    | .command heard =>
      let heard := heard ++ [level]
      if heard = Line.bitsOf Port.convertT then .converting duration
      else if heard = Line.bitsOf Port.readScratchpad then
        .sending ([lo, hi].flatMap Line.bitsOf)
      else .command heard
    | .converting left => .converting (left - 1)
    | .sending rest => .sending rest.tail

/-- An ideal thermometer does what is asked of thermometers. -/
theorem measures_thermometer (duration : ℕ) (lo hi : UInt8) (s : Measuring) :
    Measures (thermometer duration lo hi) s duration lo hi := by
  have hstarted : started (thermometer duration lo hi) s = .converting duration := rfl
  -- each slot counts one down
  have hread : ∀ k left, readOn (thermometer duration lo hi) k (.converting left)
      = .converting (left - k) := by
    intro k
    induction k with
    | zero => exact fun left => rfl
    | succ k ih =>
      intro left
      rw [readOn, show left - (k + 1) = left - 1 - k by omega, ← ih]
      rfl
  have hsends : ∀ k, (thermometer duration lo hi).sends
      (readOn (thermometer duration lo hi) k (started (thermometer duration lo hi) s))
        = decide (duration - k = 0) := by
    intro k
    rw [hstarted, hread]
    rfl
  -- while it converts the thermometer sends zeros, and behind it the reading
  refine ⟨⟨rfl, rfl, rfl, rfl, rfl, rfl, rfl, rfl, trivial⟩, fun k hk => ?_, fun k hk => ?_,
    fun k hk => ⟨rfl, rfl, rfl, rfl, rfl, rfl, rfl, rfl, trivial⟩, fun k hk => ?_⟩
  · rw [hsends, decide_eq_false (by omega)]
  · rw [hsends, decide_eq_true (by omega)]
  -- what it sends is the two bytes, bit by bit
  · have hsending : ∀ rest : List Bool, (Talk.readBits rest.length).run
        (thermometer duration lo hi).alone (.sending rest) = (rest, .sending []) := by
      intro rest
      induction rest with
      | nil => rfl
      | cons b rest ih =>
        have hslot : (thermometer duration lo hi).alone.read (.sending (b :: rest))
            = (b, .sending rest) := rfl
        rw [List.length_cons, Talk.readBits, Talk.run_read, hslot, Talk.run_bind, ih]
        rfl
    exact congrArg Prod.fst (hsending ([lo, hi].flatMap Line.bitsOf))

/-! ### Conversations without a reset -/

section Unbroken

theorem unbroken_write (value : UInt32) {bits : ℕ} (hbits : bits ≤ 32) :
    (Session.write value bits).Unbroken := by
  rw [Session.write_eq value hbits]
  apply Talk.unbroken_writeBits

theorem unbroken_read (bits : ℕ) : (Session.read bits).Unbroken := by
  rw [Session.read_eq]
  exact (Talk.unbroken_readBits bits).bind fun _ => .done _

theorem unbroken_writeByte (byte : UInt8) : (Port.writeByte byte).Unbroken := by
  rw [Port.writeByte_bits]
  apply Talk.unbroken_writeBits

theorem unbroken_readByte : Port.readByte.Unbroken := by
  rw [Port.readByte_eq]
  exact (unbroken_read 8).bind fun _ => .done _

theorem unbroken_convertT (turns : ℕ) : (ThermometerSession.convertT (some turns)).Unbroken := by
  have hloop : ∀ n, (ThermometerSession.waitLoop n).Unbroken := by
    intro n
    induction n with
    | zero => exact .done false
    | succ n ih =>
      refine (unbroken_read 1).bind fun answer => ?_
      split
      · exact ih
      · exact .done true
  exact (unbroken_write _ (by omega)).bind fun _ => hloop turns

theorem unbroken_readT : ThermometerSession.readT.Unbroken :=
  (unbroken_write _ (by omega)).bind fun _ => (unbroken_read 8).bind fun _ =>
    (unbroken_read 8).bind fun _ => .done _

theorem unbroken_waitLoop (n : ℕ) : (Port.waitLoop n).Unbroken := by
  induction n with
  | zero => exact .done false
  | succ n ih =>
    refine unbroken_readByte.bind fun byte => ?_
    split
    · exact .done true
    · exact ih

theorem unbroken_readBytes (n : ℕ) : (Port.readBytes n).Unbroken := by
  induction n with
  | zero => exact .done []
  | succ n ih => exact unbroken_readByte.bind fun _ => ih.bind fun _ => .done _

end Unbroken

/-! ### The measurements -/

/-- A measurement of one thermometer with a session, with so many turns of the loop. -/
def measure (id : UniqueId) (turns : ℕ) : Talk (Option Temperature) := do
  let converted ← addressed id (ThermometerSession.convertT (some turns))
  if !converted then return none
  let temperature ← addressed id ThermometerSession.readT
  return some temperature

section Measure

variable {σ : Type*} {F : Party σ} {A : σ → Bool} {ι : Type*} [Fintype ι]
variable {duration : ℕ} {lo hi : UInt8}

/-- The conversion, with the thermometer alone. -/
theorem run_convertT {s : σ} (hm : Measures F s duration lo hi) (turns : ℕ) :
    ((ThermometerSession.convertT (some turns)).run F.alone (F.reset s)).1
        = decide (duration < turns) ∧
      (duration < turns → ∃ k, duration < k ∧
        ((ThermometerSession.convertT (some turns)).run F.alone (F.reset s)).2
          = readOn F k (started F s)) := by
  have hbits : bitsOfWord ThermometerSession.convertCommand 8 = Line.bitsOf Port.convertT :=
    Session.bitsOfWord_byte Port.convertT
  have hloop := run_waitLoop_session hm turns 0 (Nat.zero_le _)
  rw [Nat.zero_add] at hloop
  rw [ThermometerSession.convertT, Talk.run_bind, Session.write_eq _ (by omega), hbits,
    Party.run_writeBits_alone hm.heeds]
  exact hloop

/-- The temperature, with the thermometer alone. -/
theorem run_readT {s : σ} (hm : Measures F s duration lo hi) {k : ℕ} (hk : duration < k) :
    (ThermometerSession.readT.run F.alone (F.reset (readOn F k (started F s)))).1
      = .fromRaw16 lo hi := by
  have hbits : bitsOfWord readScratchpadCommand 8 = Line.bitsOf Port.readScratchpad :=
    Session.bitsOfWord_byte Port.readScratchpad
  rw [ThermometerSession.readT_eq, Talk.run_bind, Session.write_eq _ (by omega), hbits,
    Party.run_writeBits_alone (hm.listens k hk), Talk.run_bind, Talk.run_done, hm.run_readBytes hk]
  rfl

/-- **The temperature that a session reads** of a thermometer, whatever other devices are
on the bus: if its loop gets to the end of the conversion. -/
theorem run_measure {d : ι → Device σ} {i : ι} (hid : ∀ j ≠ i, (d j).id ≠ (d i).id)
    (hm : Measures F (d i).state duration lo hi) (turns : ℕ) :
    ((measure (d i).id turns).run (onBus F A).bus d).1
      = if duration < turns then some (.fromRaw16 lo hi) else none := by
  rcases run_addressed (F := F) (A := A) hid (unbroken_convertT turns) with
    ⟨hvalue, hdevice, hothers⟩
  rcases run_convertT hm turns with ⟨hconverted, hend⟩
  rw [measure, Talk.run_bind, hvalue, hconverted]
  by_cases hdone : duration < turns
  · rcases hend hdone with ⟨k, hk, hstate⟩
    rw [hstate] at hdevice
    -- the same device behind the first conversation
    generalize hd' : ((addressed (d i).id (ThermometerSession.convertT (some turns))).run
      (onBus F A).bus d).2 = d' at hdevice hothers
    have hid' : ∀ j ≠ i, (d' j).id ≠ (d' i).id := by
      intro j hj
      rw [hothers j hj, hdevice]
      exact hid j hj
    -- the second conversation reads the scratchpad of the same device
    rcases run_addressed (F := F) (A := A) hid' unbroken_readT with ⟨htemperature, -, -⟩
    rw [hdevice] at htemperature
    rw [decide_eq_true hdone, if_pos hdone, Bool.not_true, if_neg Bool.false_ne_true, Talk.run_bind,
      htemperature, run_readT hm hk]
    rfl
  · rw [decide_eq_false hdone, if_neg hdone]
    rfl

/-- Two thermometers, whatever they did before. -/
def sampleThermometers : Fin 2 → Device Measuring
  | 0 => ⟨0x28, .off, .converting 7⟩
  | 1 => ⟨0x1028, .addressed, .sending [false]⟩

/-- One of the two is at 85 degrees. -/
theorem run_measure_warm : ((measure (sampleThermometers 0).id 200).run
    (onBus (thermometer 100 0x50 0x05) fun _ => false).bus sampleThermometers).1
      = some (.fromRaw16 0x50 0x05) := by
  have hid : ∀ j ≠ 0, (sampleThermometers j).id ≠ (sampleThermometers 0).id := by decide
  exact (run_measure hid (measures_thermometer 100 0x50 0x05 _) 200).trans (if_pos (by decide))

/-- A conversation behind `SKIP_ROM` with the only device of a bus. -/
theorem run_skipped {α : Type} {d : ι → Device σ} {i : ι} (honly : ∀ j, j = i) {p : Talk α}
    (hp : p.Unbroken) :
    ((Port.writeByte Port.skipRom >>= fun _ => p).run (onBus F A).bus
        ((onBus F A).bus.reset d).2).1 = (p.run F.alone (F.reset (d i).state)).1 ∧
      ((Port.writeByte Port.skipRom >>= fun _ => p).run (onBus F A).bus
        ((onBus F A).bus.reset d).2).2 i
          = ⟨(d i).id, .addressed, (p.run F.alone (F.reset (d i).state)).2⟩ := by
  -- the command that skips the id addresses every device
  have hcommand : ∀ id a, Phase.ofCommand id a (Line.bitsOf Port.skipRom) = .addressed := by
    intro id a
    rw [Phase.ofCommand, if_neg (by decide), if_neg (by decide), if_pos (by decide)]
  have hwritten : (Port.writeByte Port.skipRom).run (onBus F A).bus
      ((onBus F A).bus.reset d).2
        = ((), fun j => ⟨(d j).id, .addressed, F.reset (d j).state⟩) := by
    have hbus : ((onBus F A).bus.reset d).2 = fun j => (onBus F A).reset (d j) := rfl
    rw [Port.writeByte_bits, hbus, Party.run_writeBits_bus fun j => (hears_command rfl rfl).1]
    refine congrArg (Prod.mk ()) (funext fun j => ?_)
    rw [(hears_command rfl rfl).2, hcommand]
    rfl
  -- there is no other device that could disturb it
  have hsilent : ∀ j : ι, (onBus F A).Silent fun _ => False :=
    fun _ => ⟨fun _ h => h.elim, fun _ _ h => h⟩
  have halone := Party.run_bus_alone (i := i) hsilent
    (d := fun j => (⟨(d j).id, .addressed, F.reset (d j).state⟩ : Device σ))
    (fun j hj => hj (honly j)) hp
  have hdevice := run_alone (F := F) (A := A)
    (d := ⟨(d i).id, .addressed, F.reset (d i).state⟩) rfl hp
  rw [Talk.run_bind, hwritten]
  exact ⟨halone.1.trans hdevice.1, halone.2.1.trans hdevice.2⟩

/-- **The bytes that a node reads** of its thermometer: if the conversion comes to its end in
the slots of 1565 bytes. -/
theorem run_readTemp_bus {d : ι → Device σ} {i : ι} (honly : ∀ j, j = i)
    (hm : Measures F (d i).state duration lo hi) :
    (Port.readTemp.run (onBus F A).bus d).1
      = if duration < 12520 then some (lo, hi) else none := by
  -- a device that is there always answers the reset
  have hpresent : ∀ e : ι → Device σ, ((onBus F A).bus.reset e).1 = true :=
    fun e => decide_eq_true (Fintype.card_pos_iff.mpr ⟨i⟩)
  unfold Port.readTemp
  generalize hn : 1565 = n
  have hconversion : (Port.writeByte Port.convertT >>= fun _ => Port.waitLoop n).Unbroken :=
    (unbroken_writeByte _).bind fun _ => unbroken_waitLoop n
  have hreading : (Port.writeByte Port.readScratchpad >>= fun _ => Port.readBytes 2).Unbroken :=
    (unbroken_writeByte _).bind fun _ => unbroken_readBytes 2
  -- the conversion, with the thermometer alone
  have hconverted : (Port.writeByte Port.convertT >>= fun _ => Port.waitLoop n).run F.alone
      (F.reset (d i).state) = (Port.waitLoop n).run F.alone (started F (d i).state) := by
    rw [Talk.run_bind, Port.writeByte_bits, Party.run_writeBits_alone hm.heeds]
    rfl
  have hloop := run_waitLoop_port hm n 0 (Nat.zero_le _)
  rw [readOn, Nat.zero_add, show 8 * n = 12520 by omega] at hloop
  rcases run_skipped (F := F) (A := A) (d := d) honly hconversion with ⟨hvalue, hdevice⟩
  rw [hconverted, Talk.run_bind, Talk.run_bind] at hvalue hdevice
  rw [hloop.1] at hvalue
  rw [Talk.run_reset, hpresent, Bool.not_true, if_neg Bool.false_ne_true, Talk.run_bind,
    Talk.run_bind, Talk.run_bind, hvalue]
  by_cases hdone : duration < 12520
  · rcases hloop.2 hdone with ⟨k, hk, hstate⟩
    rw [hstate] at hdevice
    rw [decide_eq_true hdone, if_pos hdone, Bool.not_true, if_neg Bool.false_ne_true,
      Talk.run_reset, hpresent, Bool.not_true, if_neg Bool.false_ne_true]
    generalize ((Port.waitLoop n).run (onBus F A).bus
      ((Port.writeByte Port.convertT).run (onBus F A).bus
        ((Port.writeByte Port.skipRom).run (onBus F A).bus
          ((onBus F A).bus.reset d).2).2).2).2 = d' at hdevice
    rcases run_skipped (F := F) (A := A) (d := d') honly hreading with ⟨hbytes, -⟩
    rw [hdevice, Talk.run_bind, Talk.run_bind, Talk.run_bind, Port.writeByte_bits,
      Port.writeByte_bits, Party.run_writeBits_alone (hm.listens k hk)] at hbytes
    rw [Talk.run_bind, Talk.run_bind, Talk.run_bind, Port.writeByte_bits, Port.writeByte_bits,
      hbytes, Talk.pure_eq, Talk.run_done, Port.readBytes_eq, hm.run_readBytes hk]
    rfl
  · rw [decide_eq_false hdone, if_neg hdone]
    rfl

/-- **What a client's query makes of a thermometer**: the node that is asked runs the whole
measurement over its wire, and answers with the two bytes if the conversion comes to its end
in the slots of 1565 bytes, and with `ff ff` if not. -/
theorem temperature_reply {n : Node} {c : Channel} (hc : n.channelModules c = some .ds18b20)
    {d : ι → Device σ} {i : ι} (honly : ∀ j, j = i) (hm : Measures F (d i).state duration lo hi)
    {inputs : Inputs} (hinputs : inputs.oneWire = Port.observed (onBus F A).bus d) :
    n.answer inputs (fieldAddress (UInt8.ofNat c) ds18b20Temperature)
      = some (if duration < 12520 then [lo, hi] else [0xff, 0xff]) := by
  have hread : Node.readTemp inputs.oneWire = if duration < 12520 then some (lo, hi) else none := by
    rw [hinputs, ← Port.run_readTemp, run_readTemp_bus honly hm]
  rw [Node.answer_field hc]
  show Node.ds18b20Request inputs ds18b20Temperature = _
  rw [Node.ds18b20Request, if_neg (not_not.mpr rfl), hread]
  by_cases hdone : duration < 12520
  · rw [if_pos hdone, if_pos hdone]
  · rw [if_neg hdone, if_neg hdone]

end Measure

/-- A node with a thermometer on its first channel. -/
def sampleNode : Node :=
  { Node.blank (fun _ => 0) with channelModules := fun c => if c = 0 then some .ds18b20 else none }

/-- What it sees of a thermometer that needs so many slots. -/
def sampleInputs (duration : ℕ) : Inputs :=
  { Inputs.idle with
    oneWire := Port.observed (onBus (thermometer duration 0x50 0x05) fun _ => false).bus
      (fun _ : Fin 1 => ⟨0x28, .off, .sending []⟩) }

/-- One slot too many. -/
theorem temperature_reply_late : sampleNode.answer (sampleInputs 12520)
    (fieldAddress (UInt8.ofNat (0 : Channel)) ds18b20Temperature) = some [0xff, 0xff] :=
  (temperature_reply (n := sampleNode) (c := 0) (i := 0) rfl (fun j => Subsingleton.elim j 0)
    (measures_thermometer 12520 0x50 0x05 _) rfl).trans (congrArg some (if_neg (by decide)))

end OneWire
end HomeAutomation
