import HomeAutomation.OneWire.Masters
import Mathlib.Logic.Function.Basic

/-!
# Devices on a 1-Wire bus

Behind a reset every device hears a command of eight bits, and then sends its id, or
compares it with what it hears, or takes part in a search; who has been addressed so is
left with its own functions, and who has not is silent until the next reset.  The
functions of the devices are a parameter: any party on a wire.

The session of the CAN master talks to such devices.  `match_rom` addresses one of them,
and from there on it is as if it were alone on the bus; and `read_rom` reads what all ids
have in common.

## Main definitions

* `Phase`, `Device`, `onBus` — a device as the bus sees it.
* `addressed` — a conversation with one device, behind a reset.
* `sessions`, `separate` — conversations one after the other, over the bus and with devices
  that are alone.

## Main results

* `run_addressed` — a conversation with one device of the bus.
* `sessions_refine_separate` — **any conversations over the bus** are conversations with devices
  that are alone.
* `run_readRom` — what `read_rom` reads.

## References

`firmware/ti/onewire/Session.cpp`, `firmware/ti/include/onewire/onewire.h`.
-/

namespace HomeAutomation
namespace OneWire

/-- Where a device is in the slots behind a reset. -/
inductive Phase
  /-- It has heard the first bits of a command. -/
  | command (heard : List Bool)
  /-- It sends its id, of which these bits are left. -/
  | sending (rest : List Bool)
  /-- It compares its id with what it hears. -/
  | matching (rest : List Bool)
  /-- It takes part in a search: it sends a bit, sends its complement, and hears the choice. -/
  | searchBit (rest : List Bool)
  | searchComplement (rest : List Bool)
  | searchChoice (rest : List Bool)
  /-- Its functions have the slots. -/
  | addressed
  /-- It is silent. -/
  | off
  deriving DecidableEq

namespace Phase

/-- The phase with the bits that are left. -/
def proceed (phase : List Bool → Phase) : List Bool → Phase
  | [] => .addressed
  | bit :: rest => phase (bit :: rest)

/-- What a device does that has heard a command. -/
def ofCommand (id : UniqueId) (alarm : Bool) (command : List Bool) : Phase :=
  if command = bitsOfWord Session.readRomCommand 8 then .sending (bitsOfId id)
  else if command = bitsOfWord Session.matchRomCommand 8 then .matching (bitsOfId id)
  else if command = bitsOfWord Session.skipRomCommand 8 then .addressed
  else if command = bitsOfWord (Session.searchCommand .normal) 8 then .searchBit (bitsOfId id)
  else if command = bitsOfWord (Session.searchCommand .alarm) 8 ∧ alarm then
    .searchBit (bitsOfId id)
  else .off

/-- The phase behind a slot. -/
def hears (id : UniqueId) (alarm level : Bool) : Phase → Phase
  | .command heard =>
    if heard.length < 7 then .command (heard ++ [level]) else ofCommand id alarm (heard ++ [level])
  | .sending rest => proceed .sending rest.tail
  | .matching rest => if rest.head? = some level then proceed .matching rest.tail else .off
  | .searchBit rest => .searchComplement rest
  | .searchComplement rest => .searchChoice rest
  | .searchChoice rest => if rest.head? = some level then proceed .searchBit rest.tail else .off
  | .addressed => .addressed
  | .off => .off

end Phase

/-- A device on the bus. -/
structure Device (σ : Type*) where
  id : UniqueId
  phase : Phase
  state : σ

section OnBus

variable {σ : Type*} (F : Party σ) (A : σ → Bool)

/-- A device with these functions, and with an alarm in these states. -/
def onBus : Party (Device σ) where
  reset d := { d with phase := .command [], state := F.reset d.state }
  sends d :=
    match d.phase with
    | .sending rest => rest.headD true
    | .searchBit rest => rest.headD true
    | .searchComplement rest => !rest.headD false
    | .addressed => F.sends d.state
    | _ => true
  hears level d :=
    { d with
      phase := d.phase.hears d.id (A d.state) level
      state := if d.phase = .addressed then F.hears level d.state else d.state }

variable {F A}

/-! ### Commands and ids -/

/-- **A device hears a command** in eight slots. -/
theorem hears_command {d : Device σ} (hd : d.phase = .command []) {bits : List Bool}
    (hbits : bits.length = 8) : (onBus F A).Listens bits d ∧
      (onBus F A).hearsAll bits d
        = { d with phase := .ofCommand d.id (A d.state) bits } := by
  obtain ⟨id, phase, state⟩ := d
  cases hd
  match bits, hbits with
  | [b₀, b₁, b₂, b₃, b₄, b₅, b₆, b₇], _ =>
    exact ⟨⟨rfl, rfl, rfl, rfl, rfl, rfl, rfl, rfl, trivial⟩, rfl⟩

/-- A device that is off hears nothing. -/
theorem hears_off {d : Device σ} (hd : d.phase = .off) (bits : List Bool) :
    (onBus F A).Listens bits d ∧ (onBus F A).hearsAll bits d = d := by
  have hslot : ∀ level, (onBus F A).hears level d = d := by
    intro level
    obtain ⟨id, phase, state⟩ := d
    cases hd
    rfl
  have hsends : (onBus F A).sends d = true := by
    unfold onBus
    simp [hd]
  induction bits with
  | nil => exact ⟨trivial, rfl⟩
  | cons bit bits ih =>
    rw [Party.Listens, Party.hearsAll, List.foldl_cons, hslot]
    exact ⟨⟨hsends, ih.1⟩, ih.2⟩

/-- **A device compares its id** with as many bits as it has. -/
theorem hears_id : ∀ {rest bits : List Bool} {d : Device σ}, d.phase = .matching rest →
    rest ≠ [] → bits.length = rest.length → (onBus F A).Listens bits d ∧
      (onBus F A).hearsAll bits d
        = { d with phase := if rest = bits then .addressed else .off } := by
  intro rest
  induction rest with
  | nil => exact fun _ hne => absurd rfl hne
  | cons b rest ih =>
    intro bits d hd _ hlength
    obtain ⟨id, phase, state⟩ := d
    cases hd
    match bits, hlength with
    | bit :: bits, hlength =>
      -- the device pulls no slot while it listens, so each bit comes through as written
      have hrest : bits.length = rest.length := Nat.succ.inj hlength
      have hfirst : (onBus F A).sends ⟨id, .matching (b :: rest), state⟩ = true := rfl
      rw [Party.Listens, Party.hearsAll, List.foldl_cons]
      by_cases hbit : b = bit
      · -- the bits agree so far
        subst hbit
        have hslot : (onBus F A).hears b ⟨id, .matching (b :: rest), state⟩
            = ⟨id, Phase.proceed .matching rest, state⟩ := by
          unfold onBus Phase.hears
          simp
        rw [hslot]
        -- the last bit decides, the others only keep the device listening
        cases rest with
        | nil =>
          rw [List.length_eq_zero_iff.mp hrest]
          exact ⟨⟨hfirst, trivial⟩, by simp [Phase.proceed]⟩
        | cons b' rest =>
          rcases ih (d := ⟨id, .matching (b' :: rest), state⟩) rfl (by simp) hrest with
            ⟨hlistens, hheard⟩
          refine ⟨⟨hfirst, hlistens⟩, ?_⟩
          rw [Party.hearsAll] at hheard
          simp [Phase.proceed, hheard]
      -- one wrong bit, and the device is off for the rest
      · have hslot : (onBus F A).hears bit ⟨id, .matching (b :: rest), state⟩
            = ⟨id, .off, state⟩ := by
          unfold onBus Phase.hears
          simp [hbit]
        rw [hslot]
        rcases hears_off (F := F) (A := A) (d := ⟨id, .off, state⟩) rfl bits with
          ⟨hlistens, hheard⟩
        refine ⟨⟨hfirst, hlistens⟩, ?_⟩
        rw [Party.hearsAll] at hheard
        simp [hbit, hheard]

theorem bitsOfId_inj {x y : UniqueId} : bitsOfId x = bitsOfId y ↔ x = y := by
  constructor
  · intro h
    apply BitVec.eq_of_getLsbD_eq
    intro i hi
    unfold bitsOfId at h
    rw [List.map_inj_left] at h
    exact h i (List.mem_range.mpr hi)
  · exact congrArg bitsOfId

/-- **What `match_rom` does to a device**: it is addressed if it has the id, and is off if not. -/
theorem hears_matchRom {d : Device σ} (hd : d.phase = .command []) (id : UniqueId) :
    (onBus F A).Listens (bitsOfWord Session.matchRomCommand 8 ++ bitsOfId id) d ∧
      (onBus F A).hearsAll (bitsOfWord Session.matchRomCommand 8 ++ bitsOfId id) d
        = { d with phase := if d.id = id then .addressed else .off } := by
  have hcommand : Phase.ofCommand d.id (A d.state) (bitsOfWord Session.matchRomCommand 8)
      = .matching (bitsOfId d.id) := by
    have hother : bitsOfWord Session.matchRomCommand 8 ≠ bitsOfWord Session.readRomCommand 8 := by
      decide
    rw [Phase.ofCommand, if_neg hother, if_pos rfl]
  have height : (bitsOfWord Session.matchRomCommand 8).length = 8 := rfl
  rcases hears_command (F := F) (A := A) hd height with ⟨hlistens, hheard⟩
  rw [hcommand] at hheard
  have hne : bitsOfId d.id ≠ [] := List.ne_nil_of_length_pos (by simp)
  have hlength : (bitsOfId id).length = (bitsOfId d.id).length := by simp
  rcases hears_id (F := F) (A := A) (d := { d with phase := .matching (bitsOfId d.id) }) rfl hne
    hlength with ⟨hlistens', hheard'⟩
  rw [Party.listens_append, Party.hearsAll_append, hheard, hheard']
  exact ⟨⟨hlistens, hlistens'⟩, by simp only [bitsOfId_inj]⟩

/-- A device that is addressed alone is its functions. -/
theorem run_alone {α : Type} {d : Device σ} (hd : d.phase = .addressed) {p : Talk α}
    (hp : p.Unbroken) : (p.run (onBus F A).alone d).1 = (p.run F.alone d.state).1 ∧
      (p.run (onBus F A).alone d).2 = { d with state := (p.run F.alone d.state).2 } := by
  refine Talk.run_of_simulates (A := (onBus F A).alone) (B := F.alone)
    (R := fun e s => e = { d with state := s }) ?_ ?_ hp (t := d.state) rfl
  · rintro bit e s rfl
    obtain ⟨id, phase, state⟩ := d
    cases hd
    rfl
  · rintro e s rfl
    obtain ⟨id, phase, state⟩ := d
    cases hd
    exact ⟨rfl, rfl⟩

/-! ### Conversations with one device -/

section Addressed

variable {ι : Type*} [Fintype ι] {α : Type}

/-- A conversation with the device that has this id, behind a reset. -/
def addressed (id : UniqueId) (p : Talk α) : Talk α :=
  .reset fun _ => Session.matchRom id >>= fun _ => p

/-- The bus behind `match_rom`. -/
theorem run_matchRom {d : ι → Device σ} (hd : ∀ j, (d j).phase = .command []) (id : UniqueId) :
    (Session.matchRom id).run (onBus F A).bus d
      = ((), fun j => { d j with phase := if (d j).id = id then .addressed else .off }) := by
  rw [Session.matchRom_eq, Party.run_writeBits_bus fun j => (hears_matchRom (hd j) id).1]
  refine congrArg (Prod.mk ()) (funext fun j => ?_)
  exact (hears_matchRom (hd j) id).2

/-- **A conversation with one device of the bus** is one with the device alone; the others
are reset, and nothing else happens to them. -/
theorem run_addressed {d : ι → Device σ} {i : ι} (hid : ∀ j ≠ i, (d j).id ≠ (d i).id)
    {p : Talk α} (hp : p.Unbroken) :
    ((addressed (d i).id p).run (onBus F A).bus d).1
        = (p.run F.alone (F.reset (d i).state)).1 ∧
      ((addressed (d i).id p).run (onBus F A).bus d).2 i
        = ⟨(d i).id, .addressed, (p.run F.alone (F.reset (d i).state)).2⟩ ∧
      ∀ j ≠ i, ((addressed (d i).id p).run (onBus F A).bus d).2 j
        = ⟨(d j).id, .off, F.reset (d j).state⟩ := by
  -- the devices behind the reset and the id
  have hmatched := run_matchRom (F := F) (A := A)
    (d := fun j => (onBus F A).reset (d j)) (fun _ => rfl) (d i).id
  have hothers : ∀ j ≠ i, (⟨(d j).id, if (d j).id = (d i).id then .addressed else .off,
      F.reset (d j).state⟩ : Device σ) = ⟨(d j).id, .off, F.reset (d j).state⟩ := by
    intro j hj
    rw [if_neg (hid j hj)]
  -- a device that is off stays off, whatever it hears
  have hsilent : ∀ j, (onBus F A).Silent
      fun e => j ≠ i ∧ e = ⟨(d j).id, .off, F.reset (d j).state⟩ := by
    intro j
    refine ⟨?_, ?_⟩
    · rintro e ⟨-, rfl⟩
      rfl
    · rintro e bit ⟨hj, rfl⟩
      exact ⟨hj, rfl⟩
  have halone := Party.run_bus_alone (i := i) hsilent (d := fun j => ⟨(d j).id,
    if (d j).id = (d i).id then .addressed else .off, F.reset (d j).state⟩)
    (fun j hj => ⟨hj, hothers j hj⟩) hp
  have hdevice := run_alone (F := F) (A := A)
    (d := ⟨(d i).id, .addressed, F.reset (d i).state⟩) rfl hp
  have hrun : (addressed (d i).id p).run (onBus F A).bus d
      = p.run (onBus F A).bus fun j => ⟨(d j).id,
          if (d j).id = (d i).id then .addressed else .off, F.reset (d j).state⟩ := by
    rw [addressed, Talk.run_reset, Talk.run_bind]
    exact congrArg (fun r => p.run (onBus F A).bus r.2) hmatched
  rcases halone with ⟨hvalue, hstate, hrest⟩
  rw [if_pos rfl] at hvalue hstate
  rw [hrun]
  exact ⟨hvalue.trans hdevice.1, hstate.trans hdevice.2, fun j hj => (hrest j hj).2⟩

/-- Conversations one after the other, each with the device that has an id. -/
def sessions (id : ι → UniqueId) : List (ι × Talk α) → Talk (List α)
  | [] => .done []
  | (i, p) :: rest => addressed (id i) p >>= fun a => sessions id rest >>= fun as => .done (a :: as)

variable (F) in
/-- Conversations one after the other, each with a device that is alone.  The others hear its
reset. -/
def separate [DecidableEq ι] : List (ι × Talk α) → (ι → σ) → List α × (ι → σ)
  | [], s => ([], s)
  | (i, p) :: rest, s =>
    let r := p.run F.alone (F.reset (s i))
    let behind := separate rest (Function.update (fun j => F.reset (s j)) i r.2)
    (r.1 :: behind.1, behind.2)

/-- **Conversations over the bus** are conversations with devices that are alone: whatever
devices with different ids are on the bus, and in whatever states they are, the session
comes to the same values, and every device to the same state. -/
theorem sessions_refine_separate [DecidableEq ι] {id : ι → UniqueId} (hinj : Function.Injective id)
    {cs : List (ι × Talk α)} (hcs : ∀ c ∈ cs, c.2.Unbroken) (d : ι → Device σ)
    (hd : ∀ i, (d i).id = id i) :
    ((sessions id cs).run (onBus F A).bus d).1 = (separate F cs fun i => (d i).state).1 ∧
      ∀ i, (((sessions id cs).run (onBus F A).bus d).2 i).id = id i ∧
        (((sessions id cs).run (onBus F A).bus d).2 i).state
          = (separate F cs fun i => (d i).state).2 i := by
  induction cs generalizing d with
  | nil => exact ⟨rfl, fun i => ⟨hd i, rfl⟩⟩
  | cons c cs ih =>
    obtain ⟨i, p⟩ := c
    rcases List.forall_mem_cons.mp hcs with ⟨hp, hcs⟩
    -- the ids are distinct, so the first conversation addresses one device
    have hid : ∀ j ≠ i, (d j).id ≠ (d i).id := by
      intro j hj h
      rw [hd, hd] at h
      exact hj (hinj h)
    rcases run_addressed (F := F) (A := A) hid hp with ⟨hvalue, hdevice, hothers⟩
    rw [hd i] at hvalue hdevice hothers
    -- the devices behind the first conversation
    have hids : ∀ j, (((addressed (id i) p).run (onBus F A).bus d).2 j).id = id j := by
      intro j
      by_cases hj : j = i
      · rw [hj, hdevice]
      · rw [hothers j hj]
        exact hd j
    have hstates : (fun j => (((addressed (id i) p).run (onBus F A).bus d).2 j).state)
        = Function.update (fun j => F.reset (d j).state) i
          (p.run F.alone (F.reset (d i).state)).2 := by
      funext j
      by_cases hj : j = i
      · subst hj
        rw [hdevice, Function.update_self]
      · rw [hothers j hj, Function.update_of_ne hj]
    -- the other conversations find the devices as the first one left them
    have hrest := ih hcs _ hids
    rw [hstates] at hrest
    rw [sessions, Talk.run_bind, Talk.run_bind, Talk.run_done, separate, hvalue]
    dsimp only
    exact ⟨congrArg (List.cons _) hrest.1, hrest.2⟩

end Addressed

/-- A function of one bit, which is sent and overwritten. -/
def oneBit : Party Bool where
  reset s := s
  sends s := s
  hears level _ := level

/-- Two devices with one bit. -/
def sampleDevices : Fin 2 → Device Bool
  | 0 => ⟨0x28, .off, true⟩
  | 1 => ⟨0x1028, .addressed, true⟩

/-- A bus for two of them. -/
def sampleBus : Wire (Fin 2 → Device Bool) := (onBus oneBit fun _ => false).bus

/-- The bit of the second device is taken down, and that of the first is read. -/
theorem sessions_refine_separate_sample :
    ((sessions (fun i => (sampleDevices i).id)
        [((1 : Fin 2), Talk.writeBits [false] >>= fun _ => Talk.readBits 1),
          (0, Talk.readBits 1)]).run sampleBus sampleDevices).1 = [[false], [true]] := by
  have hunbroken : ∀ c ∈ [((1 : Fin 2), Talk.writeBits [false] >>= fun _ => Talk.readBits 1),
      (0, Talk.readBits 1)], c.2.Unbroken := by
    intro c hc
    rcases List.mem_pair.mp hc with rfl | rfl
    · exact (Talk.unbroken_writeBits _).bind fun _ => Talk.unbroken_readBits 1
    · exact Talk.unbroken_readBits 1
  have hinj : Function.Injective fun i => (sampleDevices i).id := by decide
  exact (sessions_refine_separate hinj hunbroken sampleDevices fun _ => rfl).1.trans rfl

/-! ### Reading an id -/

theorem drop_bitsOfId (id : UniqueId) {k : ℕ} (hk : k < 64) :
    (bitsOfId id).drop k = id.getLsbD k :: (bitsOfId id).drop (k + 1) := by
  rw [List.drop_eq_getElem_cons (by simpa using hk)]
  simp [bitsOfId]

section ReadRom

variable {ι : Type*} [Fintype ι]

/-- The bits that all ids on the bus have. -/
def commonBit (d : ι → Device σ) (k : ℕ) : Bool := decide (∀ i, (d i).id.getLsbD k = true)

/-- A device that sends its id from a bit on. -/
def sendingFrom (k : ℕ) (e : Device σ) : Device σ :=
  { e with phase := .proceed .sending ((bitsOfId e.id).drop k) }

theorem sendingFrom_of_lt (e : Device σ) {k : ℕ} (hk : k < 64) :
    sendingFrom k e = { e with phase := .sending ((bitsOfId e.id).drop k) } := by
  rw [sendingFrom, drop_bitsOfId e.id hk]
  rfl

theorem sendingFrom_all (e : Device σ) : sendingFrom 64 e = { e with phase := .addressed } := by
  rw [sendingFrom, List.drop_eq_nil_of_le (by simp)]
  rfl

theorem hears_sendingFrom (e : Device σ) {k : ℕ} (hk : k < 64) (level : Bool) :
    (onBus F A).hears level (sendingFrom k e) = sendingFrom (k + 1) e := by
  rw [sendingFrom_of_lt e hk, drop_bitsOfId e.id hk]
  rfl

/-- What is read of devices that send their ids is what the ids have in common. -/
theorem run_readBits_sending (d : ι → Device σ) : ∀ (n k : ℕ), k + n ≤ 64 →
    (Talk.readBits n).run (onBus F A).bus (fun i => sendingFrom k (d i))
      = ((List.range' k n).map (commonBit d), fun i => sendingFrom (k + n) (d i)) := by
  intro n
  induction n with
  | zero => exact fun k _ => rfl
  | succ n ih =>
    intro k hk
    -- every device sends its bit, and the line is high when all of them are one
    have hlevel : (onBus F A).level (fun i => sendingFrom k (d i)) = commonBit d k := by
      unfold Party.level commonBit
      refine decide_eq_decide.mpr (forall_congr' fun i => ?_)
      dsimp only
      rw [sendingFrom_of_lt _ (by omega), drop_bitsOfId _ (by omega)]
      rfl
    have hslot : (onBus F A).bus.read (fun i => sendingFrom k (d i))
        = (commonBit d k, fun i => sendingFrom (k + 1) (d i)) := by
      unfold Party.bus
      dsimp only
      rw [hlevel]
      exact congrArg (Prod.mk _) (funext fun i => hears_sendingFrom _ (by omega) _)
    rw [Talk.readBits, Talk.run_read, hslot, Talk.run_bind, ih (k + 1) (by omega)]
    rw [List.range'_succ, List.map_cons, Nat.succ_add_eq_add_succ]
    rfl

/-- **What `read_rom` reads** is what the ids on the bus have in common, with a single device
its id; and all devices are addressed. -/
theorem run_readRom (d : ι → Device σ) :
    (∀ k < 64, ((Talk.reset fun _ => Session.readRom).run (onBus F A).bus d).1.getLsbD k
        = commonBit d k) ∧
      ((Talk.reset fun _ => Session.readRom).run (onBus F A).bus d).2
        = fun i => ⟨(d i).id, .addressed, F.reset (d i).state⟩ := by
  have hcommand : ∀ i, (onBus F A).hearsAll (bitsOfWord Session.readRomCommand 8)
      ((onBus F A).reset (d i)) = sendingFrom 0 ⟨(d i).id, .addressed, F.reset (d i).state⟩ := by
    -- the reset and the command leave every device sending from bit zero
    intro i
    rw [(hears_command rfl rfl).2, sendingFrom_of_lt _ (by omega)]
    rfl
  have hwritten : (Talk.writeBits (bitsOfWord Session.readRomCommand 8)).run (onBus F A).bus
      (fun i => (onBus F A).reset (d i))
        = ((), fun i => sendingFrom 0 ⟨(d i).id, .addressed, F.reset (d i).state⟩) := by
    rw [Party.run_writeBits_bus fun i => (hears_command rfl rfl).1]
    exact congrArg (Prod.mk ()) (funext hcommand)
  have hrun : (Talk.reset fun _ => Session.readRom).run (onBus F A).bus d
      = (Session.idOfBits ((List.range' 0 32).map (commonBit d)) ((List.range' 32 32).map (commonBit d)),
        fun i => ⟨(d i).id, .addressed, F.reset (d i).state⟩) := by
    -- the id is read in two words of 32 bits
    have hlow := run_readBits_sending (F := F) (A := A)
      (fun i => (⟨(d i).id, .addressed, F.reset (d i).state⟩ : Device σ)) 32 0 (by omega)
    have hhigh := run_readBits_sending (F := F) (A := A)
      (fun i => (⟨(d i).id, .addressed, F.reset (d i).state⟩ : Device σ)) 32 32 (by omega)
    have hbus : ((onBus F A).bus.reset d).2 = fun i => (onBus F A).reset (d i) := rfl
    rw [Talk.run_reset, Session.readRom_eq, Talk.run_bind, hbus, hwritten, Talk.run_bind, hlow,
      Talk.run_bind, hhigh, Talk.run_done]
    exact congrArg (Prod.mk _) (funext fun i => sendingFrom_all _)
  rw [hrun]
  refine ⟨fun k hk => ?_, rfl⟩
  rw [Session.getLsbD_idOfBits (by simp) (by simp), ← List.map_append, List.range'_append_1]
  simp [List.getD_eq_getElem?_getD, hk]

end ReadRom
end OnBus
end OneWire
end HomeAutomation
