import HomeAutomation.OneWire.Devices
import HomeAutomation.OneWire.Search

/-!
# The slots of a search

The ideal bus, on which the search is modelled, keeps the ids that are still selected.
Devices on a wire know nothing of each other: each sends a bit of its id and the complement
in turn, hears what the master has chosen, and falls silent if that is not its bit.  A
search over such devices goes as it does on the ideal bus.

## Main definitions

* `Searching` — the devices and the ideal bus between two turns of the loop.
* `participants` — the ids of the devices that take part.

## Main results

* `run_turn` — one turn over the devices.
* `run_searchRom` — **the search over the bus** is the search on the ideal bus.

## References

`firmware/ti/onewire/Session.cpp`.
-/

namespace HomeAutomation
namespace OneWire

section Search

variable {σ : Type*} {F : Party σ} {A : σ → Bool} {ι : Type*} [Fintype ι]
variable (beyond : ℕ → BitVec 32)

/-- A device that takes part in a search, at a bit of its id. -/
def searchingFrom (k : ℕ) (id : UniqueId) : Phase := .proceed .searchBit ((bitsOfId id).drop k)

theorem searchingFrom_of_lt (id : UniqueId) {k : ℕ} (hk : k < 64) :
    searchingFrom k id = .searchBit ((bitsOfId id).drop k) := by
  rw [searchingFrom, drop_bitsOfId id hk]
  rfl

/-- The devices and the ideal bus between two turns: who is selected is at the same bit, and
who is not is silent. -/
structure Searching (d : ι → Device σ) (b : Bus) : Prop where
  phase : ∀ i, (d i).phase = searchingFrom b.position (d i).id ∨ (d i).phase = .off
  selected : ∀ x, x ∈ b.selected ↔ ∃ i, (d i).phase ≠ .off ∧ (d i).id = x

/-- Who is not off, in another phase. -/
def moved (phase : UniqueId → Phase) (e : Device σ) : Device σ :=
  { e with phase := if e.phase = .off then .off else phase e.id }

/-- The wire in a slot in which who takes part sends a bit that its id decides. -/
theorem level_eq_slot {d : ι → Device σ} {b : Bus} (h : Searching d b) {sent : UniqueId → Bool}
    {e : ι → Device σ}
    (hsends : ∀ i, (d i).phase ≠ .off → (onBus F A).sends (e i) = sent (d i).id)
    (hoff : ∀ i, (d i).phase = .off → (onBus F A).sends (e i) = true) :
    (onBus F A).level e = b.slot sent := by
  unfold Party.level Bus.slot
  -- the line is high when no device in the search sends a zero
  refine decide_eq_decide.mpr ⟨fun hall => ?_, fun hnone i => ?_⟩
  · rw [Finset.filter_eq_empty_iff]
    intro x hx hzero
    rcases (h.selected x).mp hx with ⟨i, hi, rfl⟩
    have hone := hall i
    rw [hsends i hi, hzero] at hone
    cases hone
  · by_cases hi : (d i).phase = .off
    · exact hoff i hi
    · rw [hsends i hi]
      by_contra hzero
      have hmem : (d i).id ∈ b.selected := (h.selected _).mpr ⟨i, hi, rfl⟩
      rw [Finset.filter_eq_empty_iff] at hnone
      exact hnone hmem (by simpa using hzero)

/-- A device that is off stays so. -/
theorem hears_of_off {e : Device σ} (he : e.phase = .off) (level : Bool) :
    (onBus F A).hears level e = e := by
  obtain ⟨id, phase, state⟩ := e
  cases he
  rfl

/-- **The bit and its complement** are read as from the ideal bus. -/
theorem run_readTwo {d : ι → Device σ} {b : Bus} (h : Searching d b) (hb : b.position < 64) :
    (Talk.readBits 2).run (onBus F A).bus d
      = ([b.slot fun x => x.getLsbD b.position, b.slot fun x => !x.getLsbD b.position],
        fun i => moved (fun id => .searchChoice ((bitsOfId id).drop b.position)) (d i)) := by
  -- every device still in the search is at the same bit
  have hphase : ∀ i, (d i).phase ≠ .off →
      (d i).phase = .searchBit ((d i).id.getLsbD b.position :: (bitsOfId (d i).id).drop (b.position + 1)) := by
    intro i hi
    rw [(h.phase i).resolve_right hi, searchingFrom_of_lt _ hb, drop_bitsOfId _ hb]
  have hfirst : (onBus F A).level d = b.slot fun x => x.getLsbD b.position := by
    apply level_eq_slot h
    · intro i hi
      unfold onBus
      dsimp only
      rw [hphase i hi]
      rfl
    · intro i hi
      unfold onBus
      simp [hi]
  -- whatever the level is, the device turns to the complement
  have hmoved : ∀ i level, (onBus F A).hears level (d i)
      = moved (fun id => .searchComplement ((bitsOfId id).drop b.position)) (d i) := by
    intro i level
    by_cases hi : (d i).phase = .off
    · rw [hears_of_off hi, moved, if_pos hi, ← hi]
    · unfold moved onBus
      dsimp only
      rw [if_neg hi, hphase i hi, drop_bitsOfId _ hb]
      rfl
  have hsecond : (onBus F A).level
      (fun i => moved (fun id => .searchComplement ((bitsOfId id).drop b.position)) (d i))
        = b.slot fun x => !x.getLsbD b.position := by
    apply level_eq_slot h
    · intro i hi
      unfold moved onBus
      dsimp only
      rw [if_neg hi, drop_bitsOfId _ hb]
      rfl
    · intro i hi
      unfold moved onBus
      simp [hi]
  have hread : (onBus F A).bus.read d = (b.slot fun x => x.getLsbD b.position,
      fun i => moved (fun id => .searchComplement ((bitsOfId id).drop b.position)) (d i)) := by
    unfold Party.bus
    dsimp only
    rw [hfirst]
    exact congrArg (Prod.mk _) (funext fun i => hmoved i _)
  -- and from there it waits for the choice
  have hchoice : ∀ i level, (onBus F A).hears level
      (moved (fun id => .searchComplement ((bitsOfId id).drop b.position)) (d i))
        = moved (fun id => .searchChoice ((bitsOfId id).drop b.position)) (d i) := by
    intro i level
    by_cases hi : (d i).phase = .off
    · rw [moved, moved, if_pos hi, if_pos hi]
      rfl
    · rw [moved, moved, if_neg hi, if_neg hi]
      rfl
  rw [Talk.readBits, Talk.run_read, hread, Talk.run_bind, Talk.readBits, Talk.run_read]
  unfold Party.bus
  dsimp only
  rw [hsecond, Talk.readBits, Talk.run_bind, Talk.run_done, Talk.run_done]
  refine congrArg (Prod.mk _) (funext fun i => ?_)
  exact hchoice i _

/-! ### One turn -/

/-- **The choice of the bit** is that of the model on the ideal bus. -/
theorem chooseBit_eq (index : ℕ) (s : Search) {value complement : Bool}
    (hvalue : (s.bus.slot fun x => x.getLsbD s.bus.position) = value)
    (hcomplement : (s.bus.slot fun x => !x.getLsbD s.bus.position) = complement) :
    (s.bus.read = 3 ↔ Session.gather 0 0 [value, complement] = 3) ∧
      choose beyond index s
        = ⟨s.bus, (Session.chooseBit beyond index (Session.gather 0 0 [value, complement])
            s.context s.nextFork).1,
          (Session.chooseBit beyond index (Session.gather 0 0 [value, complement])
            s.context s.nextFork).2⟩ := by
  have hread : s.bus.read = (if value then 1 else 0) + if complement then 2 else 0 := by
    rw [Bus.read, hvalue, hcomplement]
  cases value with
  | false =>
    cases complement with
    | false =>
      -- a collision, where the context decides
      have hanswer : Session.gather 0 0 [false, false] = 0 := by decide
      rw [hanswer, hread, choose_of_collision hread, Session.chooseBit]
      refine ⟨by simp, ?_⟩
      simp only [UInt32.zero_and, ne_eq, not_true_eq_false, decide_false, or_self, if_false]
      split_ifs <;> rfl
    | true =>
      have hanswer : Session.gather 0 0 [false, true] = 2 := by decide
      rw [hanswer, hread, choose_of_read (v := false) hread]
      exact ⟨by simp, rfl⟩
  | true =>
    cases complement with
    | false =>
      have hanswer : Session.gather 0 0 [true, false] = 1 := by decide
      rw [hanswer, hread, choose_of_read (v := true) hread]
      exact ⟨by simp, rfl⟩
    | true =>
      have hanswer : Session.gather 0 0 [true, true] = 3 := by decide
      unfold choose
      rw [hanswer, hread]
      exact ⟨by simp, rfl⟩

/-- Who was asked, behind the choice of a bit. -/
def chosen (k : ℕ) (bit : Bool) (e : Device σ) : Device σ :=
  { e with phase :=
      if e.phase = .off then .off
      else if e.id.getLsbD k = bit then searchingFrom (k + 1) e.id
      else .off }

/-- **The choice is written**: who has another bit falls silent. -/
theorem run_writeChoice {d : ι → Device σ} {k : ℕ} (hk : k < 64) (bit : Bool) :
    (Session.write (if bit then 1 else 0) 1).run (onBus F A).bus
        (fun i => moved (fun id => .searchChoice ((bitsOfId id).drop k)) (d i))
      = ((), fun i => chosen k bit (d i)) := by
  have hbits : bitsOfWord (if bit then 1 else 0) 1 = [bit] := by cases bit <;> rfl
  have hlistens : ∀ i, (onBus F A).Listens [bit]
      (moved (fun id => .searchChoice ((bitsOfId id).drop k)) (d i)) := by
    intro i
    -- a device that waits for the choice does not pull the line
    refine ⟨?_, trivial⟩
    by_cases hi : (d i).phase = .off
    · rw [moved, if_pos hi]
      rfl
    · rw [moved, if_neg hi]
      rfl
  rw [Session.write_eq _ (by omega), hbits, Party.run_writeBits_bus hlistens]
  refine congrArg (Prod.mk ()) (funext fun i => ?_)
  by_cases hi : (d i).phase = .off
  · rw [moved, chosen, if_pos hi, if_pos hi]
    rfl
  -- the device stays in the search when the bit written is its own
  · have hphase : (Phase.searchChoice ((bitsOfId (d i).id).drop k)).hears (d i).id
        (A (d i).state) bit
        = if (d i).id.getLsbD k = bit then searchingFrom (k + 1) (d i).id else .off := by
      rw [drop_bitsOfId _ hk, Phase.hears]
      simp [searchingFrom]
    rw [moved, chosen, if_neg hi, if_neg hi, ← hphase]
    rfl

theorem searchingFrom_ne_off (k : ℕ) (id : UniqueId) : searchingFrom k id ≠ .off := by
  unfold searchingFrom
  cases (bitsOfId id).drop k with
  | nil => exact Phase.noConfusion
  | cons b rest => exact Phase.noConfusion

omit [Fintype ι] in
/-- Devices and ideal bus behind the choice. -/
theorem Searching.write {d : ι → Device σ} {b : Bus} (h : Searching d b) (bit : Bool) :
    Searching (fun i => chosen b.position bit (d i)) (b.write bit) where
  phase i := by
    unfold chosen
    dsimp only
    split
    · exact .inr rfl
    · split
      · exact .inl rfl
      · exact .inr rfl
  selected x := by
    unfold Bus.write
    rw [Finset.mem_filter, h.selected]
    constructor
    -- those that stay are those that agree with the choice
    · rintro ⟨⟨i, hi, rfl⟩, hbit⟩
      refine ⟨i, ?_, rfl⟩
      rw [chosen, if_neg hi, if_pos hbit]
      exact searchingFrom_ne_off _ _
    · rintro ⟨i, hi, rfl⟩
      unfold chosen at hi ⊢
      dsimp only at hi ⊢
      split at hi
      · exact absurd rfl hi
      · next hphase =>
        split at hi
        · next hbit => exact ⟨⟨i, hphase, rfl⟩, hbit⟩
        · exact absurd rfl hi

/-! ### The loop -/

/-- The devices are who they were, in the states in which they were. -/
def SameStates (d e : ι → Device σ) : Prop := ∀ i, (e i).id = (d i).id ∧ (e i).state = (d i).state

/-- **The loop of a search** over the devices goes as on the ideal bus. -/
theorem run_searchLoop : ∀ (n : ℕ) (d : ι → Device σ) (s : Search), s.bus.position + n = 64 →
    Searching d s.bus →
      ((Session.searchLoop beyond n s.bus.position s.context s.nextFork).run (onBus F A).bus d).1
          = (match (List.range' s.bus.position n).foldlM (turn beyond) s with
            | .error s => (s.context, false)
            | .ok s => ({ s.context with lastFork := s.nextFork, done := s.nextFork = 0 }, true)) ∧
        SameStates d ((Session.searchLoop beyond n s.bus.position s.context s.nextFork).run
          (onBus F A).bus d).2 := by
  intro n
  induction n with
  | zero => exact fun d s _ _ => ⟨rfl, fun i => ⟨rfl, rfl⟩⟩
  | succ n ih =>
    intro d s hn hs
    have hlt : s.bus.position < 64 := by omega
    -- the session's choice is the choice of the abstract bus
    have hchoose := chooseBit_eq beyond s.bus.position s rfl rfl
    have hread : (Session.read 2).run (onBus F A).bus d
        = (Session.gather 0 0 [s.bus.slot fun x => x.getLsbD s.bus.position,
            s.bus.slot fun x => !x.getLsbD s.bus.position],
          fun i => moved (fun id => .searchChoice ((bitsOfId id).drop s.bus.position)) (d i)) := by
      rw [Session.read_eq, Talk.run_bind, run_readTwo hs hlt]
      rfl
    generalize hanswer : Session.gather 0 0 [s.bus.slot fun x => x.getLsbD s.bus.position,
      s.bus.slot fun x => !x.getLsbD s.bus.position] = answer at hread hchoose
    rw [Session.searchLoop, Talk.run_bind, hread, List.range'_succ, List.foldlM_cons]
    by_cases hthree : answer = 3
    · -- nobody answers
      have hturn : turn beyond s s.bus.position = .error s := if_pos (hchoose.1.mpr hthree)
      rw [hturn]
      dsimp only
      rw [if_pos hthree]
      exact ⟨rfl, fun i => ⟨rfl, rfl⟩⟩
    · have hturn : turn beyond s s.bus.position = .ok (let t := choose beyond s.bus.position s
          { t with bus := t.bus.write (t.context.getBit beyond s.bus.position) }) :=
        if_neg fun h => hthree (hchoose.1.mp h)
      rw [hturn, hchoose.2]
      dsimp only
      rw [if_neg hthree]
      generalize Session.chooseBit beyond s.bus.position answer s.context s.nextFork = c
      rw [Talk.run_bind, run_writeChoice hlt]
      rcases ih (fun i => chosen s.bus.position (c.1.getBit beyond s.bus.position) (d i))
        ⟨s.bus.write (c.1.getBit beyond s.bus.position), c.1, c.2⟩
        (by simp only [Bus.write]; omega) (hs.write _) with ⟨hvalue, hstates⟩
      exact ⟨hvalue, hstates⟩

/-! ### Searches -/

variable (A) in
/-- A search of this type asks the device. -/
def TakesPart (type : SearchType) (e : Device σ) : Prop := type = .normal ∨ A e.state = true

instance (type : SearchType) (e : Device σ) : Decidable (TakesPart A type e) :=
  inferInstanceAs (Decidable (_ ∨ _))

variable (A) in
/-- The ids of the devices that a search of this type asks. -/
def participants (type : SearchType) (d : ι → Device σ) : Finset UniqueId :=
  (Finset.univ.filter fun i => TakesPart A type (d i)).image fun i => (d i).id

/-- The phase of a device that has heard the command of a search. -/
theorem ofCommand_search (id : UniqueId) (type : SearchType) (a : Bool) :
    Phase.ofCommand id a (bitsOfWord (Session.searchCommand type) 8)
      = if type = .normal ∨ a = true then searchingFrom 0 id else .off := by
  have hsearching : searchingFrom 0 id = .searchBit (bitsOfId id) := searchingFrom_of_lt id (by omega)
  rw [hsearching, Phase.ofCommand]
  cases type with
  | normal =>
    rw [if_neg (by decide), if_neg (by decide), if_neg (by decide), if_pos rfl, if_pos (.inl rfl)]
  | alarm =>
    rw [if_neg (by decide), if_neg (by decide), if_neg (by decide), if_neg (by decide)]
    simp

/-- **A search over the bus** is the search on the ideal bus of the ids that it asks, and
leaves the devices in the states in which the reset put them. -/
theorem run_searchRom (d : ι → Device σ) {context : SearchContext} (hdone : context.done = false)
    (hA : ∀ s, A (F.reset s) = A s) :
    ((Talk.reset fun _ => Session.searchRom beyond context).run (onBus F A).bus d).1
        = searchRom beyond (Bus.reset (participants A context.type d)) context ∧
      SameStates (fun i => ⟨(d i).id, .off, F.reset (d i).state⟩)
        ((Talk.reset fun _ => Session.searchRom beyond context).run (onBus F A).bus d).2 := by
  -- the devices behind the command
  have hheard : ∀ i, (onBus F A).hearsAll (bitsOfWord (Session.searchCommand context.type) 8)
      ((onBus F A).reset (d i)) = ⟨(d i).id,
        if TakesPart A context.type (d i) then searchingFrom 0 (d i).id else .off,
        F.reset (d i).state⟩ := by
    intro i
    have hphase : Phase.ofCommand (d i).id (A (F.reset (d i).state))
        (bitsOfWord (Session.searchCommand context.type) 8)
          = if TakesPart A context.type (d i) then searchingFrom 0 (d i).id else .off := by
      rw [ofCommand_search, hA]
      rfl
    rw [(hears_command rfl rfl).2]
    exact congrArg (fun phase => (⟨(d i).id, phase, F.reset (d i).state⟩ : Device σ)) hphase
  generalize hd : (fun i => (⟨(d i).id,
    if TakesPart A context.type (d i) then searchingFrom 0 (d i).id else .off,
    F.reset (d i).state⟩ : Device σ)) = d₀
  have hcommand : (Session.write (Session.searchCommand context.type) 8).run (onBus F A).bus
      (fun i => (onBus F A).reset (d i)) = ((), d₀) := by
    rw [Session.write_eq _ (by omega), Party.run_writeBits_bus fun i => (hears_command rfl rfl).1,
      ← hd]
    exact congrArg (Prod.mk ()) (funext hheard)
  have hsearching : Searching d₀ (Bus.reset (participants A context.type d)) := by
    subst hd
    refine ⟨fun i => ?_, fun x => ?_⟩
    · dsimp only
      split
      · exact .inl rfl
      · exact .inr rfl
    -- the ids in the search are those of the devices that take part
    · rw [Bus.reset, participants, Finset.mem_image]
      constructor
      · rintro ⟨i, hi, rfl⟩
        refine ⟨i, ?_, rfl⟩
        dsimp only
        rw [if_pos (Finset.mem_filter.mp hi).2]
        exact searchingFrom_ne_off _ _
      · rintro ⟨i, hi, rfl⟩
        refine ⟨i, Finset.mem_filter.mpr ⟨Finset.mem_univ i, ?_⟩, rfl⟩
        by_contra hnot
        exact hi (if_neg hnot)
  rcases run_searchLoop (F := F) (A := A) beyond 64 d₀
    ⟨Bus.reset (participants A context.type d), context, 0⟩ rfl hsearching with
    ⟨hvalue, hstates⟩
  have hbus : ((onBus F A).bus.reset d).2 = fun i => (onBus F A).reset (d i) := rfl
  rw [Talk.run_reset, Session.searchRom, if_neg (by simp [hdone]), Talk.run_bind, hbus,
    hcommand]
  refine ⟨?_, ?_⟩
  · rw [searchRom, if_neg (by simp [hdone]), List.range_eq_range']
    exact hvalue
  · intro i
    rcases hstates i with ⟨hid, hstate⟩
    rw [← congrFun hd i] at hid hstate
    exact ⟨hid, hstate⟩

/-! ### All searches of a context -/

/-- Searches behind resets until the context is done, at most `n`: what each returns, the id
behind it, and the context in the end. -/
def searches : ℕ → SearchContext → Talk (List (Bool × UniqueId) × SearchContext)
  | 0, c => .done ([], c)
  | n + 1, c =>
    if c.done then .done ([], c)
    else .reset fun _ => Session.searchRom beyond c >>= fun r =>
      searches n r.1 >>= fun rest => .done ((r.2, r.1.lastId) :: rest.1, rest.2)

/-- A search is of the type of its context. -/
theorem type_searchRom (b : Bus) (c : SearchContext) : (searchRom beyond b c).1.type = c.type := by
  by_cases hdone : c.done = true
  · rw [searchRom, if_pos hdone]
  · rw [searchRom, if_neg hdone]
    have hturn : ∀ i (s s' : Search), i < 64 → s.context.type = c.type →
        turn beyond s i = .ok s' → s'.context.type = c.type := by
      intro i s s' _ hs h
      rcases turn_context h with ⟨v, hcontext⟩ | hcontext
      · rw [hcontext, setBit_type, hs]
      · rw [hcontext, hs]
    have hloop : (∃ s, (List.range 64).foldlM (turn beyond) ⟨b, c, 0⟩ = .ok s ∧
        s.context.type = c.type) ∨ ∃ i s, i < 64 ∧
          (List.range 64).foldlM (turn beyond) ⟨b, c, 0⟩ = .error s ∧ s.context.type = c.type ∧
          s.bus.read = 3 :=
      loop_rule (I := fun _ s => s.context.type = c.type) rfl hturn
    rcases hloop with ⟨s, hs, htype⟩ | ⟨i, s, -, hs, htype, -⟩
    · rw [hs]
      exact htype
    · rw [hs]
      exact htype

/-- **All searches over the bus**, with any devices in any states, are those of the model on
the ideal bus of the ids that take part. -/
theorem run_searches (hA : ∀ s, A (F.reset s) = A s) : ∀ (n : ℕ) (d : ι → Device σ)
    (c : SearchContext), ((searches beyond n c).run (onBus F A).bus d).1
      = calls beyond (participants A c.type d) n c := by
  intro n
  induction n with
  | zero => exact fun d c => rfl
  | succ n ih =>
    intro d c
    by_cases hdone : c.done = true
    · rw [searches, calls, if_pos hdone, if_pos hdone]
      rfl
    · rcases run_searchRom (F := F) beyond d (by simpa using hdone) hA with
        ⟨hvalue, hstates⟩
      rw [Talk.run_reset] at hvalue hstates
      -- the next search asks the same devices
      have hsame : ∀ e : ι → Device σ,
          SameStates (fun i => ⟨(d i).id, .off, F.reset (d i).state⟩) e →
          participants A c.type e = participants A c.type d := by
        intro e he
        have htakes : ∀ i, TakesPart A c.type (e i) ↔ TakesPart A c.type (d i) := by
          intro i
          rw [TakesPart, TakesPart, (he i).2, hA]
        ext x
        simp only [participants, Finset.mem_image, Finset.mem_filter, Finset.mem_univ, true_and,
          htakes, fun i => (he i).1]
      rw [searches, calls, if_neg hdone, if_neg hdone, Talk.run_reset, Talk.run_bind, Talk.run_bind,
        Talk.run_done, hvalue, ih, type_searchRom, hsame _ hstates]

end Search

/-- Two devices are searched for. -/
theorem run_searches_two : ((searches (fun _ => 0#32) 2 (.create .normal 0)).run sampleBus
    sampleDevices).1 = calls (fun _ => 0#32) {0x28, 0x1028} 2 (.create .normal 0) := by
  have hids : participants (fun _ => false) .normal sampleDevices = {0x28, 0x1028} := by decide
  rw [← hids]
  exact run_searches (fun _ => 0#32) (fun _ => rfl) 2 sampleDevices (.create .normal 0)

end OneWire
end HomeAutomation
