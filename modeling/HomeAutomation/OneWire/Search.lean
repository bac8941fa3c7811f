import HomeAutomation.Lib.BitTrie
import HomeAutomation.OneWire.Session

/-!
# Which devices a search finds

A call of `search_rom` walks down the trie of the ids on the bus, and the calls walk to
the members of the trie in their order.  Two things stand in the way of some ids.  The
context loses the upper half of its id with every zero it stores, so an id that does not
fit in 32 bits is never reported; and the index zero stands for no fork at all, so of two
ids that differ in bit zero only the one with the one is looked for.

## Main definitions

* `Findable` — the ids fit in 32 bits, agree in bit zero and are spared by the shifts
  beyond 32 bits.
* `Walked` — the state of a call that is on the way to an id.

## Main results

* `searchRom_follows` — a call comes to the id that its context leads to.
* `enumerates_of_findable` — the search of findable ids is complete.
* `enumerates_iff` — the sets of ids for which the search is complete.

## References

`firmware/ti/onewire/Session.cpp`, `firmware/ti/include/onewire/onewire.h`.
-/

namespace HomeAutomation
namespace OneWire

open BitTrie

variable {beyond : ℕ → BitVec 32}

/-- The bits of an id. -/
def bit (x : UniqueId) (i : ℕ) : Bool := x.getLsbD i

theorem eq_of_agree (x y : UniqueId) (h : Agree bit 64 x y) : x = y :=
  BitVec.eq_of_getLsbD_eq h

/-- **The ids that a search finds**: they fit in 32 bits, what the shifts beyond 32 bits
give spares them, and they agree in bit zero. -/
structure Findable (beyond : ℕ → BitVec 32) (devices : Finset UniqueId) : Prop where
  low : ∀ x ∈ devices, x.toNat < 2 ^ 32
  spared : ∀ x ∈ devices, ∀ i, 32 ≤ i → i < 64 → x &&& (beyond i).setWidth 64 = 0#64
  root : ∀ x ∈ devices, ∀ y ∈ devices, x.getLsbD 0 = y.getLsbD 0

/-! ### Bits of the context -/

section Bits

variable {c : SearchContext} {i : ℕ}

theorem bit_of_low {x : UniqueId} (h : x.toNat < 2 ^ 32) {j : ℕ} (hj : 32 ≤ j) :
    bit x j = false :=
  Nat.testBit_lt_two_pow (h.trans_le (Nat.pow_le_pow_right (by decide) hj))

theorem bit_shiftOne (hi : i < 32) (j : ℕ) :
    (shiftOne beyond i).getLsbD j = decide (j = i) := by
  rw [shiftOne, if_pos hi, BitVec.getLsbD_shiftLeft, BitVec.getLsbD_one]
  by_cases hj : j = i
  · subst hj
    simp [hi]
  · by_cases hlt : j < i
    · simp [hj, hlt]
    · simp [hj, show j - i ≠ 0 by omega]

/-- A one that is stored. -/
theorem bit_setBit_true (j : ℕ) : bit (c.setBit beyond i true).lastId j
    = (bit c.lastId j || (shiftOne beyond i).getLsbD j) := by
  have hwide : j < 64 ∨ (shiftOne beyond i).getLsbD j = false := by
    by_cases hj : j < 64
    · exact Or.inl hj
    · exact Or.inr (BitVec.getLsbD_of_ge _ _ (by omega))
  rcases hwide with h | h
  · simp [SearchContext.setBit, bit, h]
  · simp [SearchContext.setBit, bit, h]

/-- A zero that is stored clears the upper half as well. -/
theorem bit_setBit_false (j : ℕ) : bit (c.setBit beyond i false).lastId j
    = (bit c.lastId j && (decide (j < 32) && !(shiftOne beyond i).getLsbD j)) := by
  by_cases hj : j < 32
  · simp [SearchContext.setBit, bit, hj, show j < 64 by omega]
  · simp [SearchContext.setBit, bit, hj]

theorem getBit_eq (hi : i < 32) : c.getBit beyond i = bit c.lastId i := by
  have hone : ∀ j, (c.lastId &&& (shiftOne beyond i).setWidth 64).getLsbD j
      = (bit c.lastId j && decide (j = i)) := by
    intro j
    rw [BitVec.getLsbD_and, BitVec.getLsbD_setWidth, bit_shiftOne hi]
    -- only bit `i` of the mask is set
    by_cases hj : j = i
    · simp [bit, hj, show i < 64 by omega]
    · simp [hj]
  unfold SearchContext.getBit
  cases hbit : bit c.lastId i with
  | true =>
    refine decide_eq_true fun h => ?_
    have := hone i
    simp [h, hbit] at this
  | false =>
    refine decide_eq_false (not_not.mpr (BitVec.eq_of_getLsbD_eq fun j _ => ?_))
    rw [hone j]
    by_cases hj : j = i
    · simp [hj, hbit]
    · simp [hj]

/-- A zero that is stored is read back, at every index. -/
theorem getBit_setBit_false : (c.setBit beyond i false).getBit beyond i = false := by
  refine decide_eq_false (not_not.mpr (BitVec.eq_of_getLsbD_eq fun j _ => ?_))
  have hbit : (c.setBit beyond i false).lastId.getLsbD j
      = (bit c.lastId j && (decide (j < 32) && !(shiftOne beyond i).getLsbD j)) :=
    bit_setBit_false j
  rw [BitVec.getLsbD_and, hbit, BitVec.getLsbD_setWidth]
  cases (shiftOne beyond i).getLsbD j with
  | true => simp
  | false => simp

/-- What is stored below index 32 leaves the rest of the lower half alone. -/
theorem bit_setBit_low (hi : i < 32) (v : Bool) {j : ℕ} (hj : j < 32) :
    bit (c.setBit beyond i v).lastId j = if j = i then v else bit c.lastId j := by
  cases v with
  | true =>
    rw [bit_setBit_true, bit_shiftOne hi]
    by_cases h : j = i
    · simp [h]
    · simp [h]
  | false =>
    rw [bit_setBit_false, bit_shiftOne hi]
    by_cases h : j = i
    · simp [h]
    · simp [h, hj]

@[simp] theorem setBit_lastFork (v : Bool) : (c.setBit beyond i v).lastFork = c.lastFork := by
  cases v <;> rfl

@[simp] theorem setBit_done (v : Bool) : (c.setBit beyond i v).done = c.done := by
  cases v <;> rfl

@[simp] theorem setBit_type (v : Bool) : (c.setBit beyond i v).type = c.type := by
  cases v <;> rfl

end Bits

/-! ### Bits of the bus -/

section Read

variable {b : Bus}

theorem slot_eq_true_iff {sent : UniqueId → Bool} :
    b.slot sent = true ↔ ∀ x ∈ b.selected, sent x = true := by
  unfold Bus.slot
  rw [decide_eq_true_iff, Finset.filter_eq_empty_iff]
  simp

theorem slot_eq {sent : UniqueId → Bool} {v : Bool} (hne : b.selected.Nonempty)
    (h : ∀ x ∈ b.selected, sent x = v) : b.slot sent = v := by
  cases v with
  | true => exact slot_eq_true_iff.mpr h
  | false =>
    obtain ⟨x, hx⟩ := hne
    by_contra hnot
    have hone := slot_eq_true_iff.mp (by simpa using hnot) x hx
    rw [h x hx] at hone
    cases hone

/-- The selected devices send one bit. -/
theorem read_of_forall {v : Bool} (hne : b.selected.Nonempty)
    (h : ∀ x ∈ b.selected, bit x b.position = v) : b.read = if v then 1 else 2 := by
  have hvalue : (b.slot fun x => x.getLsbD b.position) = v := slot_eq hne h
  have hcomplement : (b.slot fun x => !x.getLsbD b.position) = !v :=
    slot_eq hne fun x hx => congrArg not (h x hx)
  rw [Bus.read, hvalue, hcomplement]
  cases v <;> rfl

/-- The selected devices send both bits. -/
theorem read_of_both {x y : UniqueId} (hx : x ∈ b.selected) (hy : y ∈ b.selected)
    (hne : bit y b.position ≠ bit x b.position) : b.read = 0 := by
  have hslot : ∀ sent : UniqueId → Bool, sent x ≠ sent y → b.slot sent = false := by
    intro sent hsent
    by_contra hnot
    have hall := slot_eq_true_iff.mp (by simpa using hnot)
    exact hsent ((hall x hx).trans (hall y hy).symm)
  rw [Bus.read, hslot _ fun h => hne h.symm, hslot _ fun h => hne (Bool.not_inj h).symm]
  rfl

end Read

/-! ### One call -/

/-- The choice at an index where one bit is on the bus. -/
theorem choose_of_read {s : Search} {i : ℕ} {v : Bool} (h : s.bus.read = if v then 1 else 2) :
    choose beyond i s = { s with context := s.context.setBit beyond i v } := by
  unfold choose
  rw [h]
  cases v with
  | true => rfl
  | false => rfl

/-- The choice at an index where both bits are on the bus. -/
theorem choose_of_collision {s : Search} {i : ℕ} (h : s.bus.read = 0) :
    choose beyond i s =
      if i = s.context.lastFork then { s with context := s.context.setBit beyond i true }
      else if i > s.context.lastFork then
        { s with context := s.context.setBit beyond i false, nextFork := i }
      else if !s.context.getBit beyond i then { s with nextFork := i }
      else s := by
  unfold choose
  rw [h]
  simp

/-- **The rule for the loop**: it ends with the last index, or before where no device
answers. -/
theorem loop_rule {I : ℕ → Search → Prop} {s₀ : Search} (hinit : I 0 s₀)
    (hturn : ∀ i s s', i < 64 → I i s → turn beyond s i = .ok s' → I (i + 1) s') :
    (∃ s, (List.range 64).foldlM (turn beyond) s₀ = .ok s ∧ I 64 s) ∨
      ∃ i s, i < 64 ∧ (List.range 64).foldlM (turn beyond) s₀ = .error s ∧ I i s ∧
        s.bus.read = 3 := by
  have hloop : ∀ n ≤ 64, (∃ s, (List.range n).foldlM (turn beyond) s₀ = .ok s ∧ I n s) ∨
      ∃ i s, i < n ∧ (List.range n).foldlM (turn beyond) s₀ = .error s ∧ I i s ∧
        s.bus.read = 3 := by
    intro n
    induction n with
    | zero => exact fun _ => Or.inl ⟨s₀, rfl, hinit⟩
    | succ n ih =>
      intro hn
      rw [List.range_succ, List.foldlM_append]
      simp only [List.foldlM_cons, List.foldlM_nil, bind_pure]
      rcases ih (by omega) with ⟨s, hs, hI⟩ | ⟨i, s, hi, hs, hI, hread⟩
      -- the loop ends early when nobody answers
      · rw [hs]
        by_cases hread : s.bus.read = 3
        · exact Or.inr ⟨n, s, Nat.lt_succ_self n, if_pos hread, hI, hread⟩
        · obtain ⟨s', hs'⟩ : ∃ s', turn beyond s n = .ok s' := ⟨_, if_neg hread⟩
          exact Or.inl ⟨s', hs', hturn n s s' (by omega) hI hs'⟩
      · rw [hs]
        exact Or.inr ⟨i, s, by omega, rfl, hI, hread⟩
  exact hloop 64 le_rfl

/-- **A call on its way to the id `z`**, before the turn of index `i`: the devices that are
still selected agree with `z` so far, and the context holds the bits of `z` below `i` and
those of the call before from `i` on. -/
structure Walked (devices : Finset UniqueId) (c : SearchContext) (z : UniqueId) (i : ℕ)
    (s : Search) : Prop where
  position : s.bus.position = i
  selected : ∀ y, y ∈ s.bus.selected ↔ y ∈ devices ∧ Agree bit i z y
  type : s.context.type = c.type
  done : s.context.done = c.done
  fork : s.context.lastFork = c.lastFork
  low : ∀ j < 32, bit s.context.lastId j = if j < i then bit z j else bit c.lastId j
  high : 32 < i → ∀ j, 32 ≤ j → bit s.context.lastId j = false
  nextFork : s.nextFork = lastFork bit devices z i

section Walk

variable {devices : Finset UniqueId} {c : SearchContext} {z : UniqueId} {i : ℕ} {s : Search}

/-- The devices are read as `z` and its forks say. -/
theorem Walked.read (hw : Walked devices c z i s) (hz : z ∈ devices) :
    (¬ Fork bit devices z i ∧ s.bus.read = if bit z i then 1 else 2) ∨
      (Fork bit devices z i ∧ s.bus.read = 0) := by
  have hzmem : z ∈ s.bus.selected := (hw.selected z).mpr ⟨hz, fun _ _ => rfl⟩
  by_cases hfork : Fork bit devices z i
  · obtain ⟨y, hy, hagree, hne⟩ := hfork
    refine Or.inr ⟨⟨y, hy, hagree, hne⟩, read_of_both hzmem ((hw.selected y).mpr ⟨hy, hagree⟩) ?_⟩
    rw [hw.position]
    exact hne
  · refine Or.inl ⟨hfork, read_of_forall ⟨z, hzmem⟩ fun y hy => ?_⟩
    obtain ⟨hydev, hagree⟩ := (hw.selected y).mp hy
    by_contra hne
    rw [hw.position] at hne
    exact hfork ⟨y, hydev, hagree, hne⟩

/-- **The choice on the way to `z`** is the bit of `z`: it is stored, or it is there from
the call before. -/
theorem Walked.choose (hw : Walked devices c z i s)
    (hz : Follows bit devices c.lastFork (bit c.lastId) z)
    (hlow : 32 ≤ i → ¬ Fork bit devices z i) :
    OneWire.choose beyond i s = { s with
        context := s.context.setBit beyond i (bit z i)
        nextFork := lastFork bit devices z (i + 1) } ∨
      (i < 32 ∧ bit s.context.lastId i = bit z i ∧
        OneWire.choose beyond i s = { s with nextFork := lastFork bit devices z (i + 1) }) := by
  rcases hw.read hz.mem with ⟨hfork, hread⟩ | ⟨hfork, hread⟩
  -- all devices that are left agree on the bit
  · left
    rw [choose_of_read hread, lastFork, if_neg fun h => hfork h.1, ← hw.nextFork]
  · have hi : i < 32 := by
      by_contra hge
      exact hlow (by omega) hfork
    rw [choose_of_collision hread, hw.fork, lastFork]
    rcases lt_trichotomy i c.lastFork with hlt | heq | hgt
    · -- below the fork the context still has the bit of the call before
      have hold : bit s.context.lastId i = bit z i := by
        rw [hw.low i hi, if_neg (lt_irrefl i), hz.kept i hlt hfork]
      refine Or.inr ⟨hi, hold, ?_⟩
      rw [if_neg hlt.ne, if_neg hlt.not_gt, getBit_eq hi, hold]
      cases hbit : bit z i with
      | true => simp [← hw.nextFork]
      | false => simp [hfork]
    -- at the fork itself the search turns to the one
    · have hone : bit z i = true := heq ▸ hz.turned (heq ▸ hfork)
      left
      rw [if_pos heq, hone, if_neg (by simp), ← hw.nextFork]
    -- beyond it the zero is tried first
    · have hzero : bit z i = false := hz.zeros i hgt hfork
      left
      rw [if_neg hgt.ne', if_pos hgt, hzero, if_pos ⟨hfork, rfl⟩]

/-- No fork of a findable id is beyond the lower half. -/
theorem Findable.not_fork (hS : Findable beyond devices) (hz : z ∈ devices) (hi : 32 ≤ i) :
    ¬ Fork bit devices z i := by
  rintro ⟨y, hy, -, hne⟩
  rw [bit_of_low (hS.low y hy) hi, bit_of_low (hS.low z hz) hi] at hne
  exact hne rfl

theorem Findable.spared_bit (hS : Findable beyond devices) (hz : z ∈ devices) (hi : 32 ≤ i)
    (hi' : i < 64) {j : ℕ} (hj : j < 32) : (bit z j && !(beyond i).getLsbD j) = bit z j := by
  have h := congrArg (fun v : BitVec 64 => v.getLsbD j) (hS.spared z hz i hi hi')
  simp only [BitVec.getLsbD_and, BitVec.getLsbD_setWidth, BitVec.getLsbD_zero] at h
  rw [decide_eq_true (show j < 64 by omega), Bool.true_and] at h
  show (z.getLsbD j && !(beyond i).getLsbD j) = z.getLsbD j
  cases hz : z.getLsbD j with
  | false => rfl
  | true =>
    rw [hz, Bool.true_and] at h
    rw [h]
    rfl

/-- The context of a call on its way to `z` after a turn. -/
structure Chosen (beyond : ℕ → BitVec 32) (c : SearchContext) (z : UniqueId) (i : ℕ)
    (c' : SearchContext) : Prop where
  type : c'.type = c.type
  done : c'.done = c.done
  fork : c'.lastFork = c.lastFork
  written : c'.getBit beyond i = bit z i
  low : ∀ j < 32, bit c'.lastId j = if j < i + 1 then bit z j else bit c.lastId j
  high : 32 < i + 1 → ∀ j, 32 ≤ j → bit c'.lastId j = false

theorem Walked.chosen_stored (hw : Walked devices c z i s) (hS : Findable beyond devices)
    (hz : z ∈ devices) (hi : i < 64) :
    Chosen beyond c z i (s.context.setBit beyond i (bit z i)) := by
  refine ⟨(setBit_type _).trans hw.type, (setBit_done _).trans hw.done,
    (setBit_lastFork _).trans hw.fork, ?_, fun j hj => ?_, fun hhigh j hj => ?_⟩
  -- the upper half of the id is zero, and a zero written there leaves the id alone
  · by_cases hlow : i < 32
    · rw [getBit_eq hlow, bit_setBit_low hlow _ hlow, if_pos rfl]
    · rw [bit_of_low (hS.low z hz) (by omega), getBit_setBit_false]
  · by_cases hlow : i < 32
    · rw [bit_setBit_low hlow _ hj, hw.low j hj]
      by_cases hji : j = i
      · simp [hji]
      · simp [hji, show j < i + 1 ↔ j < i by omega]
    · -- a zero of the upper half takes from the lower half what the shift gives
      have hshift : shiftOne beyond i = beyond i := if_neg hlow
      rw [bit_of_low (hS.low z hz) (by omega), bit_setBit_false, hshift, hw.low j hj,
        decide_eq_true hj, Bool.true_and, if_pos (by omega), if_pos (by omega),
        hS.spared_bit hz (by omega) hi hj]
  · rw [bit_of_low (hS.low z hz) (by omega), bit_setBit_false,
      decide_eq_false (by omega : ¬ j < 32)]
    simp

theorem Walked.chosen_kept (hw : Walked devices c z i s) (hi : i < 32)
    (hold : bit s.context.lastId i = bit z i) : Chosen beyond c z i s.context := by
  refine ⟨hw.type, hw.done, hw.fork, by rw [getBit_eq hi, hold], fun j hj => ?_, fun h => by omega⟩
  by_cases hji : j = i
  · rw [hji, hold, if_pos (Nat.lt_succ_self i)]
  · rw [hw.low j hj]
    simp [show j < i + 1 ↔ j < i by omega]

/-- Some device answers. -/
theorem Walked.read_ne_three (hw : Walked devices c z i s) (hz : z ∈ devices) :
    s.bus.read ≠ 3 := by
  rcases hw.read hz with ⟨-, h⟩ | ⟨-, h⟩
  · rw [h]
    cases bit z i <;> decide
  · rw [h]
    decide

/-- **One turn on the way to `z`.** -/
theorem Walked.turn {s' : Search} (hw : Walked devices c z i s)
    (hz : Follows bit devices c.lastFork (bit c.lastId) z) (hS : Findable beyond devices)
    (hi : i < 64) (h : OneWire.turn beyond s i = .ok s') : Walked devices c z (i + 1) s' := by
  have hchosen : ∃ c', Chosen beyond c z i c' ∧ OneWire.choose beyond i s
      = { s with context := c', nextFork := lastFork bit devices z (i + 1) } := by
    rcases hw.choose hz (hS.not_fork hz.mem) with h | ⟨hlow, hold, h⟩
    · exact ⟨_, hw.chosen_stored hS hz.mem hi, h⟩
    · exact ⟨_, hw.chosen_kept hlow hold, h⟩
  obtain ⟨c', hc', hchoose⟩ := hchosen
  rw [OneWire.turn, if_neg (hw.read_ne_three hz.mem), hchoose] at h
  have hs' : s' = ⟨s.bus.write (bit z i), c', lastFork bit devices z (i + 1)⟩ := by
    rw [← hc'.written]
    exact (Except.ok.inj h).symm
  rw [hs']
  refine ⟨by rw [← hw.position]; rfl, fun y => ?_, hc'.type, hc'.done, hc'.fork, hc'.low,
    hc'.high, rfl⟩
  show y ∈ s.bus.selected.filter _ ↔ _
  rw [Finset.mem_filter, hw.selected, hw.position, agree_succ, and_assoc]
  exact and_congr_right fun _ => and_congr_right fun _ => eq_comm

/-- **A call comes to the id that its context leads to.** -/
theorem searchRom_follows (hz : Follows bit devices c.lastFork (bit c.lastId) z)
    (hS : Findable beyond devices) (hdone : c.done = false) :
    searchRom beyond (Bus.reset devices) c
      = (⟨c.type, z, lastFork bit devices z 64 = 0, lastFork bit devices z 64⟩, true) := by
  have hinit : Walked devices c z 0 ⟨Bus.reset devices, c, 0⟩ := by
    refine ⟨rfl, fun y => ?_, rfl, rfl, rfl, fun j _ => rfl, fun h => by omega, rfl⟩
    exact (and_iff_left fun j hj => absurd hj (Nat.not_lt_zero j)).symm
  obtain ⟨s, hs, hw⟩ : ∃ s, (List.range 64).foldlM (OneWire.turn beyond) ⟨Bus.reset devices, c, 0⟩
      = .ok s ∧ Walked devices c z 64 s := by
    rcases loop_rule hinit fun i s s' hi hw h => hw.turn hz hS hi h with h | ⟨i, s, -, -, hw, hread⟩
    · exact h
    · exact absurd hread (hw.read_ne_three hz.mem)
  have hid : s.context.lastId = z := by
    refine eq_of_agree _ _ fun j hj => ?_
    by_cases hlow : j < 32
    · rw [hw.low j hlow, if_pos hj]
    · rw [hw.high (by decide) j (by omega), bit_of_low (hS.low z hz.mem) (by omega)]
  rw [searchRom, if_neg (by simp [hdone]), hs]
  simp only [hw.nextFork, hw.type, hid]

end Walk

/-! ### The calls -/

section Calls

variable {devices : Finset UniqueId}

theorem calls_succ {n : ℕ} {c c' : SearchContext} {result : Bool} (hdone : c.done = false)
    (hcall : searchRom beyond (Bus.reset devices) c = (c', result)) :
    calls beyond devices (n + 1) c
      = ((result, c'.lastId) :: (calls beyond devices n c').1, (calls beyond devices n c').2) := by
  rw [calls, if_neg (by simp [hdone]), hcall]

/-- The context behind a call that has come to `x`. -/
noncomputable def contextAt (devices : Finset UniqueId) (type : SearchType) (x : UniqueId) :
    SearchContext :=
  ⟨type, x, lastFork bit devices x 64 = 0, lastFork bit devices x 64⟩

theorem Findable.root_not_fork (hS : Findable beyond devices) :
    ∀ x ∈ devices, ¬ Fork bit devices x 0 := by
  rintro x hx ⟨y, hy, -, hne⟩
  exact hne (hS.root y hy x hx)

/-- **The calls behind the id `x`** find the ids behind it. -/
theorem calls_behind (hS : Findable beyond devices) (type : SearchType) :
    ∀ (n : ℕ) {x : UniqueId}, (behind bit 64 devices x).card = n → x ∈ devices →
      ∃ (ids : List UniqueId) (c : SearchContext),
        calls beyond devices n (contextAt devices type x) = (ids.map fun y => (true, y), c) ∧
          c.done = true ∧ ids.Nodup ∧ ∀ y, y ∈ ids ↔ y ∈ behind bit 64 devices x := by
  intro n
  -- on the number of ids that are left
  induction n with
  | zero =>
    -- no id is left: the call before was the last
    intro x hcard hx
    rw [Finset.card_eq_zero] at hcard
    have hlast : lastFork bit devices x 64 = 0 := by
      by_contra hne
      obtain ⟨z, hz, hlt, -⟩ := exists_next eq_of_agree hne
      have hmem := mem_behind.mpr ⟨hz.mem, hlt⟩
      rw [hcard] at hmem
      exact Finset.notMem_empty z hmem
    refine ⟨[], contextAt devices type x, rfl, decide_eq_true hlast, List.nodup_nil, fun y => ?_⟩
    rw [hcard]
    exact iff_of_false List.not_mem_nil (Finset.notMem_empty y)
  | succ n ih =>
    intro x hcard hx
    -- otherwise the last fork is not zero, and the next call goes on from there
    have hne : lastFork bit devices x 64 ≠ 0 := by
      intro hzero
      have hnone := not_lt_of_lastFork_eq_zero (hS.root_not_fork x hx) hzero
      obtain ⟨y, hy⟩ := Finset.card_pos.mp (Nat.lt_of_lt_of_eq (Nat.succ_pos n) hcard.symm)
      exact hnone y (mem_behind.mp hy).1 (mem_behind.mp hy).2
    obtain ⟨z, hz, hlt, hleast⟩ := exists_next eq_of_agree hne
    -- `z` is the least of the ids behind `x`
    have hzmem : z ∈ behind bit 64 devices x := mem_behind.mpr ⟨hz.mem, hlt⟩
    have hsub : ∀ y ∈ behind bit 64 devices x, y ∈ devices := fun y hy => (mem_behind.mp hy).1
    have hleast' : ∀ y ∈ behind bit 64 devices x, key bit 64 z ≤ key bit 64 y :=
      fun y hy => hleast y (mem_behind.mp hy).1 (mem_behind.mp hy).2
    have hup : ∀ y ∈ devices, key bit 64 z < key bit 64 y → y ∈ behind bit 64 devices x :=
      fun y hy h => mem_behind.mpr ⟨hy, hlt.trans h⟩
    have hcard' : (behind bit 64 devices z).card = n := by
      rw [card_of_least eq_of_agree hzmem hsub hleast' hup] at hcard
      exact Nat.succ.inj hcard
    obtain ⟨ids, c, hcalls, hdone, hnodup, hmem⟩ := ih hcard' hz.mem
    have hnot : (contextAt devices type x).done = false := decide_eq_false hne
    have hcall : searchRom beyond (Bus.reset devices) (contextAt devices type x)
        = (contextAt devices type z, true) :=
      searchRom_follows hz hS hnot
    refine ⟨z :: ids, c, ?_, hdone, List.nodup_cons.mpr ⟨?_, hnodup⟩, fun y => ?_⟩
    · rw [calls_succ hnot hcall, hcalls]
      rfl
    · rw [hmem]
      exact not_mem_behind_self z
    -- the id just found, and those behind it
    · rw [List.mem_cons, hmem]
      exact (mem_iff_of_least eq_of_agree hzmem hsub hleast' hup y).symm

/-- **The search of findable ids is complete.** -/
theorem enumerates_of_findable (hne : devices.Nonempty) (hS : Findable beyond devices)
    (type : SearchType) (initial : UniqueId) :
    Enumerates beyond (.create type initial) devices := by
  obtain ⟨z, hz, hleast⟩ := exists_first eq_of_agree hne hS.root_not_fork (bit initial)
  have hmemiff := mem_iff_of_least eq_of_agree hz.mem (fun _ h => h) hleast fun _ h _ => h
  have hcard : devices.card = (behind bit 64 devices z).card + 1 :=
    card_of_least eq_of_agree hz.mem (fun _ h => h) hleast fun _ h _ => h
  obtain ⟨ids, c, hcalls, hdone, hnodup, hmem⟩ := calls_behind hS type _ rfl hz.mem
  have hcall : searchRom beyond (Bus.reset devices) (.create type initial)
      = (contextAt devices type z, true) :=
    searchRom_follows (c := .create type initial) hz hS rfl
  have hall : calls beyond devices devices.card (.create type initial)
      = ((z :: ids).map fun y => (true, y), c) := by
    rw [hcard, calls_succ rfl hcall, hcalls]
    rfl
  -- the first call finds the least of the ids, the others the rest
  have hids : ∀ y, y ∈ z :: ids ↔ y ∈ devices := by
    intro y
    rw [List.mem_cons, hmem]
    exact (hmemiff y).symm
  have hnodup' : (z :: ids).Nodup :=
    List.nodup_cons.mpr ⟨fun h => not_mem_behind_self z ((hmem z).mp h), hnodup⟩
  have hmap : ((z :: ids).map fun y => (true, y)).map Prod.snd = z :: ids := by
    simp [List.map_map, Function.comp_def]
  refine ⟨by rw [hall]; exact hdone, ?_, ?_, by rw [hall, hmap]; exact hnodup', fun y => ?_⟩
  · have hset : (z :: ids).toFinset = devices := by
      ext y
      rw [List.mem_toFinset, hids]
    rw [hall, List.length_map, ← List.toFinset_card_of_nodup hnodup', hset]
  · rw [hall]
    intro call hcallmem
    obtain ⟨y, -, rfl⟩ := List.mem_map.mp hcallmem
    rfl
  · rw [hall, hmap]
    exact hids y

/-! ### What is never reported -/

/-- **The rule for calls**: what every call keeps of the context, and what it then reports. -/
theorem calls_rule {P : SearchContext → Prop} {R : Bool × UniqueId → Prop}
    (hcall : ∀ c, P c → c.done = false →
      P (searchRom beyond (Bus.reset devices) c).1 ∧
        R ((searchRom beyond (Bus.reset devices) c).2,
          (searchRom beyond (Bus.reset devices) c).1.lastId)) :
    ∀ (n : ℕ) (c : SearchContext), P c → ∀ call ∈ (calls beyond devices n c).1, R call := by
  intro n
  induction n with
  | zero => intro c _ call h; cases h
  | succ n ih =>
    intro c hc call h
    -- a search that is done makes no further call
    cases hdone : c.done with
    | true =>
      rw [calls, if_pos hdone] at h
      cases h
    | false =>
      obtain ⟨hP, hR⟩ := hcall c hc hdone
      rw [calls_succ hdone rfl] at h
      rcases List.mem_cons.mp h with rfl | h
      · exact hR
      · exact ih _ hP call h

/-- What a call returns and the id behind it, read off its loop. -/
theorem searchRom_rule {I : ℕ → Search → Prop} {R : Bool × UniqueId → Prop} {c : SearchContext}
    (hdone : c.done = false) (hinit : I 0 ⟨Bus.reset devices, c, 0⟩)
    (hturn : ∀ i s s', i < 64 → I i s → turn beyond s i = .ok s' → I (i + 1) s')
    (hend : ∀ s, I 64 s → R (true, s.context.lastId))
    (hbreak : ∀ i s, i < 64 → I i s → s.bus.read = 3 → R (false, s.context.lastId)) :
    R ((searchRom beyond (Bus.reset devices) c).2,
      (searchRom beyond (Bus.reset devices) c).1.lastId) := by
  rw [searchRom, if_neg (by simp [hdone])]
  rcases loop_rule hinit hturn with ⟨s, hs, hI⟩ | ⟨i, s, hi, hs, hI, hread⟩
  · rw [hs]
    exact hend s hI
  · rw [hs]
    exact hbreak i s hi hI hread

/-- What a turn does to the context: it stores a bit at its index or nothing. -/
theorem turn_context {s s' : Search} {i : ℕ} (h : turn beyond s i = .ok s') :
    (∃ v, s'.context = s.context.setBit beyond i v) ∨ s'.context = s.context := by
  unfold turn at h
  split at h
  · cases h
  · have hs' := Except.ok.inj h
    rw [← hs']
    show (∃ v, (choose beyond i s).context = _) ∨ (choose beyond i s).context = _
    unfold choose
    dsimp only
    split
    · exact Or.inl ⟨_, rfl⟩
    · split
      · exact Or.inl ⟨true, rfl⟩
      · split
        · exact Or.inl ⟨false, rfl⟩
        · split
          · exact Or.inr rfl
          · exact Or.inr rfl

/-- The bus after a turn. -/
theorem turn_bus {s s' : Search} {i : ℕ} (h : turn beyond s i = .ok s') :
    s'.bus.position = s.bus.position + 1 ∧ ∀ x ∈ s'.bus.selected, x ∈ s.bus.selected := by
  -- the choice leaves the bus alone
  have hchoose : (choose beyond i s).bus = s.bus := by
    unfold choose
    dsimp only
    split
    · rfl
    · split
      · rfl
      · split
        · rfl
        · split <;> rfl
  unfold turn at h
  split at h
  · cases h
  · have hs' := Except.ok.inj h
    rw [← hs']
    dsimp only
    rw [hchoose]
    exact ⟨rfl, fun x hx => (Finset.mem_filter.mp hx).1⟩

/-- The upper half of the context's id stays empty. -/
theorem high_setBit {c : SearchContext} (hc : ∀ j, 32 ≤ j → bit c.lastId j = false) (i : ℕ)
    (v : Bool) : ∀ j, 32 ≤ j → bit (c.setBit beyond i v).lastId j = false := by
  intro j hj
  cases v with
  | true => rw [bit_setBit_true, hc j hj, BitVec.getLsbD_of_ge _ _ hj]; rfl
  | false => rw [bit_setBit_false, hc j hj]; rfl

/-- **Reported ids fit in 32 bits**, when the memory was clear. -/
theorem low_of_reported {c : SearchContext} (hc : ∀ j, 32 ≤ j → bit c.lastId j = false) (n : ℕ) :
    ∀ call ∈ (calls beyond devices n c).1, ∀ j, 32 ≤ j → bit call.2 j = false := by
  have hcall : ∀ c : SearchContext, (∀ j, 32 ≤ j → bit c.lastId j = false) → c.done = false →
      ∀ j, 32 ≤ j → bit (searchRom beyond (Bus.reset devices) c).1.lastId j = false := by
    intro c hc hdone
    refine searchRom_rule (I := fun _ s => ∀ j, 32 ≤ j → bit s.context.lastId j = false)
      (R := fun call => ∀ j, 32 ≤ j → bit call.2 j = false) hdone hc (fun i s s' _ hI h => ?_)
      (fun _ hI => hI) (fun _ _ _ hI _ => hI)
    rcases turn_context h with ⟨v, hv⟩ | hv
    · rw [hv]
      exact high_setBit hI i v
    · rw [hv]
      exact hI
  exact calls_rule (P := fun c => ∀ j, 32 ≤ j → bit c.lastId j = false)
    (R := fun call => ∀ j, 32 ≤ j → bit call.2 j = false)
    (fun c hc hdone => ⟨hcall c hc hdone, hcall c hc hdone⟩) n c hc

/-- The turns of the upper half have cleared what their shifts give. -/
structure Cleared (beyond : ℕ → BitVec 32) (devices : Finset UniqueId) (n : ℕ) (s : Search) :
    Prop where
  position : s.bus.position = n
  selected : ∀ x ∈ s.bus.selected, x ∈ devices
  cleared : ∀ i, 32 ≤ i → i < n → ∀ j, (bit s.context.lastId j && (beyond i).getLsbD j) = false

theorem Cleared.turn {s s' : Search} {n : ℕ} (hs : Cleared beyond devices n s)
    (hlow : ∀ x ∈ devices, x.toNat < 2 ^ 32) (h : turn beyond s n = .ok s') :
    Cleared beyond devices (n + 1) s' := by
  -- what the turn does to the bus, and what it writes into the context
  obtain ⟨hposition, hselected⟩ := turn_bus h
  refine ⟨by rw [hposition, hs.position], fun x hx => hs.selected x (hselected x hx), ?_⟩
  intro i hi hin j
  have hn : 32 ≤ n := by omega
  have hread : s.bus.read ≠ 3 := by
    intro hread
    rw [OneWire.turn, if_pos hread] at h
    cases h
  -- no device sends a one, and one of them answers
  have hzero : ∀ x ∈ s.bus.selected, bit x s.bus.position = false := fun x hx =>
    bit_of_low (hlow x (hs.selected x hx)) (hs.position ▸ hn)
  have hnonempty : s.bus.selected.Nonempty := by
    by_contra hempty
    rw [Finset.not_nonempty_iff_eq_empty] at hempty
    refine hread ?_
    have hslot : ∀ sent, s.bus.slot sent = true := fun sent =>
      slot_eq_true_iff.mpr fun x hx => absurd (hempty ▸ hx) (Finset.notMem_empty x)
    simp [Bus.read, hslot]
  have hcontext : s'.context = s.context.setBit beyond n false := by
    rw [OneWire.turn, if_neg hread, choose_of_read (read_of_forall hnonempty hzero)] at h
    exact congrArg Search.context (Except.ok.inj h).symm
  have hshift : shiftOne beyond n = beyond n := if_neg (by omega)
  rw [hcontext, bit_setBit_false, hshift]
  -- a shift of an earlier turn, or the one of this turn
  rcases (Nat.le_of_lt_succ hin).lt_or_eq with hlt | rfl
  · have hbefore := hs.cleared i hi hlt j
    cases hbit : (beyond i).getLsbD j with
    | false => simp
    | true =>
      rw [hbit, Bool.and_true] at hbefore
      simp [hbefore]
  · cases (beyond i).getLsbD j with
    | false => simp
    | true => simp

/-- The shifts beyond 32 bits give no bit of the id. -/
def Spared (beyond : ℕ → BitVec 32) (x : UniqueId) : Prop :=
  ∀ i, 32 ≤ i → i < 64 → ∀ j, (bit x j && (beyond i).getLsbD j) = false

/-- **Reported ids are spared by the shifts beyond 32 bits.** -/
theorem spared_of_reported (hlow : ∀ x ∈ devices, x.toNat < 2 ^ 32) (n : ℕ) (c : SearchContext) :
    ∀ call ∈ (calls beyond devices n c).1, call.1 = true → Spared beyond call.2 := by
  refine calls_rule (P := fun _ => True) (R := fun call => call.1 = true → Spared beyond call.2)
    (fun c _ hdone => ⟨trivial, ?_⟩) n c trivial
  refine searchRom_rule (I := Cleared beyond devices)
    (R := fun call => call.1 = true → Spared beyond call.2) hdone ?_
    (fun i s s' _ hI h => hI.turn hlow h) (fun s hI _ => hI.cleared) (fun _ _ _ _ _ h => ?_)
  · exact ⟨rfl, fun x hx => hx, fun i hi hlt => by omega⟩
  · cases h

/-- Bit zero of the context's id, once it is a one, stays. -/
theorem one_setBit {c : SearchContext} (hc : bit c.lastId 0 = true) {i : ℕ} (hi : 0 < i)
    (hbeyond : 32 ≤ i → (beyond i).getLsbD 0 = false) (v : Bool) :
    bit (c.setBit beyond i v).lastId 0 = true := by
  by_cases hlow : i < 32
  · rw [bit_setBit_low hlow v (by decide), if_neg (by omega), hc]
  · have hshift : shiftOne beyond i = beyond i := if_neg hlow
    cases v with
    | true => rw [bit_setBit_true, hc]; rfl
    | false => rw [bit_setBit_false, hc, hshift, hbeyond (by omega)]; rfl

/-- The bus and the context of a call on a bus with both bits at index zero. -/
def Rooted (devices : Finset UniqueId) (i : ℕ) (s : Search) : Prop :=
  (i = 0 → s.bus = Bus.reset devices ∧ (s.context.lastFork = 0 ∨ bit s.context.lastId 0 = true)) ∧
    (0 < i → bit s.context.lastId 0 = true)

theorem Rooted.turn {x y : UniqueId} (hx : x ∈ devices) (hy : y ∈ devices)
    (hne : bit y 0 ≠ bit x 0) (hbeyond : ∀ i, 32 ≤ i → i < 64 → (beyond i).getLsbD 0 = false)
    {i : ℕ} (hi : i < 64) {s s' : Search} (hs : Rooted devices i s)
    (h : turn beyond s i = .ok s') : Rooted devices (i + 1) s' := by
  refine ⟨fun hzero => by omega, fun _ => ?_⟩
  rcases Nat.eq_zero_or_pos i with rfl | hpos
  · -- the first call takes the one because no fork is fork zero, and the later ones keep it
    obtain ⟨hbus, hroot⟩ := hs.1 rfl
    have hread : s.bus.read = 0 := by
      rw [hbus]
      exact read_of_both hx hy hne
    rw [OneWire.turn, if_neg (by rw [hread]; decide), choose_of_collision hread] at h
    have hs' := Except.ok.inj h
    rw [← hs']
    show bit (SearchContext.lastId (Search.context (ite _ _ _))) 0 = true
    by_cases hfork : 0 = s.context.lastFork
    · rw [if_pos hfork, bit_setBit_low (by decide) true (by decide), if_pos rfl]
    · have hone := hroot.resolve_left (fun h => hfork h.symm)
      rw [if_neg hfork, if_neg (Nat.not_lt_zero _), getBit_eq (by decide), hone]
      exact hone
  -- above the root the bit zero is never written again
  · rcases turn_context h with ⟨v, hv⟩ | hv
    · rw [hv]
      exact one_setBit (hs.2 hpos) hpos (fun hge => hbeyond i hge hi) v
    · rw [hv]
      exact hs.2 hpos

/-- **On a bus with both bits at index zero only ids with a one there are reported.** -/
theorem one_of_reported {x y : UniqueId} (hx : x ∈ devices) (hy : y ∈ devices)
    (hne : bit y 0 ≠ bit x 0) (hbeyond : ∀ i, 32 ≤ i → i < 64 → (beyond i).getLsbD 0 = false)
    (type : SearchType) (initial : UniqueId) (n : ℕ) :
    ∀ call ∈ (calls beyond devices n (.create type initial)).1, bit call.2 0 = true := by
  refine calls_rule (P := fun c => c.lastFork = 0 ∨ bit c.lastId 0 = true)
    (R := fun call => bit call.2 0 = true) (fun c hc hdone => ?_) n _ (Or.inl rfl)
  have hone : bit (searchRom beyond (Bus.reset devices) c).1.lastId 0 = true := by
    refine searchRom_rule (I := Rooted devices) (R := fun call => bit call.2 0 = true) hdone
      ⟨fun _ => ⟨rfl, hc⟩, fun h => absurd h (lt_irrefl 0)⟩
      (fun i s s' hi hI h => hI.turn hx hy hne hbeyond hi h) (fun s hI => hI.2 (by decide)) ?_
    intro i s _ hI hread
    refine hI.2 (Nat.pos_of_ne_zero fun hzero => ?_)
    rw [(hI.1 hzero).1, read_of_both hx hy hne] at hread
    cases hread
  exact ⟨Or.inr hone, hone⟩

/-- **A complete search has findable ids**, when the memory was clear. -/
theorem findable_of_enumerates {type : SearchType}
    (h : Enumerates beyond (.create type 0#64) devices) : Findable beyond devices := by
  have hreported : ∀ x ∈ devices,
      (true, x) ∈ (calls beyond devices devices.card (.create type 0#64)).1 := by
    -- every id of the set stands in some report
    intro x hx
    obtain ⟨⟨result, x'⟩, hmem, rfl⟩ := List.mem_map.mp ((h.members x).mpr hx)
    rw [show result = true from h.returned _ hmem] at hmem
    exact hmem
  have hlow : ∀ x ∈ devices, x.toNat < 2 ^ 32 := by
    intro x hx
    refine Nat.lt_pow_two_of_testBit _ fun j hj => ?_
    have hzero : ∀ j, 32 ≤ j → bit (SearchContext.create type 0#64).lastId j = false :=
      fun j _ => BitVec.getLsbD_zero
    exact low_of_reported hzero _ _ (hreported x hx) j hj
  have hspared : ∀ x ∈ devices, Spared beyond x :=
    fun x hx => spared_of_reported hlow _ _ _ (hreported x hx) rfl
  -- of two ids that differ in bit zero the one with the zero is not reported
  have hroot : ∀ x ∈ devices, ∀ y ∈ devices, bit x 0 = false → bit y 0 = true → False := by
    intro x hx y hy hzero hone
    have hbeyond : ∀ i, 32 ≤ i → i < 64 → (beyond i).getLsbD 0 = false := by
      intro i hi hi'
      have := hspared y hy i hi hi' 0
      rwa [hone, Bool.true_and] at this
    have hxone : bit x 0 = true := one_of_reported hx hy (by rw [hzero, hone]; decide) hbeyond type
      0#64 _ _ (hreported x hx)
    rw [hxone] at hzero
    cases hzero
  refine ⟨hlow, fun x hx i hi hi' => BitVec.eq_of_getLsbD_eq fun j hj => ?_, fun x hx y hy => ?_⟩
  · rw [BitVec.getLsbD_and, BitVec.getLsbD_setWidth, decide_eq_true hj, Bool.true_and,
      BitVec.getLsbD_zero]
    exact hspared x hx i hi hi' j
  -- two ids that differ in bit zero would make fork zero
  · show bit x 0 = bit y 0
    cases hxbit : bit x 0 with
    | false =>
      cases hybit : bit y 0 with
      | false => rfl
      | true => exact (hroot x hx y hy hxbit hybit).elim
    | true =>
      cases hybit : bit y 0 with
      | false => exact (hroot y hy x hx hybit hxbit).elim
      | true => rfl

/-- **The sets of ids that a search finds.**  Whatever the memory of the new context held,
the search is complete exactly when the ids fit in 32 bits, are spared by what the
machine gives for the shifts beyond, and agree in bit zero. -/
theorem enumerates_iff (beyond : ℕ → BitVec 32) (type : SearchType) {devices : Finset UniqueId}
    (hne : devices.Nonempty) :
    (∀ initial, Enumerates beyond (.create type initial) devices) ↔ Findable beyond devices :=
  ⟨fun h => findable_of_enumerates (h 0#64), fun hS initial =>
    enumerates_of_findable hne hS type initial⟩

end Calls

/-! ### Three buses -/

/-- Two devices whose ids fit in 32 bits and agree in bit zero are found, on a machine whose
shifts beyond 32 bits give zero. -/
theorem enumerates_two : Findable (fun _ => 0#32) {0x28#64, 0x1028#64} ∧
    ∀ initial, Enumerates (fun _ => 0#32) (.create .normal initial) {0x28#64, 0x1028#64} := by
  have hfindable : Findable (fun _ => 0#32) {0x28#64, 0x1028#64} := by
    refine ⟨by simp, fun x _ i _ _ => by simp, by simp⟩
  exact ⟨hfindable, (enumerates_iff _ .normal ⟨0x28#64, by simp⟩).mpr hfindable⟩

/-- A device whose id has a bit in the upper half is not found, nor are two devices that
differ in bit zero, whatever the machine gives for the shifts beyond 32 bits. -/
theorem not_enumerated :
    (∀ beyond, ¬ Enumerates beyond (.create .normal 0#64) {0x100000028#64}) ∧
      ∀ beyond, ¬ Enumerates beyond (.create .normal 0#64) {0x28#64, 0x29#64} := by
  refine ⟨fun beyond h => ?_, fun beyond h => ?_⟩
  · have hlow := (findable_of_enumerates h).low 0x100000028#64 (by simp)
    exact absurd hlow (by decide)
  · have hroot := (findable_of_enumerates h).root 0x28#64 (by simp) 0x29#64 (by simp)
    exact absurd hroot (by decide)

end OneWire
end HomeAutomation
