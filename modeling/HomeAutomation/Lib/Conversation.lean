import Mathlib.Data.Fintype.Card

/-!
# Conversations over a shared wire

One master and any number of parties share a wire.  The master resets it, writes bits to
it and reads bits from it; what it does next may depend on what it has read.  In each slot
the wire is high when the master and all parties let it be, and every party hears it.

## Main definitions

* `Talk α` — what a master does, with the value it comes to.
* `Wire W`, `Talk.run` — a wire as its master sees it, and a conversation over it.
* `Talk.Unbroken` — conversations without a reset.
* `Party σ`, `Party.bus`, `Party.alone` — parties, all of a kind, and the wires that they make.
* `Party.Listens`, `Party.Silent` — parties that leave the wire alone while they hear certain
  bits, and states from which a party leaves it alone until the next reset.

## Main results

* `Talk.run_of_simulates` — **wires that answer alike** cannot be told apart.
* `Party.run_writeBits_bus` — what is written to parties that listen, each of them hears.
* `Party.run_bus_alone` — **among silent parties a party is as if it were alone.**
-/

namespace HomeAutomation

/-- What the master of a wire does. -/
inductive Talk (α : Type*)
  | done (a : α)
  /-- A reset, and whether somebody answered it. -/
  | reset (next : Bool → Talk α)
  | write (bit : Bool) (next : Talk α)
  | read (next : Bool → Talk α)

/-- A wire as its master sees it. -/
structure Wire (W : Type*) where
  reset : W → Bool × W
  write : Bool → W → W
  read : W → Bool × W

namespace Talk

section Monad

variable {α β : Type*}

/-- One conversation, and another that depends on what it has come to. -/
def bind (p : Talk α) (f : α → Talk β) : Talk β :=
  match p with
  | .done a => f a
  | .reset next => .reset fun b => (next b).bind f
  | .write bit next => .write bit (next.bind f)
  | .read next => .read fun b => (next b).bind f

instance : Monad Talk where
  pure := .done
  bind := .bind

@[simp] theorem pure_eq (a : α) : (pure a : Talk α) = .done a := rfl

end Monad

section Lawful

variable {α β : Type}

@[simp] theorem done_bind (a : α) (f : α → Talk β) : (Talk.done a >>= f) = f a := rfl

@[simp] theorem reset_bind (next : Bool → Talk α) (f : α → Talk β) :
    (Talk.reset next >>= f) = .reset fun b => next b >>= f := rfl

@[simp] theorem write_bind (bit : Bool) (next : Talk α) (f : α → Talk β) :
    (Talk.write bit next >>= f) = .write bit (next >>= f) := rfl

@[simp] theorem read_bind (next : Bool → Talk α) (f : α → Talk β) :
    (Talk.read next >>= f) = .read fun b => next b >>= f := rfl

end Lawful

instance : LawfulMonad Talk := LawfulMonad.mk' Talk
  (fun p => by
    induction p with
    | done a => rfl
    | reset next ih => exact congrArg Talk.reset (funext ih)
    | write bit next ih => exact congrArg (Talk.write bit) ih
    | read next ih => exact congrArg Talk.read (funext ih))
  (fun _ _ => rfl)
  (fun p f g => by
    induction p with
    | done a => rfl
    | reset next ih => exact congrArg Talk.reset (funext ih)
    | write bit next ih => exact congrArg (Talk.write bit) ih
    | read next ih => exact congrArg Talk.read (funext ih))

/-! ### Bits -/

/-- Bits are written, the first one first. -/
def writeBits : List Bool → Talk Unit
  | [] => .done ()
  | bit :: bits => .write bit (writeBits bits)

/-- So many bits are read. -/
def readBits : ℕ → Talk (List Bool)
  | 0 => .done []
  | n + 1 => .read fun bit => readBits n >>= fun bits => .done (bit :: bits)

theorem writeBits_append (bits rest : List Bool) :
    writeBits (bits ++ rest) = writeBits bits >>= fun _ => writeBits rest := by
  induction bits with
  | nil => rfl
  | cons bit bits ih => exact congrArg (Talk.write bit) ih

theorem readBits_add (m n : ℕ) : readBits (m + n)
    = readBits m >>= fun bits => readBits n >>= fun rest => .done (bits ++ rest) := by
  induction m with
  | zero =>
    rw [Nat.zero_add]
    exact (bind_pure (readBits n)).symm
  | succ m ih =>
    rw [Nat.succ_add, readBits, readBits, read_bind]
    refine congrArg Talk.read (funext fun bit => ?_)
    rw [ih, bind_assoc, bind_assoc]
    refine bind_congr fun bits => ?_
    rw [bind_assoc]
    rfl

/-- As many bits are read as one asks for. -/
theorem readBits_bind_congr {α : Type} {n : ℕ} {f g : List Bool → Talk α}
    (h : ∀ bits : List Bool, bits.length = n → f bits = g bits) :
    readBits n >>= f = readBits n >>= g := by
  induction n generalizing f g with
  | zero => exact h [] rfl
  | succ n ih =>
    rw [readBits, read_bind, read_bind]
    refine congrArg Talk.read (funext fun bit => ?_)
    rw [bind_assoc, bind_assoc]
    exact ih fun bits hbits => h (bit :: bits) (by rw [List.length_cons, hbits])

/-! ### Conversations over a wire -/

section Run

variable {α β : Type} {S T : Type*}

/-- A conversation over a wire: what it comes to, and the wire behind it. -/
def run (W : Wire S) : Talk α → S → α × S
  | .done a, s => (a, s)
  | .reset next, s => run W (next (W.reset s).1) (W.reset s).2
  | .write bit next, s => run W next (W.write bit s)
  | .read next, s => run W (next (W.read s).1) (W.read s).2

@[simp] theorem run_done (W : Wire S) (a : α) (s : S) : run W (.done a) s = (a, s) := rfl

@[simp] theorem run_reset (W : Wire S) (next : Bool → Talk α) (s : S) :
    run W (.reset next) s = run W (next (W.reset s).1) (W.reset s).2 := rfl

@[simp] theorem run_write (W : Wire S) (bit : Bool) (next : Talk α) (s : S) :
    run W (.write bit next) s = run W next (W.write bit s) := rfl

@[simp] theorem run_read (W : Wire S) (next : Bool → Talk α) (s : S) :
    run W (.read next) s = run W (next (W.read s).1) (W.read s).2 := rfl

/-- One conversation behind the other. -/
@[simp] theorem run_bind (W : Wire S) (p : Talk α) (f : α → Talk β) (s : S) :
    run W (p >>= f) s = run W (f (run W p s).1) (run W p s).2 := by
  induction p generalizing s with
  | done a => rfl
  | reset next ih => apply ih
  | write bit next ih => apply ih
  | read next ih => apply ih

theorem length_run_readBits (W : Wire S) (n : ℕ) (s : S) :
    ((readBits n).run W s).1.length = n := by
  induction n generalizing s with
  | zero => rfl
  | succ n ih =>
    rw [readBits, run_read, run_bind, run_done, List.length_cons, ih]

/-- A conversation without resets. -/
inductive Unbroken : Talk α → Prop
  | done (a : α) : Unbroken (.done a)
  | write {bit : Bool} {next : Talk α} : Unbroken next → Unbroken (.write bit next)
  | read {next : Bool → Talk α} : (∀ bit, Unbroken (next bit)) → Unbroken (.read next)

theorem Unbroken.bind {p : Talk α} {f : α → Talk β} (hp : Unbroken p) (hf : ∀ a, Unbroken (f a)) :
    Unbroken (p >>= f) := by
  induction hp with
  | done a => exact hf a
  | write _ ih => exact .write ih
  | read _ ih => exact .read ih

theorem unbroken_writeBits (bits : List Bool) : Unbroken (writeBits bits) := by
  induction bits with
  | nil => exact .done ()
  | cons bit bits ih => exact .write ih

theorem unbroken_readBits (n : ℕ) : Unbroken (readBits n) := by
  induction n with
  | zero => exact .done []
  | succ n ih => exact .read fun bit => ih.bind fun bits => .done (bit :: bits)

/-- **Wires that answer alike** cannot be told apart without a reset. -/
theorem run_of_simulates {A : Wire S} {B : Wire T} {R : S → T → Prop}
    (hwrite : ∀ bit s t, R s t → R (A.write bit s) (B.write bit t))
    (hread : ∀ s t, R s t → (A.read s).1 = (B.read t).1 ∧ R (A.read s).2 (B.read t).2)
    {p : Talk α} (hp : p.Unbroken) {s : S} {t : T} (h : R s t) :
    (run A p s).1 = (run B p t).1 ∧ R (run A p s).2 (run B p t).2 := by
  induction hp generalizing s t with
  | done a => exact ⟨rfl, h⟩
  | write _ ih => exact ih (hwrite _ s t h)
  | read _ ih =>
    rcases hread s t h with ⟨hbit, hnext⟩
    rw [run_read, run_read, hbit]
    exact ih _ hnext

end Run
end Talk

/-! ### Parties on a wire -/

/-- A party on a wire, in states `σ`. -/
structure Party (σ : Type*) where
  reset : σ → σ
  /-- Whether it lets the wire be high in the next slot. -/
  sends : σ → Bool
  /-- What becomes of it in a slot in which the wire is high, or low. -/
  hears : Bool → σ → σ

namespace Party

variable {σ : Type*} {ι : Type*} (P : Party σ)

/-- The wire of a single party. -/
def alone : Wire σ where
  reset s := (true, P.reset s)
  write bit s := P.hears (bit && P.sends s) s
  read s := (P.sends s, P.hears (P.sends s) s)

/-- The wire in a slot in which the master lets it be. -/
def level [Fintype ι] (d : ι → σ) : Bool := decide (∀ i, P.sends (d i) = true)

/-- The wire of many parties.  A reset is answered unless there are none. -/
def bus [Fintype ι] : Wire (ι → σ) where
  reset d := (decide (0 < Fintype.card ι), fun i => P.reset (d i))
  write bit d := fun i => P.hears (bit && P.level d) (d i)
  read d := (P.level d, fun i => P.hears (P.level d) (d i))

variable {P}

/-! ### Parties that listen -/

variable (P) in
/-- The party leaves the wire alone while it hears these bits. -/
def Listens : List Bool → σ → Prop
  | [], _ => True
  | bit :: bits, s => P.sends s = true ∧ Listens bits (P.hears bit s)

variable (P) in
/-- What becomes of a party that hears these bits. -/
def hearsAll (bits : List Bool) (s : σ) : σ := bits.foldl (fun s bit => P.hears bit s) s

theorem listens_append {bits rest : List Bool} {s : σ} :
    P.Listens (bits ++ rest) s ↔ P.Listens bits s ∧ P.Listens rest (P.hearsAll bits s) := by
  induction bits generalizing s with
  | nil => simp [Listens, hearsAll]
  | cons bit bits ih =>
    rw [List.cons_append, Listens, Listens, ih, and_assoc]
    rfl

theorem hearsAll_append (bits rest : List Bool) (s : σ) :
    P.hearsAll (bits ++ rest) s = P.hearsAll rest (P.hearsAll bits s) := List.foldl_append

theorem level_eq_true [Fintype ι] {d : ι → σ} (h : ∀ i, P.sends (d i) = true) :
    P.level d = true := decide_eq_true h

/-- **What is written to parties that listen, each of them hears.** -/
theorem run_writeBits_bus [Fintype ι] {bits : List Bool} {d : ι → σ}
    (h : ∀ i, P.Listens bits (d i)) :
    (Talk.writeBits bits).run P.bus d = ((), fun i => P.hearsAll bits (d i)) := by
  induction bits generalizing d with
  | nil => rfl
  | cons bit bits ih =>
    have hlevel : P.level d = true := level_eq_true fun i => (h i).1
    have hheard : P.bus.write bit d = fun i => P.hears bit (d i) := by
      unfold bus
      simp [hlevel]
    rw [Talk.writeBits, Talk.run_write, hheard, ih fun i => (h i).2]
    rfl

/-- The same for one party. -/
theorem run_writeBits_alone {bits : List Bool} {s : σ} (h : P.Listens bits s) :
    (Talk.writeBits bits).run P.alone s = ((), P.hearsAll bits s) := by
  induction bits generalizing s with
  | nil => rfl
  | cons bit bits ih =>
    have hheard : P.alone.write bit s = P.hears bit s := by
      unfold alone
      simp [h.1]
    rw [Talk.writeBits, Talk.run_write, hheard, ih h.2]
    rfl

/-! ### Silent parties -/

variable (P) in
/-- In these states a party leaves the wire alone, until the next reset. -/
structure Silent (Q : σ → Prop) : Prop where
  sends : ∀ s, Q s → P.sends s = true
  hears : ∀ s bit, Q s → Q (P.hears bit s)

section Alone

variable [Fintype ι] {Q : ι → σ → Prop} {i : ι}

theorem level_of_silent (hQ : ∀ j, P.Silent (Q j)) {d : ι → σ} (hd : ∀ j ≠ i, Q j (d j)) :
    P.level d = P.sends (d i) := by
  cases hi : P.sends (d i) with
  | false => exact decide_eq_false fun h => by simp [h i] at hi
  | true =>
    apply level_eq_true
    intro j
    by_cases hj : j = i
    · rw [hj, hi]
    · exact (hQ j).sends _ (hd j hj)

/-- **Among silent parties a party is as if it were alone**: the master comes to the same
value, and the party to the same state. -/
theorem run_bus_alone {α : Type} (hQ : ∀ j, P.Silent (Q j)) {d : ι → σ}
    (hd : ∀ j ≠ i, Q j (d j)) {p : Talk α} (hp : p.Unbroken) :
    (p.run P.bus d).1 = (p.run P.alone (d i)).1 ∧
      (p.run P.bus d).2 i = (p.run P.alone (d i)).2 ∧ ∀ j ≠ i, Q j ((p.run P.bus d).2 j) := by
  refine Talk.run_of_simulates
    (R := fun (d : ι → σ) s => d i = s ∧ ∀ j ≠ i, Q j (d j)) ?_ ?_ hp ⟨rfl, hd⟩
  · rintro bit d s ⟨rfl, hd⟩
    have hlevel := level_of_silent hQ hd
    refine ⟨?_, fun j hj => (hQ j).hears _ _ (hd j hj)⟩
    exact congrArg (fun level => P.hears (bit && level) (d i)) hlevel
  · rintro d s ⟨rfl, hd⟩
    have hlevel := level_of_silent hQ hd
    refine ⟨hlevel, ?_, fun j hj => (hQ j).hears _ _ (hd j hj)⟩
    exact congrArg (fun level => P.hears level (d i)) hlevel

end Alone
end Party
end HomeAutomation
