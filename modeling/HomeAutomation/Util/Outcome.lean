/-!
# How a call can end

A C++ call that does not return either throws or stops the program.  `Exception`
lists the exceptions of the standard library this code throws and catches,
with their texts; `Fault` lists the ways the program stops or loses its meaning.

`DH_VERIFY` of `util/Assert.h` is an `assert`: a failed check is `Fault.assertion`.
-/

namespace HomeAutomation

/-- Text, as `std::string` holds it: one character for each byte. -/
abbrev Text := List Char

/-- An exception that a caller may catch. -/
inductive Exception
  | invalidArgument (what : String)
  | rangeError (what : String)
  | runtimeError (what : String)
  | outOfRange (what : String)
  deriving DecidableEq, Repr

/-- An end of a call that no caller survives. -/
inductive Fault
  /-- A `DH_VERIFY` failed. -/
  | assertion
  /-- A null pointer was dereferenced. -/
  | nullDereference
  /-- A pointer was used that a function ended without returning. -/
  | missingReturn
  /-- A loop never ends. -/
  | divergence
  /-- An exception left the handler of an event. -/
  | uncaught
  /-- An array was read past its end. -/
  | outOfBounds
  deriving DecidableEq, Repr

/-- `DH_VERIFY(x)`. -/
def verify (x : Bool) : Except Fault Unit := if x then .ok () else .error .assertion

@[simp] theorem verify_true : verify true = .ok () := rfl

@[simp] theorem ok_bind {ε α β : Type} (a : α) (f : α → Except ε β) :
    ((.ok a : Except ε α) >>= f) = f a := rfl

@[simp] theorem error_bind {ε α β : Type} (e : ε) (f : α → Except ε β) :
    ((.error e : Except ε α) >>= f) = .error e := rfl

/-- A sequence of calls returns when each call of it does. -/
theorem bind_eq_ok_iff {ε α β : Type} {x : Except ε α} {f : α → Except ε β} {b : β} :
    (x >>= f) = .ok b ↔ ∃ a, x = .ok a ∧ f a = .ok b := by
  cases x with
  | error e =>
    constructor
    · intro h
      cases h
    · rintro ⟨a, h, -⟩
      cases h
  | ok a =>
    constructor
    · exact fun h => ⟨a, rfl, h⟩
    · rintro ⟨a', h, h'⟩
      cases h
      exact h'

/-- `catch (const std::range_error&)` around a call: nothing when it was thrown. -/
def catchRangeError {α : Type} : Except Fault (Except Exception α) → Except Fault (Option α)
  | .error f => .error f
  | .ok (.ok a) => .ok (some a)
  | .ok (.error (.rangeError _)) => .ok none
  | .ok (.error _) => .error .uncaught

theorem catchRangeError_eq_some_iff {α : Type} {x : Except Fault (Except Exception α)} {a : α} :
    catchRangeError x = .ok (some a) ↔ x = .ok (.ok a) := by
  unfold catchRangeError
  split <;> simp

theorem catchRangeError_eq_none_iff {α : Type} {x : Except Fault (Except Exception α)} :
    catchRangeError x = .ok none ↔ ∃ what, x = .ok (.error (.rangeError what)) := by
  unfold catchRangeError
  split <;> simp_all

end HomeAutomation
