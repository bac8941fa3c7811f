import Mathlib.Data.Finset.Basic
import Mathlib.Data.Finset.Filter
import Mathlib.Data.Fintype.Card

/-!
# The search of a 1-Wire session

`Session::search_rom` finds one device of the bus with each call.  For each of the 64
bits of the ids it reads the bit and its complement from all devices that are still
selected and writes the bit it goes on with; the devices with the other bit fall silent.
Where both bits are on the bus, the context of the search decides: its id of the call
before, and the last index where that call took the zero.

The bus is ideal: a read returns the conjunction of what the selected devices send, a
written bit deselects those with the other bit, and a reset selects all.

The context gets and sets the bits of its 64-bit id through `1u << index`, a shift of 32
bits.  For an index of 32 or more the language gives it no value; what the machine gives
is the parameter `beyond`.  The id of a new context is not initialised.

## Main definitions

* `SearchContext`, `getBit`, `setBit` — the context.
* `Bus` — the ideal bus.
* `turn`, `searchRom` — the search.
* `calls` — calls until the context is done.

## References

`firmware/ti/onewire/Session.cpp`, `firmware/ti/include/onewire/onewire.h`.
-/

namespace HomeAutomation
namespace OneWire

/-- `UniqueId`. -/
abbrev UniqueId := BitVec 64

/-! ### The context -/

inductive SearchType
  | normal
  | alarm
  deriving DecidableEq

structure SearchContext where
  type : SearchType
  lastId : UniqueId
  done : Bool
  lastFork : ℕ

/-- The constructor, which leaves the id as the memory happens to be. -/
def SearchContext.create (type : SearchType) (lastId : UniqueId) : SearchContext :=
  ⟨type, lastId, false, 0⟩

variable (beyond : ℕ → BitVec 32)

/-- `1u << index`. -/
def shiftOne (index : ℕ) : BitVec 32 := if index < 32 then 1#32 <<< index else beyond index

namespace SearchContext

/-- `get_bit`. -/
def getBit (c : SearchContext) (index : ℕ) : Bool :=
  c.lastId &&& (shiftOne beyond index).setWidth 64 ≠ 0#64

/-- `set_bit`.  The complement is taken of 32 bits and widened with zeros. -/
def setBit (c : SearchContext) (index : ℕ) (value : Bool) : SearchContext :=
  if value then { c with lastId := c.lastId ||| (shiftOne beyond index).setWidth 64 }
  else { c with lastId := c.lastId &&& (~~~(shiftOne beyond index)).setWidth 64 }

end SearchContext

/-! ### The bus -/

/-- The devices that are still selected, and the index of the bit they are at. -/
structure Bus where
  selected : Finset UniqueId
  position : ℕ

namespace Bus

/-- After a reset and the search command.  The devices are those that take part: all for
`SEARCH_ROM`, and those with an alarm for `ALARM_SEARCH`. -/
def reset (devices : Finset UniqueId) : Bus := ⟨devices, 0⟩

/-- One bit read: a selected device that sends a zero pulls the bus down. -/
def slot (b : Bus) (sent : UniqueId → Bool) : Bool :=
  (b.selected.filter fun x => sent x = false) = ∅

/-- `read(2)`: the bit and its complement. -/
def read (b : Bus) : ℕ :=
  (if b.slot fun x => x.getLsbD b.position then 1 else 0) +
    if b.slot fun x => !x.getLsbD b.position then 2 else 0

/-- `write(bit, 1)`. -/
def write (b : Bus) (bit : Bool) : Bus :=
  ⟨b.selected.filter fun x => x.getLsbD b.position = bit, b.position + 1⟩

end Bus

/-! ### The search -/

/-- The bus and the variables of `search_rom`. -/
structure Search where
  bus : Bus
  context : SearchContext
  nextFork : ℕ

/-- The choice of the bit at an index. -/
def choose (index : ℕ) (s : Search) : Search :=
  let value := s.bus.read &&& 1 ≠ 0
  let complement := s.bus.read &&& 2 ≠ 0
  if value ∨ complement then { s with context := s.context.setBit beyond index value }
  else if index = s.context.lastFork then { s with context := s.context.setBit beyond index true }
  else if index > s.context.lastFork then
    { s with context := s.context.setBit beyond index false, nextFork := index }
  else if !s.context.getBit beyond index then { s with nextFork := index }
  else s

/-- One turn of the loop; no device answers in the error case. -/
def turn (s : Search) (index : ℕ) : Except Search Search :=
  if s.bus.read = 3 then .error s
  else
    let s := choose beyond index s
    .ok { s with bus := s.bus.write (s.context.getBit beyond index) }

/-- `search_rom`. -/
def searchRom (bus : Bus) (context : SearchContext) : SearchContext × Bool :=
  if context.done then (context, false)
  else
    match (List.range 64).foldlM (turn beyond) ⟨bus, context, 0⟩ with
    | .error s => (s.context, false)
    | .ok s => ({ s.context with lastFork := s.nextFork, done := s.nextFork = 0 }, true)

/-- Calls of `search_rom`, each after a reset, until the context is done, at most `n`:
what each call returns, the id after it, and the context behind. -/
def calls (devices : Finset UniqueId) : ℕ → SearchContext → List (Bool × UniqueId) × SearchContext
  | 0, c => ([], c)
  | n + 1, c =>
    if c.done then ([], c)
    else
      let r := searchRom beyond (Bus.reset devices) c
      let rest := calls devices n r.1
      ((r.2, r.1.lastId) :: rest.1, rest.2)

/-- **The search is complete**: as many calls as there are devices make the context done,
each returns true, and the ids after them are those of the devices, each once. -/
structure Enumerates (c : SearchContext) (devices : Finset UniqueId) : Prop where
  done : (calls beyond devices devices.card c).2.done = true
  count : (calls beyond devices devices.card c).1.length = devices.card
  returned : ∀ call ∈ (calls beyond devices devices.card c).1, call.1 = true
  once : ((calls beyond devices devices.card c).1.map Prod.snd).Nodup
  members : ∀ x, x ∈ (calls beyond devices devices.card c).1.map Prod.snd ↔ x ∈ devices

end OneWire
end HomeAutomation
