import Mathlib.Data.List.GetD
import Mathlib.Data.List.TakeWhile
import HomeAutomation.Node.Requests

/-!
# Serial numbers

A serial number of sixteen bytes does not fit into a frame, so a client asks for its two
halves and puts them together.  The halves come in any order, may come more than once, and
may not come at all; the first one that does not come as it should ends the matter.

## Main definitions

* `SerialBuilder`, `SerialBuilder.handleResult` — the parts that have come.
* `assemble` — what the result is set to, for a sequence of parts.
* `firstPart` — the first part of its kind, before any that is missing or malformed.

## Main results

* `results_run` — what the builder has reported, whatever comes.
* `serial_assembled` — at most one report, of the first halves, in any order.
* `assemble_node` — the halves that a node sends.

## References

`common/source/client/Device.cpp`.
-/

namespace HomeAutomation

/-! ### The builder -/

/-- `SerialBuilder::Part`. -/
inductive Part
  | hi | lo
  deriving DecidableEq, Repr

/-- `Device::SerialNumber`. -/
abbrev SerialNumber := Fin 16 → UInt8

/-- `SerialBuilder`, and what its result was set to. -/
structure SerialBuilder where
  serial : SerialNumber := fun _ => 0
  hi : Bool := false
  lo : Bool := false
  complete : Bool := false
  results : List (Option SerialNumber) := []

/-- A part, or none when the query timed out. -/
abbrev PartResult := Part × Option (List UInt8)

namespace SerialBuilder

/-- `std::copy` of some bytes to a position of the serial number. -/
def copyTo (serial : SerialNumber) (pos : ℕ) (value : List UInt8) : SerialNumber :=
  fun i => if pos ≤ i ∧ i < pos + value.length then value.getD (i - pos) 0 else serial i

/-- The result is set, for good. -/
def notify (result : Option SerialNumber) (b : SerialBuilder) : SerialBuilder :=
  { b with results := b.results ++ [result], complete := true }

/-- The part is stored, when it is the first of its kind. -/
def store (part : Part) (value : List UInt8) (b : SerialBuilder) : SerialBuilder :=
  if part = .hi ∧ b.hi = false then
    { b with serial := copyTo b.serial 0 value, hi := true }
  else if part = .lo ∧ b.lo = false then
    { b with serial := copyTo b.serial 8 value, lo := true }
  else b

/-- `SerialBuilder::handle_result`. -/
def handleResult (part : Part) (value : Option (List UInt8)) (b : SerialBuilder) :
    SerialBuilder :=
  if b.complete then b
  else
    match value with
    | none => b.notify none
    | some value =>
      if value.length ≠ 8 then b.notify none
      else
        let b := b.store part value
        if b.hi && b.lo then b.notify (some b.serial) else b

/-- The results of both queries, one after the other. -/
def run (b : SerialBuilder) (parts : List PartResult) : SerialBuilder :=
  parts.foldl (fun b p => b.handleResult p.1 p.2) b

end SerialBuilder

/-- What the result is set to. -/
def assemble (parts : List PartResult) : List (Option SerialNumber) :=
  (SerialBuilder.run {} parts).results

/-- `Device::query_serial`: the addresses that are queried, `HA_CAN_Common_SerialHi` and
`HA_CAN_Common_SerialLo`, and the part that each of them is. -/
def querySerial : List (UInt16 × Part) := [(0x02, .hi), (0x03, .lo)]

/-! ### The parts that count -/

/-- A part that came as it should. -/
def wellFormed (p : PartResult) : Bool := p.2.any fun value => value.length = 8

/-- The first part of its kind, before any that is missing or malformed. -/
def firstPart (part : Part) (parts : List PartResult) : Option (List UInt8) :=
  ((parts.takeWhile wellFormed).find? fun p => p.1 = part).bind Prod.snd

/-- The serial number of two halves. -/
def ofHalves (hi lo : List UInt8) : SerialNumber := fun i => (hi ++ lo).getD i 0

theorem firstPart_nil (part : Part) : firstPart part [] = none := rfl

theorem firstPart_of_malformed {p : PartResult} (hp : wellFormed p = false) (part : Part)
    (parts : List PartResult) : firstPart part (p :: parts) = none := by
  rw [firstPart, List.takeWhile_cons_of_neg (by rw [hp]; decide)]
  rfl

theorem firstPart_cons (part : Part) (q : Part) {value : List UInt8} (hvalue : value.length = 8)
    (parts : List PartResult) :
    firstPart part ((q, some value) :: parts)
      = if q = part then some value else firstPart part parts := by
  have hwell : wellFormed (q, some value) = true := by simp [wellFormed, hvalue]
  rw [firstPart, List.takeWhile_cons_of_pos hwell, List.find?_cons]
  by_cases hq : q = part
  · rw [if_pos hq]
    simp [hq]
  · rw [if_neg hq]
    simp [hq, firstPart]

theorem length_firstPart {part : Part} {parts : List PartResult} {value : List UInt8}
    (h : firstPart part parts = some value) : value.length = 8 := by
  obtain ⟨⟨q, result⟩, hfind, hresult⟩ := Option.bind_eq_some_iff.mp h
  have hmem := List.mem_of_find?_eq_some hfind
  have hwell : wellFormed (q, result) = true := List.mem_takeWhile_imp hmem
  dsimp only at hresult
  rw [hresult] at hwell
  simpa [wellFormed] using hwell

/-! ### What the builder holds -/

/-- The parts that are held when one more came. -/
def hold (held : Part → Option (List UInt8)) (part : Part) (value : List UInt8) :
    Part → Option (List UInt8) :=
  fun q => if q = part then (held q).or (some value) else held q

/-- A builder holds some parts. -/
structure Holding (held : Part → Option (List UInt8)) (b : SerialBuilder) : Prop where
  hi_eq : b.hi = (held .hi).isSome
  lo_eq : b.lo = (held .lo).isSome
  length_eq : ∀ part value, held part = some value → value.length = 8
  serial_hi : ∀ value, held .hi = some value → ∀ i : Fin 16, i.val < 8 →
    b.serial i = value.getD i 0
  serial_lo : ∀ value, held .lo = some value → ∀ i : Fin 16, 8 ≤ i.val →
    b.serial i = value.getD (i - 8) 0

namespace Holding

variable {held : Part → Option (List UInt8)} {b : SerialBuilder}

/-- Both halves are the serial number. -/
theorem serial_eq (h : Holding held b) {hi lo : List UInt8} (hhi : held .hi = some hi)
    (hlo : held .lo = some lo) : b.serial = ofHalves hi lo := by
  have hlength := h.length_eq _ _ hhi
  funext i
  rw [ofHalves]
  by_cases hi8 : i.val < 8
  · rw [List.getD_append _ _ _ _ (by omega), h.serial_hi _ hhi i hi8]
  · rw [List.getD_append_right _ _ _ _ (by omega), hlength, h.serial_lo _ hlo i (by omega)]

/-- A part that is held already is no news. -/
theorem hold_of_held {part : Part} {old : List UInt8} (hold' : held part = some old)
    (value : List UInt8) : hold held part value = held := by
  funext q
  rw [hold]
  split
  · next hq => rw [hq, hold', Option.some_or]
  · rfl

/-- A builder that holds a part keeps it. -/
theorem store_of_held (h : Holding held b) {part : Part} {old : List UInt8}
    (hheld : held part = some old) (value : List UInt8) : b.store part value = b := by
  unfold SerialBuilder.store
  cases part with
  | hi => simp [h.hi_eq, hheld]
  | lo => simp [h.lo_eq, hheld]

/-- The first part of its kind is held. -/
theorem hold_self {part : Part} (hfree : held part = none) (value : List UInt8) :
    hold held part value part = some value := by
  rw [hold, if_pos rfl, hfree, Option.none_or]

/-- The other part is held as before. -/
theorem hold_other {part q : Part} (hq : q ≠ part) (value : List UInt8) :
    hold held part value q = held q := if_neg hq

theorem length_hold (h : Holding held b) {part : Part} (hfree : held part = none)
    {value : List UInt8} (hvalue : value.length = 8) (q : Part) (v : List UInt8)
    (hv : hold held part value q = some v) : v.length = 8 := by
  by_cases hq : q = part
  · rw [hq, hold_self hfree] at hv
    cases hv
    exact hvalue
  · rw [hold_other hq] at hv
    exact h.length_eq q v hv

/-- The high half goes to the first eight bytes. -/
theorem store_hi (h : Holding held b) (hfree : held .hi = none) {value : List UInt8}
    (hvalue : value.length = 8) : Holding (hold held .hi value) (b.store .hi value) := by
  have hstore : b.store .hi value
      = { b with serial := SerialBuilder.copyTo b.serial 0 value, hi := true } :=
    if_pos ⟨rfl, by rw [h.hi_eq, hfree, Option.isSome_none]⟩
  have hlo : hold held .hi value .lo = held .lo := hold_other (by decide) value
  rw [hstore]
  refine ⟨by rw [hold_self hfree]; rfl, by rw [hlo]; exact h.lo_eq, h.length_hold hfree hvalue,
    ?_, ?_⟩
  · intro v hv i hi
    obtain rfl := Option.some.inj ((hold_self hfree value).symm.trans hv)
    exact if_pos ⟨Nat.zero_le _, by omega⟩
  · intro v hv i hi
    rw [← h.serial_lo v (hlo.symm.trans hv) i hi]
    exact if_neg (by omega)

/-- The low half goes to the last eight bytes. -/
theorem store_lo (h : Holding held b) (hfree : held .lo = none) {value : List UInt8}
    (hvalue : value.length = 8) : Holding (hold held .lo value) (b.store .lo value) := by
  have hstore : b.store .lo value
      = { b with serial := SerialBuilder.copyTo b.serial 8 value, lo := true } :=
    (if_neg (by simp)).trans (if_pos ⟨rfl, by rw [h.lo_eq, hfree, Option.isSome_none]⟩)
  have hhi : hold held .lo value .hi = held .hi := hold_other (by decide) value
  rw [hstore]
  refine ⟨by rw [hhi]; exact h.hi_eq, by rw [hold_self hfree]; rfl, h.length_hold hfree hvalue,
    ?_, ?_⟩
  · intro v hv i hi
    rw [← h.serial_hi v (hhi.symm.trans hv) i hi]
    exact if_neg (by omega)
  · intro v hv i hi
    obtain rfl := Option.some.inj ((hold_self hfree value).symm.trans hv)
    exact if_pos ⟨hi, by omega⟩

/-- **One part more.** -/
theorem store (h : Holding held b) (part : Part) {value : List UInt8}
    (hvalue : value.length = 8) : Holding (hold held part value) (b.store part value) := by
  cases hheld : held part with
  | some old =>
    rw [hold_of_held hheld, h.store_of_held hheld]
    exact h
  | none =>
    cases part with
    | hi => exact h.store_hi hheld hvalue
    | lo => exact h.store_lo hheld hvalue

end Holding

/-- Storing a part reports nothing. -/
theorem store_eq (part : Part) (value : List UInt8) (b : SerialBuilder) :
    (b.store part value).complete = b.complete ∧ (b.store part value).results = b.results := by
  unfold SerialBuilder.store
  split_ifs <;> exact ⟨rfl, rfl⟩

/-! ### Runs -/

/-- A builder that has reported does nothing more. -/
theorem run_complete {b : SerialBuilder} (h : b.complete = true) (parts : List PartResult) :
    b.run parts = b := by
  induction parts with
  | nil => rfl
  | cons p parts ih =>
    have hsame : b.handleResult p.1 p.2 = b := if_pos h
    rw [SerialBuilder.run, List.foldl_cons, hsame]
    exact ih

/-- What is reported when some parts are held and others come. -/
def reports (held : Part → Option (List UInt8)) (parts : List PartResult) :
    List (Option SerialNumber) :=
  match (held .hi).or (firstPart .hi parts), (held .lo).or (firstPart .lo parts) with
  | some hi, some lo => [some (ofHalves hi lo)]
  | _, _ => if parts.all wellFormed then [] else [none]

/-- A part that is held counts like the first one to come. -/
theorem reports_cons (held : Part → Option (List UInt8)) (part : Part) {value : List UInt8}
    (hvalue : value.length = 8) (parts : List PartResult) :
    reports held ((part, some value) :: parts) = reports (hold held part value) parts := by
  have hfirst : ∀ q, (held q).or (firstPart q ((part, some value) :: parts))
      = (hold held part value q).or (firstPart q parts) := by
    intro q
    rw [firstPart_cons q part hvalue, hold]
    by_cases hq : part = q
    · rw [if_pos hq, if_pos hq.symm, Option.or_assoc, Option.some_or]
    · rw [if_neg hq, if_neg (Ne.symm hq)]
  have hwell : wellFormed (part, some value) = true := by simp [wellFormed, hvalue]
  rw [reports, reports, hfirst, hfirst, List.all_cons, hwell, Bool.true_and]

/-- As long as a half is missing, the next part decides. -/
theorem reports_of_missing {held : Part → Option (List UInt8)} {parts : List PartResult}
    (hpart : held .hi = none ∨ held .lo = none) (hfirst : ∀ part, firstPart part parts = none) :
    reports held parts = if parts.all wellFormed then [] else [none] := by
  rw [reports, hfirst, hfirst, Option.or_none, Option.or_none]
  obtain hnone | hnone := hpart
  · rw [hnone]
  · rw [hnone]
    cases held .hi with
    | none => rfl
    | some hi => rfl

/-- A missing or malformed part ends the matter. -/
theorem handleResult_malformed {b : SerialBuilder} (hcomplete : b.complete = false)
    {p : PartResult} (hp : wellFormed p = false) : b.handleResult p.1 p.2 = b.notify none := by
  obtain ⟨part, value⟩ := p
  unfold SerialBuilder.handleResult
  rw [if_neg (by rw [hcomplete]; decide)]
  cases value with
  | none => rfl
  | some value =>
    have hlength : value.length ≠ 8 := by simpa [wellFormed] using hp
    exact if_pos hlength

/-- A part as it should be is stored, and reported when it is the second. -/
theorem handleResult_wellFormed {b : SerialBuilder} (hcomplete : b.complete = false) (part : Part)
    {value : List UInt8} (hvalue : value.length = 8) :
    b.handleResult part (some value) =
      if (b.store part value).hi && (b.store part value).lo then
        (b.store part value).notify (some (b.store part value).serial)
      else b.store part value := by
  unfold SerialBuilder.handleResult
  rw [if_neg (by rw [hcomplete]; decide)]
  exact if_neg (not_not.mpr hvalue)

/-- **What a builder reports**, whatever comes: the parts it holds decide, and those that
come before the first missing or malformed one. -/
theorem results_run {held : Part → Option (List UInt8)} {b : SerialBuilder}
    (h : Holding held b) (hcomplete : b.complete = false) (hresults : b.results = [])
    (hpart : held .hi = none ∨ held .lo = none) (parts : List PartResult) :
    (b.run parts).results = reports held parts := by
  induction parts generalizing held b with
  | nil =>
    rw [reports_of_missing hpart firstPart_nil]
    exact hresults
  | cons p parts ih =>
    -- one result is taken, and the rest are taken by what it leaves
    have hstep : b.run (p :: parts) = (b.handleResult p.1 p.2).run parts := rfl
    rw [hstep]
    cases hp : wellFormed p with
    | false =>
      -- the part is missing or malformed, and nothing is reported any more
      have hreports : reports held (p :: parts) = [none] := by
        rw [reports_of_missing hpart fun part => firstPart_of_malformed hp part parts,
          List.all_cons, hp]
        rfl
      rw [handleResult_malformed hcomplete hp, run_complete rfl, hreports]
      exact congrArg (· ++ [none]) hresults
    | true =>
      obtain ⟨part, value⟩ := p
      obtain ⟨value, rfl, hvalue⟩ : ∃ v, value = some v ∧ v.length = 8 := by
        simpa [wellFormed, Option.any_eq_true] using hp
      -- the part is stored, in place of one that was there
      have hholding : Holding (hold held part value) (b.store part value) := h.store part hvalue
      obtain ⟨hkeep, hquiet⟩ := store_eq part value b
      rw [handleResult_wellFormed hcomplete part hvalue, reports_cons held part hvalue]
      cases hhi : hold held part value .hi with
      | none =>
        -- the other part is still missing
        have hincomplete : (b.store part value).hi = false := by rw [hholding.hi_eq, hhi]; rfl
        rw [hincomplete, Bool.false_and, if_neg Bool.false_ne_true]
        exact ih hholding (hkeep.trans hcomplete) (hquiet.trans hresults) (Or.inl hhi)
      | some hi =>
        cases hlo : hold held part value .lo with
        | none =>
          -- the other part is still missing
          have hincomplete : (b.store part value).lo = false := by rw [hholding.lo_eq, hlo]; rfl
          rw [hincomplete, Bool.and_false, if_neg Bool.false_ne_true]
          exact ih hholding (hkeep.trans hcomplete) (hquiet.trans hresults) (Or.inr hlo)
        | some lo =>
          -- both parts are there, and the number is reported
          have hboth : ((b.store part value).hi && (b.store part value).lo) = true := by
            rw [hholding.hi_eq, hholding.lo_eq, hhi, hlo]
            rfl
          have hreports : reports (hold held part value) parts = [some (ofHalves hi lo)] := by
            rw [reports, hhi, hlo, Option.some_or, Option.some_or]
          rw [if_pos hboth, run_complete rfl, hholding.serial_eq hhi hlo, hreports]
          exact congrArg (· ++ [some (ofHalves hi lo)]) (hquiet.trans hresults)

/-! ### What a client gets -/

/-- A new builder holds nothing. -/
theorem holding_nothing : Holding (fun _ => none) {} where
  hi_eq := rfl
  lo_eq := rfl
  length_eq _ _ h := by cases h
  serial_hi _ h := by cases h
  serial_lo _ h := by cases h

/-- **What the result is set to**, whatever comes. -/
theorem assemble_eq (parts : List PartResult) :
    assemble parts = reports (fun _ => none) parts :=
  results_run holding_nothing rfl rfl (Or.inl rfl) parts

/-- The bytes of two halves. -/
theorem ofFn_ofHalves {hi lo : List UInt8} (hhi : hi.length = 8) (hlo : lo.length = 8) :
    List.ofFn (ofHalves hi lo) = hi ++ lo := by
  refine List.ext_getElem (by simp [hhi, hlo]) fun i h _ => ?_
  rw [List.getElem_ofFn, ofHalves, List.getD_eq_getElem]

/-- The result is set to a serial number exactly when both halves came. -/
theorem some_mem_assemble_iff (parts : List PartResult) (serial : SerialNumber) :
    some serial ∈ assemble parts ↔ ∃ hi lo, firstPart .hi parts = some hi ∧
      firstPart .lo parts = some lo ∧ List.ofFn serial = hi ++ lo := by
  rw [assemble_eq, reports, Option.none_or, Option.none_or]
  cases hhi : firstPart .hi parts with
  -- a part is missing
  | none => cases hall : parts.all wellFormed <;> simp
  | some hi =>
    cases hlo : firstPart .lo parts with
    | none => cases hall : parts.all wellFormed <;> simp
    | some lo =>
      have hbytes := ofFn_ofHalves (length_firstPart hhi) (length_firstPart hlo)
      constructor
      · intro h
        obtain rfl := Option.some.inj (List.mem_singleton.mp h)
        exact ⟨hi, lo, rfl, rfl, hbytes⟩
      · rintro ⟨hi', lo', hhi', hlo', hserial⟩
        cases hhi'
        cases hlo'
        have heq : serial = ofHalves hi lo := List.ofFn_injective (hserial.trans hbytes.symm)
        rw [heq]
        exact List.mem_singleton_self _

/-- The first part of its kind depends on the parts of its kind only, as long as none is
missing or malformed. -/
theorem firstPart_eq_of_filter {parts : List PartResult} (hall : parts.all wellFormed = true)
    (part : Part) :
    firstPart part parts = (parts.filter fun p => p.1 = part).head?.bind Prod.snd := by
  rw [firstPart, List.takeWhile_eq_self_iff.mpr (List.all_eq_true.mp hall), List.head?_filter]

/-- **A serial number is put together as it should be**, whatever sequence of results the
two queries have: the result is set at most once; it is set to a value exactly when both
halves come before any part that is missing or malformed, and then to the first of each;
and the parts of one kind may come before, between and behind those of the other. -/
theorem serial_assembled (parts : List PartResult) :
    (assemble parts).length ≤ 1 ∧
      (∀ serial, some serial ∈ assemble parts ↔ ∃ hi lo, firstPart .hi parts = some hi ∧
        firstPart .lo parts = some lo ∧ List.ofFn serial = hi ++ lo) ∧
      ∀ others, parts.all wellFormed = true → others.all wellFormed = true →
        (∀ part, (parts.filter fun p => p.1 = part) = others.filter fun p => p.1 = part) →
        assemble parts = assemble others := by
  refine ⟨?_, some_mem_assemble_iff parts, ?_⟩
  · rw [assemble_eq, reports]
    split
    · exact Nat.le_refl 1
    · split
      · exact Nat.zero_le 1
      · exact Nat.le_refl 1
  · intro others hparts hothers hsame
    have hfirst : ∀ part, firstPart part parts = firstPart part others := by
      intro part
      rw [firstPart_eq_of_filter hparts, firstPart_eq_of_filter hothers, hsame]
    rw [assemble_eq, assemble_eq, reports, reports, hfirst, hfirst, hparts, hothers]

/-- The low half before the high one, and that once more. -/
theorem serial_assembled_swapped :
    assemble [(.hi, some [1, 2, 3, 4, 5, 6, 7, 8]), (.hi, some [0, 0, 0, 0, 0, 0, 0, 0]),
        (.lo, some [9, 10, 11, 12, 13, 14, 15, 16])]
      = assemble [(.lo, some [9, 10, 11, 12, 13, 14, 15, 16]),
        (.hi, some [1, 2, 3, 4, 5, 6, 7, 8]), (.hi, some [0, 0, 0, 0, 0, 0, 0, 0])] :=
  (serial_assembled _).2.2 _ rfl rfl fun part => by cases part <;> rfl

/-! ### The halves of a node -/

/-- The serial number of a node: its twelve bytes, the last one first. -/
def Inputs.serialNumber (inputs : Inputs) : SerialNumber :=
  ofHalves ([0, 0, 0, 0] ++ [11, 10, 9, 8].map inputs.serial)
    ([7, 6, 5, 4, 3, 2, 1, 0].map inputs.serial)

/-- What the two queries bring from a node. -/
def nodeParts (n : Node) (inputs : Inputs) : List PartResult :=
  querySerial.map fun query => (query.2, n.answer inputs query.1)

theorem nodeParts_eq (n : Node) (inputs : Inputs) :
    nodeParts n inputs = [(.hi, some ([0, 0, 0, 0] ++ [11, 10, 9, 8].map inputs.serial)),
      (.lo, some ([7, 6, 5, 4, 3, 2, 1, 0].map inputs.serial))] := rfl

/-- **The serial number of a node** comes to the client, in whichever order its halves
come. -/
theorem assemble_node (n : Node) (inputs : Inputs) :
    assemble (nodeParts n inputs) = [some inputs.serialNumber] ∧
      assemble (nodeParts n inputs).reverse = [some inputs.serialNumber] := by
  rw [nodeParts_eq, assemble_eq, assemble_eq]
  exact ⟨rfl, rfl⟩

end HomeAutomation
