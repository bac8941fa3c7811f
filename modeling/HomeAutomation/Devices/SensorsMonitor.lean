import Mathlib.Algebra.BigOperators.Group.List.Basic
import Mathlib.Algebra.Ring.Rat
import HomeAutomation.Lib.Dict
import HomeAutomation.Lib.Run
import HomeAutomation.Util.Outcome

/-!
# The sensors of a device

A thread of the monitor reads the thermometers one after the other and appends what they
say to their lists of samples; a timer calls `collect`, which takes the mean of every list.
Both work on the lists under a lock, so a block under the lock is one step.

The loop of `collect` clears the whole dictionary of lists while it goes through it.  So
it fails with the first sensor that has a sample, and the thread does not find the lists of
its sensors any more.

## Main definitions

* `SensorsMonitor` — the dictionaries of the monitor.
* `SensorsMonitor.create`, `SensorsMonitor.collect`, `SensorsMonitor.appendSample` — the
  constructor, the collector, and the block of the thread.
* `SensorsMonitor.step` — the runs of a monitor.
* `pendingOf` — the samples since the last call of `collect`.
* `SamplesKept` — a step loses no sample, and counts none twice.

## Main results

* `collect_pending` — `collect` fails when a sample waits for it.
* `samplesKept_iff` — a run loses no sample as long as none waits for `collect`, and no list
  fills.

## References

`devices/lib/pidev/monitor.py`, `devices/lib/pidev/flow.py`.
-/

namespace HomeAutomation
namespace Devices

/-- What the interpreter raises. -/
inductive PyError
  | attributeError | keyError | nameError | runtimeError | assertionError
  deriving DecidableEq, Repr

/-- The name of a sensor. -/
abbrev Name := Text

/-! ### Flow sensors -/

/-- `FlowSensor`. -/
structure FlowSensor where
  pin : ℤ
  prevTally : ℕ := 0
  tallyCounter : ℕ := 0
  deriving DecidableEq

namespace FlowSensor

/-- `_callback`. -/
def callback (s : FlowSensor) : FlowSensor := { s with tallyCounter := s.tallyCounter + 1 }

/-- `_count_passed`. -/
def countPassed (s : FlowSensor) : ℕ := s.tallyCounter - s.prevTally

/-- `get_litres`. -/
def getLitres (secondsPassed : ℚ) (s : FlowSensor) : ℚ :=
  if s.countPassed = 0 then 0 else (s.countPassed + 8 * secondsPassed) / 360

/-- The sensor after its tally was taken. -/
def counted (s : FlowSensor) : FlowSensor := { s with prevTally := s.tallyCounter }

end FlowSensor

/-! ### The monitor -/

/-- `Calorimeter`. -/
structure Calorimeter where
  tempHi : Name
  tempLo : Name
  flow : Name
  deriving DecidableEq

/-- `SensorsMonitor`: its dictionaries, whether there is a lock, and its thread. -/
structure SensorsMonitor where
  /-- The device ids of the thermometers. -/
  temp : Dict Name Text := ∅
  flow : Dict Name FlowSensor := ∅
  calorimeter : Dict Name Calorimeter := ∅
  tempResults : Dict Name (List ℚ) := ∅
  lock : Bool := false
  running : Bool := false
  /-- The thread was started, and has not ended. -/
  thread : Bool := false

/-- An item of the list of sensors: the fields that are read, where it has them, and the
number that `int` makes of its pin. -/
structure Item where
  name : Option Text := none
  type : Option Text := none
  deviceId : Option Text := none
  pin : Option ℤ := none
  tempHi : Option Name := none
  tempLo : Option Name := none
  flow : Option Name := none

/-- What `collect` returns. -/
structure Collected where
  temp : Dict Name ℚ := ∅
  flow : Dict Name ℚ := ∅
  consumption : Dict Name ℚ := ∅

namespace SensorsMonitor

/-! ### The constructor -/

/-- `_fill_temp`. -/
def fillTemp (name : Name) (item : Item) (m : SensorsMonitor) : Except PyError SensorsMonitor :=
  match item.deviceId with
  | none => .error .keyError
  | some deviceId =>
    if deviceId = [] then .ok m
    else if (m.temp.get name).isSome then .ok m
    else .ok { m with
      temp := m.temp.set name deviceId
      tempResults := m.tempResults.set name [] }

/-- `_fill_flow`. -/
def fillFlow (name : Name) (item : Item) (m : SensorsMonitor) : Except PyError SensorsMonitor :=
  match item.pin with
  | none => .ok m
  | some pin =>
    if (m.flow.get name).isSome then .ok m
    else .ok { m with flow := m.flow.set name ⟨pin, 0, 0⟩ }

/-- `_fill_calorimeter`.  The class `Calorimeter` is an attribute of the monitor, and is
looked for among the names of the module. -/
def fillCalorimeter (name : Name) (item : Item) (m : SensorsMonitor) :
    Except PyError SensorsMonitor :=
  match item.tempHi, item.tempLo, item.flow with
  | some tempHi, some tempLo, some flow =>
    if (m.temp.get tempHi).isNone || (m.temp.get tempLo).isNone || (m.flow.get flow).isNone then
      .ok m
    else if (m.calorimeter.get name).isSome then .ok m
    else .error .nameError
  | _, _, _ => .error .keyError

/-- The name of a sensor that has none: `'sensor%02d' % index`. -/
def sensorName (index : ℕ) : Name :=
  "sensor".toList ++ (if index < 10 then ['0'] else []) ++ Nat.toDigits 10 index

/-- A turn of the loop of `_fill`, by the type of the item. -/
def fillItem (name : Name) (item : Item) (m : SensorsMonitor) : Except PyError SensorsMonitor :=
  match item.type with
  | none => .error .keyError
  | some type =>
    if type = "temp".toList then m.fillTemp name item
    else if type = "flow".toList then m.fillFlow name item
    else if type = "calorimeter".toList then m.fillCalorimeter name item
    else .ok m

/-- `_fill`.  An item that is no dictionary is none. -/
def fill : List (Option Item) → ℕ → SensorsMonitor → Except PyError SensorsMonitor
  | [], _, m => .ok m
  | none :: items, index, m => fill items index m
  | some item :: items, index, m =>
    match item.name with
    | none => .error .keyError
    | some name =>
      let (name, index) := if name = [] then (sensorName index, index + 1) else (name, index)
      match m.fillItem name item with
      | .error e => .error e
      | .ok m => fill items index m

/-- The constructor.  What is empty or no list counts as the empty list: the monitor has no
lock then. -/
def create (sensors : List (Option Item)) : Except PyError SensorsMonitor :=
  if sensors = [] then .ok {}
  else (fill sensors 1 {}).map fun m => { m with lock := true }

/-! ### The collector -/

/-- `statistics.mean`, of a list that is not empty. -/
def mean (samples : List ℚ) : ℚ := samples.sum / samples.length

/-- A turn of the loop for the temperatures, on the lists of samples and the temperatures
so far. -/
def collectTurn (name : Name) (s : Dict Name (List ℚ) × Dict Name ℚ) :
    Option PyError × (Dict Name (List ℚ) × Dict Name ℚ) :=
  match s.1.get name with
  | none => (some .keyError, s)
  | some [] => (none, s)
  | some samples => (none, (∅, s.2.set name (mean samples)))

/-- The loop for the temperatures. -/
def collectTemps (tempResults : Dict Name (List ℚ)) :
    Option PyError × (Dict Name (List ℚ) × Dict Name ℚ) :=
  Dict.forKeys Prod.fst .runtimeError collectTurn tempResults.size tempResults.keys
    (tempResults, ∅)

/-- The loop for the consumption.  `logger` is no name of the module. -/
def collectConsumption (temps flows : Dict Name ℚ) :
    List (Name × Calorimeter) → Dict Name ℚ → Except PyError (Dict Name ℚ)
  | [], consumption => .ok consumption
  | (name, calorimeter) :: rest, consumption =>
    match temps.get calorimeter.tempHi, temps.get calorimeter.tempLo with
    | some tempHi, some tempLo =>
      if tempLo < -10 ∨ tempHi > 110 ∨ tempLo > tempHi then .error .nameError
      else
        match flows.get calorimeter.flow with
        | none => .error .keyError
        | some flow =>
          collectConsumption temps flows rest
            (consumption.set name (4185 * (tempHi - tempLo) * flow))
    | _, _ => collectConsumption temps flows rest consumption

/-- `collect`: what it returns or raises, and the monitor behind it. -/
def collect (secondsPassed : ℚ) (m : SensorsMonitor) :
    Except PyError Collected × SensorsMonitor :=
  let flows := m.flow.mapValues (FlowSensor.getLitres secondsPassed)
  let m := { m with flow := m.flow.mapValues FlowSensor.counted }
  if m.lock = false then (.error .attributeError, m)
  else
    let (raised, tempResults, temps) := collectTemps m.tempResults
    let m := { m with tempResults := tempResults }
    match raised with
    | some e => (.error e, m)
    | none =>
      match collectConsumption temps flows m.calorimeter.entries ∅ with
      | .error e => (.error e, m)
      | .ok consumption => (.ok ⟨temps, flows, consumption⟩, m)

/-! ### The thread -/

/-- The block of `_run` behind the reading of a sensor.  A list of samples has room for less
than `_temp_max_len`. -/
def appendSample (name : Name) (sample : Option ℚ) (m : SensorsMonitor) : SensorsMonitor :=
  if m.running = false then { m with thread := false }
  else
    match sample with
    | none => m
    | some temp =>
      match m.tempResults.get name with
      | none => { m with thread := false }
      | some samples =>
        let m := { m with tempResults := m.tempResults.set name (samples ++ [temp]) }
        if samples.length + 1 < 100 then m else { m with thread := false }

/-- `start`. -/
def start (m : SensorsMonitor) : SensorsMonitor :=
  if m.lock = false ∨ m.running = true then m else { m with running := true, thread := true }

/-- `stop`. -/
def stop (m : SensorsMonitor) : SensorsMonitor :=
  if m.lock = false ∨ m.running = false then m else { m with running := false, thread := false }

/-- What happens to a monitor. -/
inductive Event
  | start
  | stop
  /-- The thread has read one of its sensors. -/
  | sample (name : Name) (sample : Option ℚ)
  /-- The pin of a flow sensor rises. -/
  | pulse (name : Name)
  | collect (secondsPassed : ℚ)

/-- A step.  Only a thread that has not ended reads, and only its sensors. -/
def step (m : SensorsMonitor) : Event → Option SensorsMonitor
  | .start => some m.start
  | .stop => some m.stop
  | .sample name sample =>
    if m.thread = true ∧ (m.temp.get name).isSome = true then some (m.appendSample name sample)
    else none
  | .pulse name => (m.flow.get name).map fun s => { m with flow := m.flow.set name s.callback }
  | .collect secondsPassed => some (m.collect secondsPassed).2

/-! ### Samples -/

/-- One step more: a sample is appended, or `collect` takes what there is. -/
def note (pending : Name → List ℚ) (t : SensorsMonitor × Event × SensorsMonitor) :
    Name → List ℚ :=
  match t.2.1 with
  | .sample name (some temp) =>
    if t.1.running = true then Function.update pending name (pending name ++ [temp]) else pending
  | .collect _ => fun _ => []
  | _ => pending

/-- The samples that were appended since the last call of `collect`. -/
def pendingOf (steps : List (SensorsMonitor × Event × SensorsMonitor)) : Name → List ℚ :=
  steps.foldl note fun _ => []

/-- **A step loses no sample and counts none twice**: `collect` returns, with the mean of
what waits for it of each sensor that has anything, and leaves every sensor with an empty
list; and an append finds the list of its sensor with what waits, puts the sample behind it,
and the thread goes on. -/
def SamplesKept (pending : Name → List ℚ) (t : SensorsMonitor × Event × SensorsMonitor) : Prop :=
  match t.2.1 with
  | .collect secondsPassed => ∃ collected, (t.1.collect secondsPassed).1 = .ok collected ∧
      (∀ name, collected.temp.get name
        = if pending name = [] then none else some (mean (pending name))) ∧
      ∀ name, (t.1.temp.get name).isSome = true → t.2.2.tempResults.get name = some []
  | .sample name (some temp) => t.1.tempResults.get name = some (pending name) ∧
      t.2.2.tempResults.get name = some (pending name ++ [temp]) ∧ t.2.2.thread = true
  | _ => True

/-- The step is no call of `collect` of a monitor without a lock, or with a sample that
waits for it, and no sample that fills its list. -/
def Harmless (sensors : List (Option Item)) (pending : Name → List ℚ)
    (t : SensorsMonitor × Event × SensorsMonitor) : Prop :=
  match t.2.1 with
  | .collect _ => sensors ≠ [] ∧ ∀ name, pending name = []
  | .sample name (some _) => (pending name).length + 1 < 100
  | _ => True

/-! ### The loop for the temperatures -/

/-- Without samples the loop does nothing. -/
theorem collectTemps_nothing {tempResults : Dict Name (List ℚ)}
    (h : ∀ name samples, tempResults.get name = some samples → samples = []) :
    collectTemps tempResults = (none, (tempResults, ∅)) := by
  refine Dict.forKeys_of_skips (s := (tempResults, ∅)) fun name hname => ?_
  obtain ⟨samples, hsamples⟩ :=
    Option.isSome_iff_exists.mp ((tempResults.mem_keys_iff name).mp hname)
  obtain rfl := h name samples hsamples
  rw [collectTurn]
  dsimp only
  rw [hsamples]

/-- **The first sensor with a sample makes the loop fail**, and leaves no lists. -/
theorem collectTemps_pending {tempResults : Dict Name (List ℚ)} {name : Name} {samples : List ℚ}
    (hname : tempResults.get name = some samples) (hne : samples ≠ []) :
    ∃ temps, collectTemps tempResults = (some .runtimeError, (∅, temps)) := by
  have hmem : name ∈ tempResults.keys := (tempResults.mem_keys_iff name).mpr (by rw [hname]; rfl)
  -- the first sensor with a sample
  have hexists : ∃ k, tempResults.keys.find? (fun k => tempResults.get k ≠ some []) = some k := by
    refine Option.isSome_iff_exists.mp (List.find?_isSome.mpr ⟨name, hmem, ?_⟩)
    rw [hname, decide_eq_true_iff]
    exact fun h => hne (Option.some.inj h)
  obtain ⟨first, hfirst⟩ := hexists
  obtain ⟨hpending, before, after, hkeys, hbefore⟩ := List.find?_eq_some_iff_append.mp hfirst
  have hmemFirst : first ∈ tempResults.keys := List.mem_of_find?_eq_some hfirst
  obtain ⟨waiting, hwaiting⟩ :=
    Option.isSome_iff_exists.mp ((tempResults.mem_keys_iff first).mp hmemFirst)
  obtain ⟨temp, rest, rfl⟩ : ∃ temp rest, waiting = temp :: rest := by
    cases waiting with
    | nil =>
      rw [hwaiting] at hpending
      exact absurd rfl (of_decide_eq_true hpending)
    | cons temp rest => exact ⟨temp, rest, rfl⟩
  refine ⟨(∅ : Dict Name ℚ).set first (mean (temp :: rest)), ?_⟩
  rw [collectTemps, hkeys]
  refine Dict.forKeys_of_resizes rfl (fun k hk => ?_) ?_ ?_
  · have hempty : tempResults.get k = some [] := by simpa using hbefore k hk
    rw [collectTurn]
    dsimp only
    rw [hempty]
  · rw [collectTurn]
    dsimp only
    rw [hwaiting]
  · exact (Dict.size_ne_zero hwaiting).symm

/-! ### What the constructor makes -/

/-- A monitor that was filled with some items: every thermometer has an empty list, and there
is no calorimeter. -/
structure Filled (m : SensorsMonitor) : Prop where
  calorimeter_eq : m.calorimeter = ∅
  results_eq : ∀ name, m.tempResults.get name = (m.temp.get name).map fun _ => []
  idle : m.running = false ∧ m.thread = false

theorem filled_new : Filled {} := ⟨rfl, fun _ => rfl, rfl, rfl⟩

/-- A thermometer gets an empty list. -/
theorem Filled.fillTemp {m m' : SensorsMonitor} (h : Filled m) {name : Name} {item : Item}
    (hfill : m.fillTemp name item = .ok m') : Filled m' := by
  unfold SensorsMonitor.fillTemp at hfill
  split at hfill
  · cases hfill
  split_ifs at hfill
  · cases hfill
    exact h
  · cases hfill
    exact h
  · cases hfill
    refine ⟨h.calorimeter_eq, fun other => ?_, h.idle⟩
    dsimp only
    rw [Dict.get_set, Dict.get_set]
    by_cases hname : name = other
    · rw [if_pos hname, if_pos hname, Option.map_some]
    · rw [if_neg hname, if_neg hname, h.results_eq]

theorem Filled.fillFlow {m m' : SensorsMonitor} (h : Filled m) {name : Name} {item : Item}
    (hfill : m.fillFlow name item = .ok m') : Filled m' := by
  unfold SensorsMonitor.fillFlow at hfill
  split at hfill
  · cases hfill
    exact h
  split_ifs at hfill
  · cases hfill
    exact h
  · cases hfill
    exact ⟨h.calorimeter_eq, h.results_eq, h.idle⟩

/-- No calorimeter comes in. -/
theorem Filled.fillCalorimeter {m m' : SensorsMonitor} (h : Filled m) {name : Name} {item : Item}
    (hfill : m.fillCalorimeter name item = .ok m') : Filled m' := by
  unfold SensorsMonitor.fillCalorimeter at hfill
  split at hfill
  · split_ifs at hfill
    · cases hfill
      exact h
    · cases hfill
      exact h
  · cases hfill

theorem Filled.fillItem {m m' : SensorsMonitor} (h : Filled m) {name : Name} {item : Item}
    (hfill : m.fillItem name item = .ok m') : Filled m' := by
  unfold SensorsMonitor.fillItem at hfill
  split at hfill
  · cases hfill
  split_ifs at hfill
  · exact h.fillTemp hfill
  · exact h.fillFlow hfill
  · exact h.fillCalorimeter hfill
  · cases hfill
    exact h

theorem Filled.fill {items : List (Option Item)} {index : ℕ} {m m' : SensorsMonitor}
    (h : Filled m) (hfill : SensorsMonitor.fill items index m = .ok m') : Filled m' := by
  induction items generalizing index m with
  | nil =>
    cases hfill
    exact h
  | cons item items ih =>
    cases item with
    | none => exact ih h hfill
    | some item =>
      rw [SensorsMonitor.fill] at hfill
      split at hfill
      · cases hfill
      dsimp only at hfill
      split at hfill
      · cases hfill
      · next hitem => exact ih (h.fillItem hitem) hfill

/-! ### Runs -/

/-- A monitor that has lost nothing: the lists are those of its thermometers, and hold what
waits for `collect`. -/
structure Ready (sensors : List (Option Item)) (m : SensorsMonitor) (pending : Name → List ℚ) :
    Prop where
  lock_iff : m.lock = true ↔ sensors ≠ []
  calorimeter_eq : m.calorimeter = ∅
  results_eq : ∀ name, m.tempResults.get name = (m.temp.get name).map fun _ => pending name
  unknown : ∀ name, m.temp.get name = none → pending name = []
  thread : m.thread = true → m.running = true

theorem ready_create {sensors : List (Option Item)} {m : SensorsMonitor}
    (h : create sensors = .ok m) : Ready sensors m fun _ => [] := by
  unfold create at h
  split at h
  · next hempty =>
    cases h
    exact ⟨iff_of_false Bool.false_ne_true (not_not.mpr hempty), rfl, fun _ => rfl, fun _ _ => rfl,
      id⟩
  · next hitems =>
    cases hfill : fill sensors 1 {} with
    | error e =>
      rw [hfill] at h
      cases h
    | ok filled =>
      rw [hfill] at h
      cases h
      obtain ⟨hcalorimeter, hresults, hidle⟩ := filled_new.fill hfill
      exact ⟨iff_of_true rfl hitems, hcalorimeter, hresults, fun _ _ => rfl,
        fun hthread => absurd (hidle.2.symm.trans hthread) Bool.false_ne_true⟩

variable {sensors : List (Option Item)} {m : SensorsMonitor} {pending : Name → List ℚ}

/-- The list of a thermometer. -/
theorem Ready.get_results (h : Ready sensors m pending) {name : Name}
    (hname : (m.temp.get name).isSome = true) : m.tempResults.get name = some (pending name) := by
  obtain ⟨deviceId, hdevice⟩ := Option.isSome_iff_exists.mp hname
  rw [h.results_eq, hdevice, Option.map_some]

/-- A monitor with sensors has its lock. -/
theorem Ready.lock_of_sensors (h : Ready sensors m pending) (hsensors : sensors ≠ []) :
    ¬ m.lock = false := by
  rw [h.lock_iff.mpr hsensors]
  decide

/-- Nothing waits: `collect` returns, and leaves the lists as they are. -/
theorem Ready.collect_nothing (h : Ready sensors m pending) (hsensors : sensors ≠ [])
    (hnothing : ∀ name, pending name = []) (secondsPassed : ℚ) :
    (m.collect secondsPassed).1
        = .ok ⟨∅, m.flow.mapValues (FlowSensor.getLitres secondsPassed), ∅⟩ ∧
      (m.collect secondsPassed).2 = { m with flow := m.flow.mapValues FlowSensor.counted } := by
  have htemps : collectTemps m.tempResults = (none, (m.tempResults, ∅)) := by
    refine collectTemps_nothing fun name samples hname => ?_
    rw [h.results_eq] at hname
    obtain ⟨-, -, rfl⟩ := Option.map_eq_some_iff.mp hname
    exact hnothing name
  have hconsumption : ∀ flows : Dict Name ℚ,
      collectConsumption ∅ flows m.calorimeter.entries ∅ = .ok ∅ := by
    intro flows
    rw [h.calorimeter_eq]
    rfl
  unfold collect
  dsimp only
  rw [if_neg (h.lock_of_sensors hsensors), htemps]
  dsimp only
  rw [hconsumption]
  exact ⟨rfl, rfl⟩

/-- A monitor without a lock, or with a sample that waits: `collect` raises an error. -/
theorem Ready.collect_raises (h : Ready sensors m pending)
    (hwaits : ¬ (sensors ≠ [] ∧ ∀ name, pending name = [])) (secondsPassed : ℚ) :
    ∃ e, (m.collect secondsPassed).1 = .error e := by
  unfold collect
  dsimp only
  by_cases hsensors : sensors = []
  · have hlock : m.lock = false := Bool.eq_false_iff.mpr fun hl => h.lock_iff.mp hl hsensors
    rw [if_pos hlock]
    exact ⟨_, rfl⟩
  · obtain ⟨name, hname⟩ := not_forall.mp fun hall => hwaits ⟨hsensors, hall⟩
    have hknown : (m.temp.get name).isSome = true :=
      Option.isSome_iff_ne_none.mpr (mt (h.unknown name) hname)
    obtain ⟨temps, htemps⟩ := collectTemps_pending (h.get_results hknown) hname
    rw [if_neg (h.lock_of_sensors hsensors), htemps]
    exact ⟨_, rfl⟩

/-- A call of `collect` loses nothing exactly when nothing waits for it. -/
theorem Ready.samplesKept_collect_iff (h : Ready sensors m pending) (secondsPassed : ℚ) :
    SamplesKept pending (m, .collect secondsPassed, (m.collect secondsPassed).2) ↔
      sensors ≠ [] ∧ ∀ name, pending name = [] := by
  constructor
  · rintro ⟨collected, hcollected, -⟩
    by_contra hwaits
    obtain ⟨e, he⟩ := h.collect_raises hwaits secondsPassed
    rw [he] at hcollected
    cases hcollected
  · rintro ⟨hsensors, hnothing⟩
    obtain ⟨hreturn, hbehind⟩ := h.collect_nothing hsensors hnothing secondsPassed
    refine ⟨_, hreturn, fun name => ?_, fun name hname => ?_⟩
    · rw [if_pos (hnothing name)]
      rfl
    · rw [hbehind]
      dsimp only
      rw [h.get_results hname, hnothing]

/-- Behind a call of `collect` for which nothing waits, nothing waits. -/
theorem Ready.collect (h : Ready sensors m pending) (hsensors : sensors ≠ [])
    (hnothing : ∀ name, pending name = []) (secondsPassed : ℚ) :
    Ready sensors (m.collect secondsPassed).2 fun _ => [] := by
  rw [(h.collect_nothing hsensors hnothing secondsPassed).2]
  refine ⟨h.lock_iff, h.calorimeter_eq, fun name => ?_, fun _ _ => rfl, h.thread⟩
  dsimp only
  rw [h.results_eq, hnothing]

/-- The block of the thread, of a running monitor: the sample goes behind what waits, and
the thread ends with the sample that fills the list. -/
theorem Ready.appendSample_eq (h : Ready sensors m pending) {name : Name} (temp : ℚ)
    (hname : (m.temp.get name).isSome = true) (hrunning : m.running = true) :
    m.appendSample name (some temp) = { m with
      tempResults := m.tempResults.set name (pending name ++ [temp])
      thread := m.thread && decide ((pending name).length + 1 < 100) } := by
  have hstopped : ¬ m.running = false := by
    rw [hrunning]
    decide
  unfold SensorsMonitor.appendSample
  rw [if_neg hstopped]
  dsimp only
  rw [h.get_results hname]
  dsimp only
  split
  · next hroom => rw [decide_eq_true hroom, Bool.and_true]
  · next hfull => rw [decide_eq_false hfull, Bool.and_false]

/-- **The block of the thread** appends to the list of its sensor. -/
theorem Ready.appendSample (h : Ready sensors m pending) {name : Name} {temp : ℚ}
    (hname : (m.temp.get name).isSome = true) (hrunning : m.running = true) :
    Ready sensors (m.appendSample name (some temp))
      (Function.update pending name (pending name ++ [temp])) := by
  obtain ⟨deviceId, hdevice⟩ := Option.isSome_iff_exists.mp hname
  rw [h.appendSample_eq temp hname hrunning]
  refine ⟨h.lock_iff, h.calorimeter_eq, fun other => ?_, fun other hnone => ?_,
    fun _ => hrunning⟩
  -- the list of the sensor grows as the record does, the other lists stay
  · dsimp only
    rw [Dict.get_set]
    by_cases hother : name = other
    · rw [if_pos hother, ← hother, hdevice, Option.map_some, Function.update_self]
    · rw [if_neg hother, h.results_eq, Function.update_of_ne (Ne.symm hother)]
  -- an unknown sensor is another one
  · have hother : other ≠ name := by
      rintro rfl
      rw [hdevice] at hnone
      cases hnone
    rw [Function.update_of_ne hother, h.unknown other hnone]

/-- An append loses nothing exactly when its list has room for one more behind it. -/
theorem Ready.samplesKept_sample_iff (h : Ready sensors m pending) {name : Name} (temp : ℚ)
    (hthread : m.thread = true) (hname : (m.temp.get name).isSome = true) :
    SamplesKept pending (m, .sample name (some temp), m.appendSample name (some temp)) ↔
      (pending name).length + 1 < 100 := by
  have hbehind := h.appendSample_eq temp hname (h.thread hthread)
  constructor
  · rintro ⟨-, -, hgoes⟩
    dsimp only at hgoes
    rw [hbehind, hthread, Bool.true_and] at hgoes
    exact of_decide_eq_true hgoes
  · intro hroom
    refine ⟨h.get_results hname, ?_, ?_⟩ <;> dsimp only <;> rw [hbehind]
    · rw [Dict.get_set, if_pos rfl]
    · rw [hthread, Bool.true_and, decide_eq_true hroom]

theorem Ready.start (h : Ready sensors m pending) : Ready sensors m.start pending := by
  unfold SensorsMonitor.start
  split
  · exact h
  · exact ⟨h.lock_iff, h.calorimeter_eq, h.results_eq, h.unknown, fun _ => rfl⟩

theorem Ready.stop (h : Ready sensors m pending) : Ready sensors m.stop pending := by
  unfold SensorsMonitor.stop
  split
  · exact h
  · exact ⟨h.lock_iff, h.calorimeter_eq, h.results_eq, h.unknown, fun hthread =>
      absurd hthread Bool.false_ne_true⟩

/-- A reading that failed is no sample. -/
theorem Ready.appendSample_none (h : Ready sensors m pending) (hthread : m.thread = true)
    (name : Name) : m.appendSample name none = m := by
  unfold SensorsMonitor.appendSample
  rw [h.thread hthread, if_neg (by decide)]

/-- **What one step does**: it loses no sample exactly when it is harmless, and then the
monitor has lost nothing. -/
theorem samplesKept_step {m' : SensorsMonitor} {e : Event} (h : Ready sensors m pending)
    (hstep : m.step e = some m') :
    (SamplesKept pending (m, e, m') ↔ Harmless sensors pending (m, e, m')) ∧
      (Harmless sensors pending (m, e, m') →
        Ready sensors m' (note pending (m, e, m'))) := by
  cases e with
  | start =>
    cases hstep
    exact ⟨Iff.rfl, fun _ => h.start⟩
  | stop =>
    cases hstep
    exact ⟨Iff.rfl, fun _ => h.stop⟩
  | pulse name =>
    -- the tally of a flow sensor is no part of the samples
    obtain ⟨s, -, rfl⟩ := Option.map_eq_some_iff.mp hstep
    exact ⟨Iff.rfl, fun _ => ⟨h.lock_iff, h.calorimeter_eq, h.results_eq, h.unknown, h.thread⟩⟩
  | collect secondsPassed =>
    cases hstep
    exact ⟨h.samplesKept_collect_iff secondsPassed, fun hC => h.collect hC.1 hC.2 secondsPassed⟩
  | sample name sample =>
    rw [step] at hstep
    split at hstep
    · next hthread =>
      cases hstep
      cases sample with
      | none =>
        -- the reading failed: nothing is appended
        rw [h.appendSample_none hthread.1]
        exact ⟨Iff.rfl, fun _ => h⟩
      | some temp =>
        have hrunning := h.thread hthread.1
        have hnote : note pending (m, .sample name (some temp), m.appendSample name (some temp))
            = Function.update pending name (pending name ++ [temp]) := if_pos hrunning
        refine ⟨h.samplesKept_sample_iff temp hthread.1 hthread.2, fun _ => ?_⟩
        rw [hnote]
        exact h.appendSample hthread.2 hrunning
    -- a thread that has ended reads nothing
    · cases hstep

/-- **When a run loses no sample.**  Of every monitor that was constructed, and in every
run: every step loses no sample, given what was appended before it, exactly when no call of
`collect` comes while a sample waits, there are sensors when there is a call, and fewer than
`_temp_max_len` samples of a sensor wait. -/
theorem samplesKept_iff (hcreate : create sensors = .ok m) (es : List Event) :
    (∀ before t after, Run.trace step m es = before ++ t :: after →
      SamplesKept (pendingOf before) t) ↔
    ∀ before t after, Run.trace step m es = before ++ t :: after →
      Harmless sensors (pendingOf before) t :=
  Run.forall_steps_iff note (J := Ready sensors)
    (fun _ _ _ _ hready hstep => samplesKept_step hready hstep) es m _ (ready_create hcreate)

/-- A thermometer. -/
def oneThermometer : List (Option Item) :=
  [some { name := some "a".toList, type := some "temp".toList, deviceId := some "28-1".toList }]

/-- A call of `collect` before the first sample. -/
theorem samplesKept_early : ∃ m, create oneThermometer = .ok m ∧
    ∀ before t after,
      Run.trace step m [.start, .collect 30, .sample "a".toList (some 20)] = before ++ t :: after →
        SamplesKept (pendingOf before) t := by
  obtain ⟨m, hcreate, m₁, m₂, m₃, htrace⟩ : ∃ m, create oneThermometer = .ok m ∧
      ∃ m₁ m₂ m₃, Run.trace step m [.start, .collect 30, .sample "a".toList (some 20)]
        = [(m, .start, m₁), (m₁, .collect 30, m₂), (m₂, .sample "a".toList (some 20), m₃)] :=
    ⟨_, rfl, _, _, _, rfl⟩
  refine ⟨m, hcreate, (samplesKept_iff hcreate _).mpr ?_⟩
  rw [htrace]
  simp only [Run.forall_split_cons]
  have hsensors : oneThermometer ≠ [] := by decide
  have hroom : ([] : List ℚ).length + 1 < 100 := by decide
  refine ⟨trivial, ⟨hsensors, fun _ => rfl⟩, hroom, ?_⟩
  intro before t after h
  simp at h

/-- **The first sample is lost**, with the dictionary of all lists: `collect` raises an
error, and the thread does not find the list of its sensor any more. -/
theorem sample_lost : ∃ m, create oneThermometer = .ok m ∧
    (∃ m', Run.exec step m [.start, .sample "a".toList (some 20)] = some m' ∧
      (m'.collect 30).1 = .error .runtimeError ∧
      (m'.collect 30).2.tempResults.get "a".toList = none) ∧
    ¬ ∀ before t after, Run.trace step m [.start, .sample "a".toList (some 20), .collect 30]
        = before ++ t :: after → SamplesKept (pendingOf before) t := by
  obtain ⟨m, hcreate, m₁, m₂, hexec, htrace, hraised, hlost⟩ :
      ∃ m, create oneThermometer = .ok m ∧ ∃ m₁ m₂,
        Run.exec step m [.start, .sample "a".toList (some 20)] = some m₂ ∧
        Run.trace step m [.start, .sample "a".toList (some 20), .collect 30]
          = [(m, .start, m₁), (m₁, .sample "a".toList (some 20), m₂),
            (m₂, .collect 30, (m₂.collect 30).2)] ∧
        (m₂.collect 30).1 = .error .runtimeError ∧
        (m₂.collect 30).2.tempResults.get "a".toList = none :=
    ⟨_, rfl, _, _, rfl, rfl, rfl, rfl⟩
  refine ⟨m, hcreate, ⟨m₂, hexec, hraised, hlost⟩, fun h => ?_⟩
  obtain ⟨collected, hcollected, -⟩ := h [_, _] _ [] htrace
  rw [hraised] at hcollected
  cases hcollected

end SensorsMonitor
end Devices
end HomeAutomation
