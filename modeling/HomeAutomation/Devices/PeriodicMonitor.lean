import Mathlib.Algebra.Order.BigOperators.Group.List
import Mathlib.Algebra.Order.Ring.Rat
import HomeAutomation.Devices.SensorsMonitor

/-!
# The totals of a device

A monitor adds up the consumption that the sensors report, and writes the totals to two
files: to a temporary one with every update, and to a persistent one every hour.  When it
starts, it reads the temporary file, or else the persistent one, so that the totals should
survive the process.

They do not: what was read is overwritten before the totals are taken from it.

## Main definitions

* `System` — the two files, and the monitor of the process that runs.
* `System.step` — the runs: processes that start, update, save and end.
* `History`, `expected` — the totals that were read, and what has come since.
* `TotalsKept` — a step leaves the totals as they should be.

## Main results

* `get_addAll` — the totals behind an update.
* `totalsKept_iff` — a run keeps the totals as long as there is none to be read.

## References

`devices/bin/websensor.py`.
-/

namespace HomeAutomation
namespace Devices

/-- `_data`, which is also what a file holds; a key may be missing. -/
structure Data where
  temp : Option (Dict Name ℚ) := none
  flow : Option (Dict Name ℚ) := none
  consumption : Option (Dict Name ℚ) := none

/-- The total under a name. -/
def Data.total (data : Data) (name : Name) : Option ℚ := (data.consumption.getD ∅).get name

/-- `PeriodicMonitor`, with the times that `start` sets. -/
structure PeriodicMonitor where
  data : Data
  times : Option (ℚ × ℚ) := none

/-- The temporary and the persistent file, where there is one that can be parsed, and the
monitor, while a process runs. -/
structure System where
  tempFile : Option Data := none
  persFile : Option Data := none
  monitor : Option PeriodicMonitor := none

/-! ### The monitor -/

/-- `_pers_interval`, in seconds. -/
def persInterval : ℚ := 60 * 60

/-- What `_load` reads: the temporary file, or else the persistent one.  Each of them may
fail to open. -/
def System.fileRead (s : System) (readTemp readPers : Bool) : Option Data :=
  (if readTemp then s.tempFile else none).or (if readPers then s.persFile else none)

/-- The keys of `_data` are set, the one for the totals when it is missing. -/
def Data.withKeys (data : Data) : Data :=
  { temp := some ∅, flow := some ∅, consumption := some (data.consumption.getD ∅) }

/-- `_load`.  `_data` is what was read, and then an empty dictionary, before the keys are
set. -/
def load (_read : Option Data) : Data := Data.withKeys {}

/-- `_save_file`.  The new file takes the place of the old one, or there was an error and
the old one stays. -/
def saveFile (saved : Bool) (data : Data) (file : Option Data) : Option Data :=
  if saved then some data else file

/-- The loop of `_do_update`, over what was collected. -/
def addAll (consumption : Dict Name ℚ) (collected : List (Name × ℚ)) : Dict Name ℚ :=
  collected.foldl (fun d e => d.set e.1 ((d.get e.1).getD 0 + e.2)) consumption

/-- What happens to the system. -/
inductive Event
  /-- A process starts, and `__init__` loads a file and saves the temporary one. -/
  | boot (readTemp readPers saved : Bool)
  /-- `start`, with the time of the clock. -/
  | start (now : ℚ)
  /-- `_do_update`, with what `collect` returns, if it does not raise an error. -/
  | update (now : ℚ) (collected : Option Collected) (savedTemp savedPers : Bool)
  /-- The process ends, in whatever way. -/
  | exit

/-- The data behind an update. -/
def Data.update (collected : Collected) (data : Data) : Data where
  temp := some collected.temp
  flow := some collected.flow
  consumption := some (addAll (data.consumption.getD ∅) collected.consumption.entries)

/-- `__init__`: the data are loaded, and the temporary file is saved. -/
def System.boot (readTemp readPers saved : Bool) (s : System) : System :=
  let data := load (s.fileRead readTemp readPers)
  { s with
    tempFile := saveFile saved data s.tempFile
    monitor := some { data := data } }

/-- `_do_update`, when `collect` returns: the persistent file is saved as well when the last
time is more than an hour ago. -/
def System.update (now persTime : ℚ) (collected : Collected) (savedTemp savedPers : Bool)
    (data : Data) (s : System) : System :=
  let data := data.update collected
  if now > persTime + persInterval then
    { tempFile := saveFile savedTemp data s.tempFile
      persFile := saveFile savedPers data s.persFile
      monitor := some ⟨data, some (now, now)⟩ }
  else
    { tempFile := saveFile savedTemp data s.tempFile
      persFile := s.persFile
      monitor := some ⟨data, some (now, persTime)⟩ }

/-- A step.  The timer runs from the beginning; before `start` an update fails for want of
the times. -/
def System.step (s : System) : Event → Option System
  | .boot readTemp readPers saved => some (s.boot readTemp readPers saved)
  | .start now => s.monitor.map fun m =>
    { s with monitor := some { m with times := some (now, now) } }
  | .update now collected savedTemp savedPers => s.monitor.map fun m =>
    match m.times, collected with
    | none, _ => s
    | some (_, persTime), none =>
      { s with monitor := some { m with times := some (now, persTime) } }
    | some (_, persTime), some collected =>
      s.update now persTime collected savedTemp savedPers m.data
  | .exit => some { s with monitor := none }

/-! ### What the totals should be -/

/-- The totals in the file that was read, and what was collected since. -/
structure History where
  base : Name → Option ℚ := fun _ => none
  increments : List (Name × ℚ) := []

/-- What is collected for a name. -/
def amounts (name : Name) (collected : List (Name × ℚ)) : List ℚ :=
  (collected.filter fun e => e.1 = name).map Prod.snd

/-- A total, with some amounts. -/
def addTo (total : Option ℚ) (amounts : List ℚ) : Option ℚ :=
  if amounts = [] then total else some (total.getD 0 + amounts.sum)

/-- The total that there should be. -/
def History.expected (h : History) (name : Name) : Option ℚ :=
  addTo (h.base name) (amounts name h.increments)

/-- One step more.  An update counts when the monitor was started, and `collect` returned. -/
def History.note (h : History) (t : System × Event × System) : History :=
  match t.2.1 with
  | .boot readTemp readPers _ =>
    { base := fun name => (t.1.fileRead readTemp readPers).bind fun d => d.total name }
  | .update _ (some collected) _ _ =>
    if (t.1.monitor.bind PeriodicMonitor.times).isSome then
      { h with increments := h.increments ++ collected.consumption.entries }
    else h
  | _ => h

/-- The history behind some steps. -/
def historyOf (steps : List (System × Event × System)) : History := steps.foldl History.note {}

/-- The step is no start of a process. -/
def Continues (t : System × Event × System) : Prop :=
  ∀ readTemp readPers saved, t.2.1 ≠ .boot readTemp readPers saved

/-- **A step leaves the totals as they should be**: those of a monitor are what was read when
its process started, with what was collected since; a file that changes holds the totals of
the monitor; and as long as nothing below zero is collected, no total falls below what was
read, or below what it was before, as long as the process runs. -/
structure TotalsKept (h : History) (t : System × Event × System) : Prop where
  totals : ∀ m, t.2.2.monitor = some m → ∀ name, m.data.total name = (h.note t).expected name
  tempFile : t.2.2.tempFile = t.1.tempFile ∨
    ∃ m, t.2.2.monitor = some m ∧ t.2.2.tempFile = some m.data
  persFile : t.2.2.persFile = t.1.persFile ∨
    ∃ m, t.2.2.monitor = some m ∧ t.2.2.persFile = some m.data
  grows : (∀ e ∈ (h.note t).increments, 0 ≤ e.2) → ∀ m, t.2.2.monitor = some m → ∀ name,
    ((h.note t).base name).getD 0 ≤ (m.data.total name).getD 0 ∧
      (Continues t → ∀ old, t.1.monitor = some old →
        (old.data.total name).getD 0 ≤ (m.data.total name).getD 0)

/-- The step does not start a process that reads a file with totals. -/
def NothingStored (t : System × Event × System) : Prop :=
  ∀ readTemp readPers saved d, t.2.1 = .boot readTemp readPers saved →
    t.1.fileRead readTemp readPers = some d → ∀ name, d.total name = none

/-! ### What is collected -/

theorem getD_addTo (total : Option ℚ) (amounts : List ℚ) :
    (addTo total amounts).getD 0 = total.getD 0 + amounts.sum := by
  rw [addTo]
  split
  · next h => rw [h, List.sum_nil, add_zero]
  · rfl

theorem addTo_append (total : Option ℚ) (xs ys : List ℚ) :
    addTo total (xs ++ ys) = addTo (addTo total xs) ys := by
  by_cases hys : ys = []
  · rw [hys, List.append_nil, addTo.eq_1 (addTo total xs), if_pos rfl]
  · rw [addTo, if_neg (by simp [hys]), addTo.eq_1 (addTo total xs), if_neg hys, getD_addTo,
      List.sum_append, add_assoc]

/-- **The totals behind an update.** -/
theorem get_addAll (collected : List (Name × ℚ)) (consumption : Dict Name ℚ) (name : Name) :
    (addAll consumption collected).get name
      = addTo (consumption.get name) (amounts name collected) := by
  induction collected generalizing consumption with
  | nil => rfl
  | cons e collected ih =>
    have hstep : addAll consumption (e :: collected)
        = addAll (consumption.set e.1 ((consumption.get e.1).getD 0 + e.2)) collected := rfl
    rw [hstep, ih, Dict.get_set]
    by_cases he : e.1 = name
    · have hamounts : amounts name (e :: collected) = [e.2] ++ amounts name collected := by
        simp [amounts, he]
      rw [if_pos he, hamounts, addTo_append, ← he]
      simp [addTo]
    · have hamounts : amounts name (e :: collected) = amounts name collected := by
        simp [amounts, he]
      rw [if_neg he, hamounts]

theorem amounts_append (name : Name) (xs ys : List (Name × ℚ)) :
    amounts name (xs ++ ys) = amounts name xs ++ amounts name ys := by
  rw [amounts, List.filter_append, List.map_append]
  rfl

/-- What is not below zero has no sum below zero. -/
theorem sum_amounts_nonneg {collected : List (Name × ℚ)} (h : ∀ e ∈ collected, 0 ≤ e.2)
    (name : Name) : 0 ≤ (amounts name collected).sum := by
  refine List.sum_nonneg fun amount hamount => ?_
  obtain ⟨e, he, rfl⟩ := List.mem_map.mp hamount
  exact h e (List.mem_filter.mp he).1

/-! ### Runs -/

/-- The totals of the monitor are as they should be. -/
def Accurate (s : System) (h : History) : Prop :=
  ∀ m, s.monitor = some m → ∀ name, m.data.total name = h.expected name

/-- No total is below what was read. -/
theorem Accurate.base_le {s : System} {h : History} (hs : Accurate s h)
    (hpositive : ∀ e ∈ h.increments, 0 ≤ e.2) {m : PeriodicMonitor} (hm : s.monitor = some m)
    (name : Name) : (h.base name).getD 0 ≤ (m.data.total name).getD 0 := by
  rw [hs m hm, History.expected, getD_addTo]
  exact le_add_of_nonneg_right (sum_amounts_nonneg hpositive name)

/-- A step that changes neither files nor totals. -/
theorem totalsKept_of_same {s s' : System} {e : Event} {h : History} (hs : Accurate s h)
    (hnote : h.note (s, e, s') = h) (htemp : s'.tempFile = s.tempFile)
    (hpers : s'.persFile = s.persFile)
    (hsame : ∀ m', s'.monitor = some m' → ∃ m, s.monitor = some m ∧ m'.data = m.data) :
    TotalsKept h (s, e, s') ∧ Accurate s' (h.note (s, e, s')) := by
  have haccurate : Accurate s' h := by
    intro m' hm'
    obtain ⟨m, hm, hdata⟩ := hsame m' hm'
    rw [hdata]
    exact hs m hm
  refine ⟨⟨?_, Or.inl htemp, Or.inl hpers, ?_⟩, ?_⟩
  -- the totals are those of the monitor before
  · rw [hnote]
    exact haccurate
  · rw [hnote]
    intro hpositive m' hm' name
    -- the monitor goes on with the totals it had
    refine ⟨haccurate.base_le hpositive hm' name, fun _ old hold => ?_⟩
    obtain ⟨m, hm, hdata⟩ := hsame m' hm'
    obtain rfl : old = m := Option.some.inj (hold.symm.trans hm)
    rw [hdata]
  · rw [hnote]
    exact haccurate

/-- A file that is saved, or not. -/
theorem saveFile_eq_or (saved : Bool) (data : Data) (file : Option Data) :
    saveFile saved data file = file ∨ saveFile saved data file = some data := by
  cases saved with
  | false => exact Or.inl rfl
  | true => exact Or.inr rfl

/-- A process that starts has the totals of the file that is read exactly when there are
none in it. -/
theorem totalsKept_boot_iff (s : System) (readTemp readPers saved : Bool) (h : History) :
    (TotalsKept h (s, .boot readTemp readPers saved, s.boot readTemp readPers saved) ↔
        NothingStored (s, .boot readTemp readPers saved, s.boot readTemp readPers saved)) ∧
      (NothingStored (s, .boot readTemp readPers saved, s.boot readTemp readPers saved) →
        Accurate (s.boot readTemp readPers saved)
          (h.note (s, .boot readTemp readPers saved, s.boot readTemp readPers saved))) := by
  -- the totals that there should be are those that are read, and there are none
  have hexpected : ∀ name,
      (h.note (s, .boot readTemp readPers saved, s.boot readTemp readPers saved)).expected name
        = (s.fileRead readTemp readPers).bind fun d => d.total name := fun _ => rfl
  have htotal : ∀ name, (load (s.fileRead readTemp readPers)).total name = none := fun _ => rfl
  have haccurate :
      NothingStored (s, .boot readTemp readPers saved, s.boot readTemp readPers saved) →
      Accurate (s.boot readTemp readPers saved)
        (h.note (s, .boot readTemp readPers saved, s.boot readTemp readPers saved)) := by
    -- the totals are right only if none were stored
    intro hnothing m hm name
    cases hm
    rw [htotal, hexpected]
    cases hread : s.fileRead readTemp readPers with
    | none => rfl
    | some d => exact (hnothing _ _ _ d rfl hread name).symm
  refine ⟨⟨?_, fun hnothing => ⟨haccurate hnothing, ?_, Or.inl rfl, ?_⟩⟩, haccurate⟩
  -- a total that was read is lost, as the new monitor has none
  · intro hkept readTemp' readPers' saved' d he hread name
    cases he
    have hname := hkept.totals _ rfl name
    rw [htotal, hexpected, hread] at hname
    exact hname.symm
  · exact (saveFile_eq_or saved _ s.tempFile).imp id fun hsaved => ⟨_, rfl, hsaved⟩
  · intro hpositive m hm name
    exact ⟨(haccurate hnothing).base_le hpositive hm name, fun hcontinues =>
      absurd rfl (hcontinues _ _ _)⟩

/-- **What an update writes**: the monitor gets the new data, and each file gets them or stays
as it is. -/
theorem update_writes (s : System) (now persTime : ℚ) (collected : Collected)
    (savedTemp savedPers : Bool) (data : Data) :
    (∃ times, (s.update now persTime collected savedTemp savedPers data).monitor
        = some ⟨data.update collected, times⟩) ∧
      ((s.update now persTime collected savedTemp savedPers data).tempFile = s.tempFile ∨
        (s.update now persTime collected savedTemp savedPers data).tempFile
          = some (data.update collected)) ∧
      ((s.update now persTime collected savedTemp savedPers data).persFile = s.persFile ∨
        (s.update now persTime collected savedTemp savedPers data).persFile
          = some (data.update collected)) := by
  unfold System.update
  split
  · exact ⟨⟨_, rfl⟩, saveFile_eq_or _ _ _, saveFile_eq_or _ _ _⟩
  · exact ⟨⟨_, rfl⟩, saveFile_eq_or _ _ _, Or.inl rfl⟩

theorem total_update (data : Data) (collected : Collected) (name : Name) :
    (data.update collected).total name
      = addTo (data.total name) (amounts name collected.consumption.entries) :=
  get_addAll _ _ name

/-- An update is noted when the times are set. -/
theorem note_update {s : System} {m : PeriodicMonitor} (hm : s.monitor = some m)
    (htimes : m.times.isSome = true) (h : History) (now : ℚ) (collected : Collected)
    (savedTemp savedPers : Bool) (s' : System) :
    h.note (s, .update now (some collected) savedTemp savedPers, s')
      = { h with increments := h.increments ++ collected.consumption.entries } := by
  refine if_pos ?_
  rw [hm, Option.bind_some]
  exact htimes

/-- **An update adds what was collected.** -/
theorem totalsKept_update {s : System} {h : History} (hs : Accurate s h) {m : PeriodicMonitor}
    (hm : s.monitor = some m) {startTime persTime : ℚ}
    (htimes : m.times = some (startTime, persTime)) (now : ℚ) (collected : Collected)
    (savedTemp savedPers : Bool) {s' : System}
    (hs' : s' = s.update now persTime collected savedTemp savedPers m.data) :
    TotalsKept h (s, .update now (some collected) savedTemp savedPers, s') ∧
      Accurate s' (h.note (s, .update now (some collected) savedTemp savedPers, s')) := by
  -- `update` does something only behind `start`
  have hstarted : m.times.isSome = true := by
    rw [htimes]
    rfl
  have hnote := note_update hm hstarted h now collected savedTemp savedPers s'
  obtain ⟨⟨times, hmonitor⟩, htemp, hpers⟩ :=
    update_writes s now persTime collected savedTemp savedPers m.data
  rw [← hs'] at hmonitor htemp hpers
  -- the consumption is added to the totals, name by name
  have haccurate :
      Accurate s' { h with increments := h.increments ++ collected.consumption.entries } := by
    intro m' hm' name
    obtain rfl := Option.some.inj (hmonitor.symm.trans hm')
    rw [total_update, hs m hm, History.expected, History.expected, amounts_append, addTo_append]
  rw [hnote]
  refine ⟨⟨by rw [hnote]; exact haccurate, htemp.imp id fun h => ⟨_, hmonitor, h⟩,
    hpers.imp id fun h => ⟨_, hmonitor, h⟩, ?_⟩, haccurate⟩
  rw [hnote]
  intro hpositive m' hm' name
  refine ⟨haccurate.base_le hpositive hm' name, fun _ old hold => ?_⟩
  obtain rfl : m = old := Option.some.inj (hm.symm.trans hold)
  obtain rfl := Option.some.inj (hmonitor.symm.trans hm')
  -- what is added is not below zero
  rw [total_update, getD_addTo]
  exact le_add_of_nonneg_right (sum_amounts_nonneg
    (fun e he => hpositive e (List.mem_append_right _ he)) name)

/-- **What one step does**: the totals are as they should be exactly when none are read, and
then they go on to be. -/
theorem totalsKept_step {s s' : System} {e : Event} {h : History} (hs : Accurate s h)
    (hstep : s.step e = some s') :
    (TotalsKept h (s, e, s') ↔ NothingStored (s, e, s')) ∧
      (NothingStored (s, e, s') → Accurate s' (h.note (s, e, s'))) := by
  -- only a new monitor can lose what was stored
  have hcontinues : ∀ {e : Event}, (∀ readTemp readPers saved, e ≠ .boot readTemp readPers saved) →
      TotalsKept h (s, e, s') ∧ Accurate s' (h.note (s, e, s')) →
      (TotalsKept h (s, e, s') ↔ NothingStored (s, e, s')) ∧
        (NothingStored (s, e, s') → Accurate s' (h.note (s, e, s'))) :=
    fun hne hkept => ⟨iff_of_true hkept.1 fun _ _ _ _ he => absurd he (hne _ _ _), fun _ => hkept.2⟩
  cases e with
  | boot readTemp readPers saved =>
    cases hstep
    exact totalsKept_boot_iff s readTemp readPers saved h
  | start now =>
    obtain ⟨m, hm, rfl⟩ := Option.map_eq_some_iff.mp hstep
    refine hcontinues nofun (totalsKept_of_same hs rfl rfl rfl fun m' hm' => ⟨m, hm, ?_⟩)
    cases hm'
    rfl
  | exit =>
    cases hstep
    exact hcontinues nofun (totalsKept_of_same hs rfl rfl rfl nofun)
  | update now collected savedTemp savedPers =>
    obtain ⟨m, hm, rfl⟩ := Option.map_eq_some_iff.mp hstep
    refine hcontinues nofun ?_
    -- without `start`, or when `collect` fails, nothing is added
    cases htimes : m.times with
    | none =>
      refine totalsKept_of_same hs ?_ rfl rfl fun m' hm' => ⟨m', hm', rfl⟩
      cases collected with
      | none => rfl
      | some collected =>
        refine if_neg ?_
        rw [hm, Option.bind_some, htimes]
        decide
    | some times =>
      cases collected with
      | none =>
        refine totalsKept_of_same hs rfl rfl rfl fun m' hm' => ⟨m, hm, ?_⟩
        cases hm'
        rfl
      | some collected =>
        exact totalsKept_update hs hm htimes now collected savedTemp savedPers rfl

/-- **When the totals survive.**  From any files, and in every run of processes that start,
update, save and end: every step leaves the totals as they should be, given what was read and
collected before it, exactly when no process that starts reads a file with totals. -/
theorem totalsKept_iff {s : System} (hs : s.monitor = none) (es : List Event) :
    (∀ before t after, Run.trace System.step s es = before ++ t :: after →
      TotalsKept (historyOf before) t) ↔
    ∀ before t after, Run.trace System.step s es = before ++ t :: after → NothingStored t :=
  Run.forall_steps_iff History.note (J := Accurate) (C := fun _ t => NothingStored t)
    (fun _ _ _ _ haccurate hstep => totalsKept_step haccurate hstep) es s _
    fun _ hm => nomatch hs.symm.trans hm

/-- A temporary file with one total, and no process. -/
def meter (heat : Option ℚ) : System where
  tempFile := some
    { consumption := heat.map fun value => (∅ : Dict Name ℚ).set "heat".toList value }

/-- What is collected for that total. -/
def heatCollected (value : ℚ) : Collected where
  consumption := (∅ : Dict Name ℚ).set "heat".toList value

/-- The first process of a meter, with an update. -/
theorem totalsKept_first : (meter none).monitor = none ∧ ∀ before t after,
    Run.trace System.step (meter none)
        [.boot true true true, .start 0, .update 30 (some (heatCollected 5)) true true]
      = before ++ t :: after → TotalsKept (historyOf before) t := by
  refine ⟨rfl, (totalsKept_iff rfl _).mpr ?_⟩
  obtain ⟨s₁, s₂, s₃, htrace⟩ : ∃ s₁ s₂ s₃, Run.trace System.step (meter none)
      [.boot true true true, .start 0, .update 30 (some (heatCollected 5)) true true]
      = [(meter none, .boot true true true, s₁), (s₁, .start 0, s₂),
        (s₂, .update 30 (some (heatCollected 5)) true true, s₃)] := ⟨_, _, _, rfl⟩
  rw [htrace]
  simp only [Run.forall_split_cons]
  refine ⟨?_, nofun, nofun, fun before t after h => by simp at h⟩
  rintro readTemp readPers saved d he hread name
  cases he
  cases hread
  rfl

/-- **A meter is reset**: the file that the next process reads has a total, and the file
that it writes at once has none. -/
theorem meter_reset :
    ((meter (some 1000)).fileRead true true).map (fun d => d.total "heat".toList)
        = some (some 1000) ∧
      (((meter (some 1000)).boot true true true).fileRead true true).map
        (fun d => d.total "heat".toList) = some none ∧
      ¬ ∀ before t after, Run.trace System.step (meter (some 1000)) [.boot true true true]
          = before ++ t :: after → TotalsKept (historyOf before) t := by
  refine ⟨rfl, rfl, fun h => ?_⟩
  have hkept : TotalsKept (historyOf []) (meter (some 1000), .boot true true true,
    (meter (some 1000)).boot true true true) := h [] _ [] rfl
  have htotal : none = some (1000 : ℚ) := hkept.totals _ rfl "heat".toList
  cases htotal

end Devices
end HomeAutomation
