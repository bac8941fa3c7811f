import HomeAutomation.Lib.FirstMatch
import HomeAutomation.Client.Dispatcher
import HomeAutomation.Link.ReplyPath

/-!
# Overlapping subscriptions

The router sends a client one copy of a status message for each of the client's
filters that match it.  The dispatcher gives each copy to the first of its filters
that match, and drops a one-time filter when it has served.  A filter that stays
therefore takes the copies that are meant for the filters behind it.

## Main definitions

* `register` — the client's calls of `add_filter`.
* `process` — the dispatcher reads a number of copies of a packet.
* `AllServed` — the copies reach every matching filter's handler exactly once, and
  no other handler.

## Main results

* `process_eq` — the copies are served by the first matches.
* `allServed_iff` — when all matching filters are served.

## References

`common/source/client/Dispatcher.cpp`, `router/Router.cpp`.
-/

namespace HomeAutomation
namespace Subscriptions

open FirstMatch

/-- The client's calls of `add_filter`, one for each filter. -/
def register (d : Dispatcher) : List Filter → Except Fault Dispatcher
  | [] => .ok d
  | f :: fs => do
    let d ← d.addFilter f true
    register d fs

/-- The dispatcher reads `n` copies of a packet: the handlers it invokes, in order. -/
def process (packet : Packet) : ℕ → Dispatcher → Except Fault (Dispatcher × List Invocation)
  | 0, d => .ok (d, [])
  | n + 1, d => do
    let (d, invocation) ← d.onPacket (some packet)
    let (d, log) ← process packet n d
    return (d, invocation.toList ++ log)

/-- The filters that match a command. -/
def matching (d : Dispatcher) (c : DeviceCommand) : List ClientFilterRecord :=
  d.filters.filter fun r => r.filter.matchesCommand c

/-- **Every matching filter's handler is invoked exactly once, and no other handler**,
when the dispatcher reads one copy of the packet for each matching filter. -/
def AllServed (d : Dispatcher) (packet : Packet) (c : DeviceCommand) : Prop :=
  ∃ d' log, process packet (matching d c).length d = .ok (d', log) ∧
    log.Perm ((matching d c).map fun r => .filter r c)

/-! ### Registering -/

/-- The records of the filters, named from `n` on. -/
def records : ℕ → List Filter → List ClientFilterRecord
  | _, [] => []
  | n, f :: fs => ⟨f, n + 1⟩ :: records (n + 1) fs

theorem filters_register : ∀ {fs : List Filter} {d d' : Dispatcher},
    register d fs = .ok d' → d'.filters = d.filters ++ records d.added fs := by
  intro fs
  induction fs with
  | nil =>
    intro d d' h
    cases h
    simp [records]
  | cons f fs ih =>
    intro d d' h
    obtain ⟨e, he, h⟩ := bind_eq_ok_iff.mp h
    obtain ⟨-, -, he⟩ := bind_eq_ok_iff.mp he
    cases he
    rw [ih h, records, List.append_assoc]
    rfl

theorem lt_of_mem_records : ∀ {fs : List Filter} {n : ℕ} {r : ClientFilterRecord},
    r ∈ records n fs → n < r.handler := by
  intro fs
  induction fs with
  | nil => intro n r h; cases h
  | cons f fs ih =>
    intro n r h
    rcases List.mem_cons.mp h with rfl | h
    · exact Nat.lt_succ_self n
    · exact Nat.lt_of_succ_lt (ih h)

/-- Each filter has a handler of its own. -/
theorem nodup_records : ∀ (fs : List Filter) (n : ℕ), (records n fs).Nodup := by
  intro fs
  induction fs with
  | nil => intro n; exact List.nodup_nil
  | cons f fs ih =>
    intro n
    refine List.nodup_cons.mpr ⟨fun h => ?_, ih (n + 1)⟩
    exact absurd (lt_of_mem_records h) (lt_irrefl _)

theorem map_filter_records (q : Filter → Bool) : ∀ (fs : List Filter) (n : ℕ),
    ((records n fs).filter fun r => q r.filter).map ClientFilterRecord.filter = fs.filter q := by
  intro fs
  induction fs with
  | nil => intro n; rfl
  | cons f fs ih =>
    intro n
    rw [records]
    by_cases hf : q f = true
    · rw [List.filter_cons_of_pos (by exact hf), List.map_cons, ih, List.filter_cons_of_pos hf]
    · rw [List.filter_cons_of_neg (by exact hf), ih, List.filter_cons_of_neg hf]

/-! ### Processing -/

section Process

variable {command : ServiceCommand} {c : DeviceCommand} (haction : command.action = "send".toList)
  (hc : DeviceCommand.default.setFromServiceCommand command = .ok c)

include haction hc

/-- A status message is given to the filters. -/
theorem onPacket_send (d : Dispatcher) :
    d.onPacket (some (.serviceCommand command)) = .ok
      (match d.filters.find? fun r => r.filter.matchesCommand c with
      | none => d.unknown c
      | some r =>
        ({ d with filters := if r.filter.isOneTime then d.filters.erase r else d.filters },
          some (.filter r c))) := by
  have htype : c.type ≠ .reply := by
    intro htype
    have h := DeviceCommand.action_of_setFromServiceCommand hc
    rw [haction, htype] at h
    exact absurd h (by decide)
  have hok : command.action ≠ "ok".toList := by rw [haction]; decide
  have hfail : command.action ≠ "fail".toList := by rw [haction]; decide
  unfold Dispatcher.onPacket
  dsimp only
  rw [if_neg hok, if_neg hfail, if_pos (Or.inl haction), hc, ok_bind,
    Dispatcher.handleDeviceCommand, if_neg htype]
  rfl

/-- **The copies are served by the first matches**, as long as there is a match for
each. -/
theorem process_eq : ∀ (n : ℕ) (d : Dispatcher), ∃ d' log,
    process (.serviceCommand command) n d = .ok (d', log) ∧
      (n ≤ (matching d c).length → log = (serve (fun r : ClientFilterRecord =>
        r.filter.matchesCommand c) (fun r => r.filter.isOneTime) n d.filters).map
          fun r => .filter r c) := by
  intro n
  induction n with
  | zero =>
    intro d
    exact ⟨d, [], rfl, fun _ => rfl⟩
  | succ n ih =>
    intro d
    -- the first filter that matches takes the message, or the message is unknown
    cases hfind : d.filters.find? fun r => r.filter.matchesCommand c with
    | none =>
      obtain ⟨d', log, hprocess, -⟩ := ih d
      refine ⟨d', (d.unknown c).2.toList ++ log, ?_, fun hle => ?_⟩
      · rw [process, onPacket_send haction hc, hfind, ok_bind]
        dsimp only [Dispatcher.unknown]
        rw [hprocess]
        rfl
      · have hnil : matching d c = [] := by
          rw [matching, List.filter_eq_nil_iff]
          exact List.find?_eq_none.mp hfind
        rw [hnil] at hle
        exact absurd hle (Nat.not_succ_le_zero n)
    | some r =>
      obtain ⟨d', log, hprocess, hlog⟩ := ih { d with
        filters := if r.filter.isOneTime then d.filters.erase r else d.filters }
      refine ⟨d', .filter r c :: log, ?_, fun hle => ?_⟩
      · rw [process, onPacket_send haction hc, hfind, ok_bind]
        dsimp only
        rw [hprocess]
        rfl
      · rw [serve, hfind, List.map_cons, hlog]
        -- at most one of the matches is gone
        unfold matching at hle ⊢
        dsimp only
        split
        · rw [filter_erase_find hfind, List.length_tail]
          omega
        · omega

theorem allServed_iff_perm (d : Dispatcher) :
    AllServed d (.serviceCommand command) c ↔
      (serve (fun r : ClientFilterRecord => r.filter.matchesCommand c)
        (fun r => r.filter.isOneTime) (matching d c).length d.filters).Perm (matching d c) := by
  have hinj : Function.Injective fun r : ClientFilterRecord => Invocation.filter r c := by
    intro r r' h
    cases h
    rfl
  obtain ⟨d', log, hprocess, hlog⟩ := process_eq haction hc (matching d c).length d
  rw [hlog le_rfl] at hprocess
  constructor
  · rintro ⟨d'', log', hprocess', hperm⟩
    rw [hprocess] at hprocess'
    cases hprocess'
    exact (List.map_perm_map_iff hinj).mp hperm
  · exact fun h => ⟨d', _, hprocess, h.map _⟩

/-- **When all matching filters are served**: each of them but the last is a one-time
filter. -/
theorem allServed_iff {d₀ d : Dispatcher} (hd₀ : d₀.filters = []) {fs : List Filter}
    (hregister : register d₀ fs = .ok d) :
    AllServed d (.serviceCommand command) c ↔
      ∀ f ∈ (fs.filter fun f => f.matchesCommand c).dropLast, f.isOneTime = true := by
  have hfilters : d.filters = records d₀.added fs := by
    rw [filters_register hregister, hd₀, List.nil_append]
  rw [allServed_iff_perm haction hc, matching, hfilters, serve_perm_iff (nodup_records fs _),
    ← map_filter_records (fun f => f.matchesCommand c) fs d₀.added, ← List.map_dropLast]
  simp only [List.forall_mem_map]

end Process

/-! ### Two filters for one message -/

/-- A dispatcher that is connected. -/
def connected : Dispatcher := Dispatcher.create.start true

/-- A filter for all values of all devices. -/
def everything (options : UInt32) : Filter := ⟨[], 0, 0, options⟩

/-- A value from the sample device. -/
def sampleValue : Message := ⟨.data, 5, 0x0102, Body.single 0x01⟩

/-- What the router sends of it. -/
def sampleCopy : ServiceCommand := ReplyLink.routed sampleValue Router.sampleDevice false

/-- A one-time filter lets the filter behind it be served. -/
theorem allServed_one_time :
    ∃ d, register connected [everything Filter.optionOneTime, everything 0] = .ok d ∧
      AllServed d (.serviceCommand sampleCopy)
        (ReplyLink.received sampleValue Router.sampleDevice false) := by
  have hregister : ∃ d, register connected [everything Filter.optionOneTime, everything 0]
      = .ok d := ⟨_, rfl⟩
  have haction : sampleCopy.action = "send".toList := rfl
  have hreceived := ReplyLink.setFromServiceCommand_routed (d := Router.sampleDevice) (by decide)
    sampleValue false
  obtain ⟨d, hd⟩ := hregister
  refine ⟨d, hd, (allServed_iff haction hreceived rfl hd).mpr ?_⟩
  decide

/-- Of two filters for all values the first one gets both copies. -/
theorem second_subscription_starved :
    ∃ d, register connected [everything 0, everything 0] = .ok d ∧
      ¬ AllServed d (.serviceCommand sampleCopy)
        (ReplyLink.received sampleValue Router.sampleDevice false) := by
  refine ⟨_, rfl, ?_⟩
  rintro ⟨d', log, hprocess, hperm⟩
  have hlog : log = [.filter ⟨everything 0, 1⟩ (ReplyLink.received sampleValue Router.sampleDevice
      false), .filter ⟨everything 0, 1⟩ (ReplyLink.received sampleValue Router.sampleDevice
      false)] := by
    cases hprocess
    rfl
  rw [hlog] at hperm
  exact absurd hperm (by decide)

end Subscriptions
end HomeAutomation
