import HomeAutomation.Node.AnalogBookkeeping

/-!
# How the sensors take turns

A conversion is started on one tick and its value fetched on a later one; then it is the
next sensor's turn.  `CAN_Node_handle_timer` comes past the channels in their order, so
one tick is four turns, and a sensor that gets its turn in the middle of a tick may start
at once.

A value is fetched only where the next channel has a sensor: `select_next_sensor` does
not come back otherwise, and a lone sensor is started again and again.  So every sensor
is read exactly when there are four of them; then the turns go through eight phases.

## Main definitions

* `turn`, `turns` — a tick of one channel, and those of some ticks.
* `Fetches` — a turn fetches the value of a sensor.
* `Sampled` — the ticks end, and every sensor is read, each time with a value of its own.
* `Phase`, `phaseTurn` — whose turn it is, and whether its conversion runs.

## Main results

* `exec_ticks` — ticks are turns.
* `timerChannel_fetches` — what a turn that fetches a value does.
* `phase_timerChannel` — four sensors go from phase to phase.
* `sampled_iff` — when every sensor is sampled.

## References

`stm8/can_node/mod_analog.c`, `module.c`.
-/

namespace HomeAutomation
namespace Node

/-! ### Turns -/

/-- A turn of the loop of `CAN_Node_handle_timer`, as a step. -/
def turn (n : Node) (e : Inputs × Channel) : Option Node := (n.timerChannel e.1 e.2).toOption

/-- The turns of some ticks. -/
def turns (ticks : List Inputs) : List (Inputs × Channel) :=
  ticks.flatMap fun inputs => channels.map fun c => (inputs, c)

theorem turn_eq_some_iff {n n' : Node} {inputs : Inputs} {c : Channel} :
    n.turn (inputs, c) = some n' ↔ n.timerChannel inputs c = .ok n' := by
  unfold turn
  cases n.timerChannel inputs c with
  | error fault => exact iff_of_false nofun nofun
  | ok n₁ => exact ⟨fun h => by cases h; rfl, fun h => by cases h; rfl⟩

theorem exec_turns (inputs : Inputs) (cs : List Channel) (n : Node) :
    Run.exec turn n (cs.map fun c => (inputs, c)) = (timerChannels inputs cs n).toOption := by
  induction cs generalizing n with
  | nil => rfl
  | cons c cs ih =>
    rw [List.map_cons, Run.exec, timerChannels, turn]
    cases n.timerChannel inputs c with
    | error fault => rfl
    | ok n₁ => exact ih n₁

/-- **Ticks are turns.** -/
theorem exec_ticks (ticks : List Inputs) (n : Node) :
    Run.exec step n (ticks.map fun inputs => (.tick, inputs)) = Run.exec turn n (turns ticks) := by
  induction ticks generalizing n with
  | nil => rfl
  | cons inputs ticks ih =>
    have htick : n.step (.tick, inputs) = (timerChannels inputs channels n).toOption := rfl
    rw [turns, List.flatMap_cons, Run.exec_append, exec_turns, List.map_cons, Run.exec, htick]
    cases (timerChannels inputs channels n).toOption with
    | none => rfl
    | some n₁ => exact ih n₁

/-- Every tick comes past the channels in their order. -/
theorem map_turns (ticks : List Inputs) :
    (turns ticks).map Prod.snd = (List.replicate ticks.length channels).flatten := by
  induction ticks with
  | nil => rfl
  | cons inputs ticks ih =>
    rw [turns, List.flatMap_cons, List.map_append, List.length_cons, List.replicate_succ,
      List.flatten_cons]
    exact congrArg₂ (· ++ ·) (by simp) ih

/-- The turn fetches the value of the sensor: it waited for one, and waits no more. -/
def Fetches (c : Channel) (t : Node × (Inputs × Channel) × Node) : Prop :=
  t.2.1.2 = c ∧ (t.1.analogSensors c).state = .active ∧
    (t.2.2.analogSensors c).state = .inactive

/-- **Every sensor is sampled**: the ticks end, every sensor's value is fetched at least
once, and what is stored is the result of the conversion that was started last, which was
started for this sensor. -/
structure Sampled (n : Node) (ticks : List Inputs) : Prop where
  terminates : ∃ n', Run.exec step n (ticks.map fun inputs => (.tick, inputs)) = some n'
  updated : ∀ c, n.channelModules c = some .analog →
    ∃ t ∈ Run.trace turn n (turns ticks), Fetches c t
  paired : ∀ c, ∀ t ∈ Run.trace turn n (turns ticks), Fetches c t →
    t.1.adc.started = some c ∧ (t.2.2.analogSensors c).value = t.2.1.1.conversion c

theorem timerChannel_analog {inputs : Inputs} {c : Channel} {n n' : Node}
    (hm : n.channelModules c = some .analog) (h : n.timerChannel inputs c = .ok n') :
    (n.called .analog .timer c).analogTimer inputs c = .ok n' := by
  unfold timerChannel at h
  rw [hm] at h
  exact h

/-- **A value is fetched from the conversion that was started for it**, and only where
the next channel has a sensor. -/
theorem timerChannel_fetches {inputs : Inputs} {c : Channel} {n n' : Node}
    (hn : n.books.Balanced) (h : n.timerChannel inputs c = .ok n')
    (hfetch : Fetches c (n, (inputs, c), n')) :
    n.adc.started = some c ∧ (n'.analogSensors c).value = inputs.conversion c ∧
      n.channelModules (c + 1) = some .analog := by
  obtain ⟨-, hactive, hinactive⟩ := hfetch
  have hm : n.channelModules c = some .analog := by
    have henabled : n.books.state c ≠ .disabled := by
      intro h
      cases hactive.symm.trans h
    simpa [books] using (hn.enabled_iff c).mp henabled
  rcases analogTimer_cases (timerChannel_analog hm h) with
    rfl | ⟨-, rfl | ⟨-, henabled, rfl⟩⟩
  · cases hactive.symm.trans hinactive
  · simp [analogActivate, setSensor] at hinactive
  · refine ⟨(hn.active c hactive).2, by simp [analogDeactivate, setSensor], ?_⟩
    have hnext : n.books.state (c + 1) ≠ .disabled := by
      simpa [Enabled, analogDeactivate, setSensor, succ_ne, books, called] using henabled
    simpa [books] using (hn.enabled_iff (c + 1)).mp hnext

/-! ### The books along the turns -/

/-- What every turn keeps: the books agree, and the table of modules is the one it was. -/
theorem timerChannel_keeps {inputs : Inputs} {c : Channel} {n n' : Node} (hn : n.books.Balanced)
    (h : n.timerChannel inputs c = .ok n') :
    n'.books.Balanced ∧ n'.channelModules = n.channelModules := by
  refine ⟨?_, (timerChannel_identity h).1⟩
  obtain ⟨rfl, -⟩ | ⟨m, hm, htimer⟩ := timerChannel_cases h
  · exact hn
  · exact balanced_onTimer (n := n.called m .timer c) hn hm htimer

/-- **Every value that is fetched in some turns** is of the conversion that was started
for it, and the next channel has a sensor. -/
theorem trace_fetches {n : Node} (hn : n.books.Balanced) (es : List (Inputs × Channel))
    (c : Channel) : ∀ t ∈ Run.trace turn n es, Fetches c t →
      t.1.adc.started = some c ∧ (t.2.2.analogSensors c).value = t.2.1.1.conversion c ∧
        n.channelModules (c + 1) = some .analog := by
  have hstep : ∀ m e m', (m.books.Balanced ∧ m.channelModules = n.channelModules) →
      turn m e = some m' → (m'.books.Balanced ∧ m'.channelModules = n.channelModules) ∧
        (Fetches c (m, e, m') → m.adc.started = some c ∧
          (m'.analogSensors c).value = e.1.conversion c ∧
          n.channelModules (c + 1) = some .analog) := by
    rintro m ⟨inputs, d⟩ m' ⟨hbalanced, hmodules⟩ hturn
    have h := turn_eq_some_iff.mp hturn
    obtain ⟨hbalanced', hmodules'⟩ := timerChannel_keeps hbalanced h
    refine ⟨⟨hbalanced', hmodules'.trans hmodules⟩, fun hfetch => ?_⟩
    obtain rfl : d = c := hfetch.1
    rw [← hmodules]
    exact timerChannel_fetches hbalanced h hfetch
  exact Run.trace_rule hstep es n ⟨hn, rfl⟩

/-! ### Four sensors -/

/-- Where four sensors are: whose turn it is, and whether its conversion runs. -/
structure Phase (n : Node) (selected : Channel) (running : Bool) : Prop where
  balanced : n.books.Balanced
  all : ∀ c, n.channelModules c = some .analog
  turn : n.selectedSensor = selected
  state : (n.analogSensors selected).state = if running then .active else .inactive

/-- What a turn of a channel makes of the phase. -/
def phaseTurn (p : Channel × Bool) (c : Channel) : Channel × Bool :=
  if c ≠ p.1 then p else if p.2 then (p.1 + 1, false) else (p.1, true)

/-- The sensors whose values some turns fetch. -/
def phaseFetches : Channel × Bool → List Channel → List Channel
  | _, [] => []
  | p, c :: cs =>
    let rest := phaseFetches (phaseTurn p c) cs
    if c = p.1 ∧ p.2 = true then c :: rest else rest

/-- With four sensors there is more than one. -/
theorem Phase.count_ne_one {n : Node} {selected : Channel} {running : Bool}
    (h : Phase n selected running) : n.sensorCount ≠ 1 := by
  intro hone
  have hcount := h.balanced.count
  have hall : n.books.analog = fun _ => true := by
    funext c
    simp [books, h.all c]
  rw [hall] at hcount
  change n.sensorCount.toNat = _ at hcount
  rw [hone] at hcount
  exact absurd hcount (by decide)

/-- The sensor after the one whose turn it is does not wait for a value. -/
theorem Phase.next_inactive {n : Node} {selected : Channel} {running : Bool}
    (h : Phase n selected running) : (n.analogSensors (selected + 1)).state = .inactive := by
  have henabled : n.books.state (selected + 1) ≠ .disabled :=
    (h.balanced.enabled_iff _).mpr (by simp [books, h.all])
  cases hstate : (n.analogSensors (selected + 1)).state with
  | disabled => exact absurd hstate henabled
  | inactive => rfl
  | active =>
    exact absurd ((h.balanced.active _ hstate).1.trans h.turn) (succ_ne selected)

/-- **Four sensors go from phase to phase**, and fetch a value where the conversion of
the sensor whose turn it is runs. -/
theorem phase_timerChannel {n : Node} {selected : Channel} {running : Bool}
    (h : Phase n selected running) (inputs : Inputs) (c : Channel) :
    ∃ n', n.timerChannel inputs c = .ok n' ∧
      Phase n' (phaseTurn (selected, running) c).1 (phaseTurn (selected, running) c).2 ∧
      (c = selected → running = true → Fetches c (n, (inputs, c), n')) := by
  -- all channels are sensors, so the turn is the sensor's
  have htimer : n.timerChannel inputs c = (n.called .analog .timer c).analogTimer inputs c := by
    unfold timerChannel
    rw [h.all c]
    rfl
  have hphase : ∀ {n' : Node} {selected' : Channel} {running' : Bool},
      n.timerChannel inputs c = .ok n' → n'.selectedSensor = selected' →
      (n'.analogSensors selected').state = (if running' then .active else .inactive) →
      Phase n' selected' running' := by
    intro n' selected' running' hresult hturn hstate
    obtain ⟨hbalanced, hmodules⟩ := timerChannel_keeps h.balanced hresult
    exact ⟨hbalanced, fun d => hmodules ▸ h.all d, hturn, hstate⟩
  by_cases hc : c = selected
  · subst hc
    have hturn : (n.called .analog .timer c).selectedSensor = c := h.turn
    -- four sensors are counted, so the branch for a single one is not taken
    have hcount : (n.called .analog .timer c).sensorCount ≠ 1 := h.count_ne_one
    cases running with
    | false =>
      have hinactive : ((n.called .analog .timer c).analogSensors c).state = .inactive := h.state
      have hresult : n.timerChannel inputs c
          = .ok ((n.called .analog .timer c).analogActivate c) := by
        rw [htimer, analogTimer, if_neg (not_not.mpr hturn.symm), if_neg fun h => hcount h.1,
          hinactive]
      refine ⟨_, hresult, ?_, fun _ h => absurd h Bool.false_ne_true⟩
      rw [phaseTurn, if_neg (not_not.mpr rfl), if_neg Bool.false_ne_true]
      exact hphase hresult hturn (by simp [analogActivate, setSensor])
    | true =>
      have hactive : ((n.called .analog .timer c).analogSensors c).state = .active := h.state
      -- the next sensor is idle, so it can be selected
      have hkept : (((n.called .analog .timer c).analogDeactivate inputs c).analogSensors
          (c + 1)).state = .inactive := by
        simpa [analogDeactivate, setSensor, succ_ne, called] using h.next_inactive
      have hresult : n.timerChannel inputs c
          = .ok { (n.called .analog .timer c).analogDeactivate inputs c with
              selectedSensor := c + 1 } := by
        rw [htimer, analogTimer, if_neg (not_not.mpr hturn.symm), if_neg fun h => hcount h.1,
          hactive]
        refine selectNextSensor_eq_ok_iff.mpr ?_
        have hselected :
            ((n.called .analog .timer c).analogDeactivate inputs c).selectedSensor = c := h.turn
        rw [hselected]
        refine ⟨fun hdisabled => ?_, rfl⟩
        cases hkept.symm.trans hdisabled
      refine ⟨_, hresult, ?_, fun _ _ => ⟨rfl, h.state, by simp [analogDeactivate, setSensor]⟩⟩
      rw [phaseTurn, if_neg (not_not.mpr rfl), if_pos rfl]
      exact hphase hresult rfl hkept
  -- it is the turn of another sensor, so nothing happens
  · refine ⟨_, htimer.trans (if_pos ?_), ?_, fun h => absurd h hc⟩
    · exact fun heq => hc (heq.trans h.turn)
    · rw [phaseTurn, if_pos hc]
      exact ⟨h.balanced, h.all, h.turn, h.state⟩

/-- **The turns of four sensors**: they all come to their end, and fetch what the phases
say. -/
theorem phase_exec : ∀ (es : List (Inputs × Channel)) {n : Node} {p : Channel × Bool},
    Phase n p.1 p.2 → (∃ n', Run.exec turn n es = some n') ∧
      ∀ c ∈ phaseFetches p (es.map Prod.snd), ∃ t ∈ Run.trace turn n es, Fetches c t := by
  intro es
  induction es with
  | nil => exact fun _ => ⟨⟨_, rfl⟩, fun c hc => absurd hc List.not_mem_nil⟩
  | cons e es ih =>
    intro n p hp
    obtain ⟨inputs, c⟩ := e
    obtain ⟨n₁, hturn, hp₁, hfetch⟩ := phase_timerChannel hp inputs c
    have hsome : n.turn (inputs, c) = some n₁ := turn_eq_some_iff.mpr hturn
    obtain ⟨⟨n', hexec⟩, hrest⟩ := ih hp₁
    rw [Run.trace, hsome, Run.exec, hsome]
    refine ⟨⟨n', hexec⟩, fun d hd => ?_⟩
    rw [List.map_cons, phaseFetches] at hd
    -- what is fetched later is fetched in the rest of the trace
    have hlater : d ∈ phaseFetches (phaseTurn p c) (es.map Prod.snd) →
        ∃ t ∈ (n, (inputs, c), n₁) :: Run.trace turn n₁ es, Fetches d t := by
      intro hd
      obtain ⟨t, ht, hfetched⟩ := hrest d hd
      exact ⟨t, List.mem_cons_of_mem _ ht, hfetched⟩
    split at hd
    · next hnow =>
      rcases List.mem_cons.mp hd with rfl | hd
      · exact ⟨_, List.mem_cons_self, hfetch hnow.1 hnow.2⟩
      · exact hlater hd
    · exact hlater hd

/-- In ten ticks every sensor is read, from whatever phase they start. -/
theorem phaseFetches_ten : ∀ (selected : Channel) (running : Bool) (c : Channel),
    c ∈ phaseFetches (selected, running) (List.replicate 10 channels).flatten := by
  decide

/-! ### The exact condition -/

/-- The channels that run the analog module. -/
def analogChannels (n : Node) : List Channel :=
  channels.filter fun c => n.channelModules c = some .analog

/-- Around the channels, behind one of the sensors there is none, unless there are four. -/
theorem exists_last_sensor : ∀ p : Channel → Bool, (∃ c, p c = true) → ¬ (∀ c, p c = true) →
    ∃ c, p c = true ∧ p (c + 1) = false := by
  decide

/-- A reachable node with four sensors is in one of the phases. -/
theorem exists_phase {n : Node} (h : n.books.Balanced)
    (hall : ∀ c, n.channelModules c = some .analog) :
    ∃ running, Phase n n.selectedSensor running := by
  have henabled : n.books.state n.selectedSensor ≠ .disabled :=
    (h.enabled_iff _).mpr (by simp [books, hall])
  cases hstate : (n.analogSensors n.selectedSensor).state with
  | disabled => exact absurd hstate henabled
  | inactive => exact ⟨false, h, hall, rfl, hstate⟩
  | active => exact ⟨true, h, hall, rfl, hstate⟩

/-- A sensor with none behind it is not sampled. -/
theorem not_sampled_of_last {n : Node} (h : n.Reachable) {c : Channel}
    (hc : n.channelModules c = some .analog) (hbehind : n.channelModules (c + 1) ≠ some .analog)
    (ticks : List Inputs) : ¬ n.Sampled ticks := by
  intro hsampled
  obtain ⟨t, ht, hfetch⟩ := hsampled.updated c hc
  exact hbehind (trace_fetches h.balanced (turns ticks) c t ht hfetch).2.2

/-- **When every sensor is sampled.**  From a reachable state with some sensors, in twice
as many ticks and two more, every sensor is sampled exactly when all four channels have
one: otherwise one of them has no sensor behind it, and is never read. -/
theorem sampled_iff {n : Node} (h : n.Reachable) (hsome : n.analogChannels ≠ [])
    (ticks : List Inputs) (hticks : ticks.length = 2 * n.analogChannels.length + 2) :
    n.Sampled ticks ↔ ∀ c, n.channelModules c = some .analog := by
  have hbalanced := h.balanced
  constructor
  · intro hsampled
    -- with a gap, the last sensor before it passes the turn to a channel without one
    by_contra hnot
    obtain ⟨c, hc⟩ := List.exists_mem_of_ne_nil _ hsome
    have hc : n.channelModules c = some .analog := of_decide_eq_true (List.mem_filter.mp hc).2
    obtain ⟨d, hd, hbehind⟩ := exists_last_sensor (fun c => n.channelModules c = some .analog)
      ⟨c, by simpa using hc⟩ (by simpa using hnot)
    exact not_sampled_of_last h (by simpa using hd) (by simpa using hbehind) ticks hsampled
  · intro hall
    -- four sensors and ten ticks
    have hten : ticks.length = 10 := by
      rw [hticks, analogChannels, List.filter_eq_self.mpr fun c _ => by simp [hall c]]
      rfl
    have hchannels : (turns ticks).map Prod.snd = (List.replicate 10 channels).flatten := by
      rw [map_turns, hten]
    -- from any phase the ten rounds of turns come past every sensor
    obtain ⟨running, hphase⟩ := exists_phase hbalanced hall
    obtain ⟨hends, hread⟩ := phase_exec (turns ticks) (p := (n.selectedSensor, running)) hphase
    rw [hchannels] at hread
    refine ⟨?_, fun c _ => hread c (phaseFetches_ten _ _ c), fun c t ht hfetch => ?_⟩
    · rw [exec_ticks]
      exact hends
    · obtain ⟨hstarted, hvalue, -⟩ := trace_fetches hbalanced (turns ticks) c t ht hfetch
      exact ⟨hstarted, hvalue⟩

/-- An EEPROM with analog sensors on all four channels. -/
def fourSensors : ℕ → UInt8 := fun i => [header, 7, 0, 0, 0, 0, 0, 0, 0, 0, 3, 3, 3, 3].getD i 0

/-- Four sensors are sampled in ten ticks, whatever they measure. -/
theorem sampled_four : ∃ n : Node, n.Reachable ∧ n.analogChannels = channels ∧
    n.Sampled (List.replicate 10 .idle) := by
  obtain ⟨n, hboot, hchannels⟩ : ∃ n, (blank fourSensors).boot .idle = .ok n ∧
      n.analogChannels = channels := ⟨_, rfl, by decide⟩
  have hreachable : n.Reachable := .init ⟨_, _, hboot⟩
  have hall : ∀ c, n.channelModules c = some .analog := by
    intro c
    have hmem : c ∈ n.analogChannels := hchannels ▸ mem_channels c
    exact of_decide_eq_true (List.mem_filter.mp hmem).2
  exact ⟨n, hreachable, hchannels,
    (sampled_iff hreachable (by simp [hchannels, channels]) _ (by rw [hchannels]; rfl)).mpr hall⟩

/-- An EEPROM with one analog sensor, on channel 0. -/
def oneSensor : ℕ → UInt8 := fun i => [header, 7, 0, 0, 0, 0, 0, 0, 0, 0, 3, 0, 0, 0].getD i 0

/-- **A lone sensor is never read, nor is the first of two that are apart.** -/
theorem sensors_not_sampled :
    (∃ n : Node, n.Reachable ∧ n.analogChannels = [0] ∧
      ¬ n.Sampled (List.replicate 4 .idle)) ∧
    ∃ n : Node, n.Reachable ∧ n.analogChannels = [0, 2] ∧
      ¬ n.Sampled (List.replicate 6 .idle) := by
  obtain ⟨n₁, hboot₁, hchannels₁, hc₁, hbehind₁⟩ : ∃ n, (blank oneSensor).boot .idle = .ok n ∧
      n.analogChannels = [0] ∧ n.channelModules 0 = some .analog ∧
      n.channelModules 1 ≠ some .analog := ⟨_, rfl, by decide, by decide, by decide⟩
  obtain ⟨n₂, hboot₂, hchannels₂, hc₂, hbehind₂⟩ : ∃ n, (blank analogEeprom).boot .idle = .ok n ∧
      n.analogChannels = [0, 2] ∧ n.channelModules 0 = some .analog ∧
      n.channelModules 1 ≠ some .analog := ⟨_, rfl, by decide, by decide, by decide⟩
  have hreachable₁ : n₁.Reachable := .init ⟨_, _, hboot₁⟩
  have hreachable₂ : n₂.Reachable := .init ⟨_, _, hboot₂⟩
  exact ⟨⟨n₁, hreachable₁, hchannels₁, not_sampled_of_last hreachable₁ hc₁ hbehind₁ _⟩,
    n₂, hreachable₂, hchannels₂, not_sampled_of_last hreachable₂ hc₂ hbehind₂ _⟩

end Node
end HomeAutomation
