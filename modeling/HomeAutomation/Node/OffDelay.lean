import HomeAutomation.Node.Handling

/-!
# The off delay of a switch

A switch that is on counts the ticks while its configuration asks for an off delay, and
goes off when the count reaches the delay.  The counter is kept in sixteen bits and
stepped before it is compared, the delay and the configuration can change at any time,
and only a write to the value, or a start, begins the count anew.

## Main definitions

* `Switch.Counting`, `Switch.ticked` — what a tick does to the record of a switch.
* `countedTicks` — the ticks that a run has counted on a channel.
* `Undisturbed` — no frame changes the switch, or the function of its channel.

## Main results

* `switches_tick` — a tick, by the channels.
* `Tallied.step` — the counter is the count.
* `runs_out` — an undisturbed switch, over any number of ticks.
* `offDelay` — when a switch goes off.

## References

`stm8/can_node/mod_switch.c`.
-/

namespace HomeAutomation

/-! ### The record of a switch -/

/-- A switch that counts: it is on, and its configuration asks for the delay. -/
def Switch.Counting (switch : Switch) : Prop :=
  switch.mode = .on ∧ hasBit switch.config switchConfigOffDelay = true

instance (switch : Switch) : Decidable switch.Counting := inferInstanceAs (Decidable (_ ∧ _))

/-- What a tick makes of the record of a switch. -/
def Switch.ticked (switch : Switch) : Switch :=
  if switch.mode = .off ∨ hasBit switch.config switchConfigOffDelay = false then switch
  else if switch.offTimer + 1 ≥ switch.offDelay then { switch with mode := .off, offTimer := 0 }
  else { switch with offTimer := switch.offTimer + 1 }

namespace Switch

variable {switch : Switch}

theorem ticked_of_not_counting (h : ¬ switch.Counting) : switch.ticked = switch := by
  refine if_pos ?_
  cases hmode : switch.mode with
  | off => exact Or.inl rfl
  | on => exact Or.inr (by simpa [Counting, hmode] using h)

/-- A counter below the last value is stepped as a number. -/
theorem offTimer_succ (h : switch.offTimer.toNat + 1 < 65536) :
    (switch.offTimer + 1).toNat = switch.offTimer.toNat + 1 := by
  rw [UInt16.toNat_add]
  exact Nat.mod_eq_of_lt h

/-- **A tick of a switch that counts**: it goes off when the counter, stepped, reaches the
delay. -/
theorem ticked_of_counting (hcounting : switch.Counting)
    (h : switch.offTimer.toNat + 1 < 65536) :
    (switch.offDelay.toNat ≤ switch.offTimer.toNat + 1 ∧
      switch.ticked = { switch with mode := .off, offTimer := 0 }) ∨
    (switch.offTimer.toNat + 1 < switch.offDelay.toNat ∧
      switch.ticked = { switch with offTimer := switch.offTimer + 1 }) := by
  have hnot : ¬ (switch.mode = .off ∨ hasBit switch.config switchConfigOffDelay = false) := by
    rintro (hmode | hbit)
    · exact nomatch hcounting.1.symm.trans hmode
    · exact nomatch hcounting.2.symm.trans hbit
  have hcompare : switch.offTimer + 1 ≥ switch.offDelay ↔
      switch.offDelay.toNat ≤ switch.offTimer.toNat + 1 := by
    rw [ge_iff_le, UInt16.le_iff_toNat_le, offTimer_succ h]
  rw [ticked, if_neg hnot]
  by_cases hle : switch.offDelay.toNat ≤ switch.offTimer.toNat + 1
  · exact Or.inl ⟨hle, if_pos (hcompare.mpr hle)⟩
  · exact Or.inr ⟨Nat.lt_of_not_le hle, if_neg fun hge => hle (hcompare.mp hge)⟩

/-- A switch that does not count stays as it is. -/
theorem iterate_ticked_of_not_counting (h : ¬ switch.Counting) (ticks : ℕ) :
    ticked^[ticks] switch = switch :=
  Function.iterate_fixed (ticked_of_not_counting h) ticks

/-- **After how many ticks a switch that counts is off**: the first one is enough when the
delay is over already. -/
theorem iterate_ticked_off_iff (ticks : ℕ) : ∀ {switch : Switch}, switch.Counting →
    switch.offTimer.toNat + 1 < 65536 →
      ((ticked^[ticks] switch).mode = .off ↔
        max 1 (switch.offDelay.toNat - switch.offTimer.toNat) ≤ ticks) := by
  induction ticks with
  | zero =>
    intro switch hcounting _
    refine iff_of_false (fun hmode => ?_) (by omega)
    exact nomatch hcounting.1.symm.trans hmode
  | succ ticks ih =>
    -- one tick either switches off or counts one further
    intro switch hcounting hroom
    rw [Function.iterate_succ_apply]
    obtain ⟨hle, hticked⟩ | ⟨hlt, hticked⟩ := ticked_of_counting hcounting hroom
    · have hoff : ¬ switch.ticked.Counting := by
        rw [hticked]
        exact fun h => nomatch h.1
      -- once off, no tick counts
      rw [iterate_ticked_of_not_counting hoff, hticked]
      exact iff_of_true rfl (by omega)
    · have hstepped : switch.ticked.offTimer.toNat = switch.offTimer.toNat + 1 := by
        rw [hticked]
        exact offTimer_succ hroom
      have hdelay : switch.ticked.offDelay = switch.offDelay := by rw [hticked]
      have hcounting' : switch.ticked.Counting := by
        rw [hticked]
        exact hcounting
      -- the counter stays below the delay, so it does not wrap
      have hlast := switch.offDelay.toNat_lt
      rw [ih hcounting' (by omega), hstepped, hdelay]
      omega

end Switch

namespace Node

/-! ### The switches behind a step -/

theorem switches_switchTimer (c : Channel) (n : Node) :
    (n.switchTimer c).switches = Function.update n.switches c (n.switches c).ticked := by
  unfold switchTimer Switch.ticked
  dsimp only
  split
  · exact (Function.update_eq_self c n.switches).symm
  split
  · rfl
  · rfl

/-- **What a tick makes of the switches.** -/
theorem switches_tick {inputs : Inputs} {n n' : Node}
    (h : timerChannels inputs channels n = .ok n') (c : Channel) :
    n'.switches c =
      if n.channelModules c = some .switch then (n.switches c).ticked else n.switches c := by
  have hlocal := timerChannels_local (m := .switch) nofun switches (fun _ => Switch.ticked) ?_
    (fun _ _ _ _ hk htimer => (touches_onTimer htimer).switches hk) nodup_channels h c
  · simpa only [mem_channels, true_and] using hlocal
  intro d n n' htimer
  cases htimer
  exact switches_switchTimer d _

/-- Behind a start no switch has counted. -/
theorem offTimer_boot {inputs : Inputs} {n n' : Node} (h : n.boot inputs = .ok n') (c : Channel) :
    (n'.switches c).offTimer = 0 := by
  refine boot_rule (I := fun m => (m.switches c).offTimer = 0)
    (J := fun m => (m.switches c).offTimer = 0) h rfl (fun _ _ _ hn => hn) ?_ (fun _ hn => hn) ?_
  · intro d f n n' hn hset
    rw [(setChannel_records hset).1.1]
    exact hn
  · intro d m n stream r hn hm hload
    by_cases hown : d = c ∧ m = .switch
    · obtain ⟨rfl, rfl⟩ := hown
      cases hload
      simp [switchLoad, switchUpdate, gpioWrite, setSwitch]
    · rw [(touches_onLoad hload).switch_eq hown]
      exact hn

/-- What a frame for a switch makes of its record. -/
theorem switches_switchWrite (c : Channel) (address length : UInt8) (value : Fin 8 → UInt8)
    (n : Node) :
    (n.switchWrite c address length value).switches
      = Function.update n.switches c (switchAssign (n.switches c) address length value) := rfl

/-- **A write keeps the mode and the counter**, unless it is a byte for the value: that one
sets the mode, and begins the count anew. -/
theorem switchAssign_cases (switch : Switch) (address length : UInt8) (value : Fin 8 → UInt8) :
    (address = SwitchField.value.toByte ∧ length = 1 ∧
      switchAssign switch address length value
        = { switch with mode := if value 0 ≠ 0 then .on else .off, offTimer := 0 }) ∨
    (¬ (address = SwitchField.value.toByte ∧ length = 1) ∧
      (switchAssign switch address length value).mode = switch.mode ∧
      (switchAssign switch address length value).offTimer = switch.offTimer) := by
  rw [← SwitchField.ofByte_eq_some_iff]
  unfold switchAssign
  -- only a write of one byte to the value starts a count anew
  cases SwitchField.ofByte address with
  | none => exact Or.inr ⟨nofun, rfl, rfl⟩
  | some field =>
    cases field with
    | config =>
      refine Or.inr ⟨nofun, ?_⟩
      dsimp only
      split <;> exact ⟨rfl, rfl⟩
    | value =>
      by_cases hlength : length = 1
      · exact Or.inl ⟨rfl, hlength, if_pos hlength⟩
      · refine Or.inr ⟨fun h => hlength h.2, ?_⟩
        dsimp only
        rw [if_neg hlength]
        exact ⟨rfl, rfl⟩
    | offDelay =>
      refine Or.inr ⟨nofun, ?_⟩
      dsimp only
      split <;> exact ⟨rfl, rfl⟩

/-! ### The count -/

/-- A step that begins the count of a channel anew: a start, or a byte for the value of the
switch. -/
def BeginsCount (c : Channel) (n : Node) (e : Event × Inputs) : Prop :=
  n.Resets e ∨
    match e.1 with
    | .frame frame => n.WritesByte c .switch SwitchField.value.toByte frame
    | _ => False

/-- A tick that is counted: the channel runs a switch, and the switch counts. -/
def CountsTick (c : Channel) (n : Node) (e : Event × Inputs) : Prop :=
  match e.1 with
  | .tick => n.channelModules c = some .switch ∧ (n.switches c).Counting
  | _ => False

instance (c : Channel) (n : Node) (e : Event × Inputs) : Decidable (BeginsCount c n e) :=
  match e with
  | (.frame _, _) => inferInstanceAs (Decidable (_ ∨ _))
  | (.tick, _) => inferInstanceAs (Decidable (_ ∨ False))
  | (.powerCycle, _) => inferInstanceAs (Decidable (_ ∨ False))

instance (c : Channel) (n : Node) (e : Event × Inputs) : Decidable (CountsTick c n e) :=
  match e with
  | (.frame _, _) => inferInstanceAs (Decidable False)
  | (.tick, _) => inferInstanceAs (Decidable (_ ∧ _))
  | (.powerCycle, _) => inferInstanceAs (Decidable False)

/-- What a step makes of the count. -/
def countStep (c : Channel) (count : ℕ) (t : Node × (Event × Inputs) × Node) : ℕ :=
  if BeginsCount c t.1 t.2.1 then 0
  else if CountsTick c t.1 t.2.1 then count + 1
  else count

section countStep

variable {c : Channel} {n n' : Node} {count : ℕ}

theorem countStep_begins {e : Event × Inputs} (h : BeginsCount c n e) :
    countStep c count (n, e, n') = 0 := if_pos h

/-- A frame that begins nothing leaves the count as it is. -/
theorem countStep_frame {frame : CanFrame} {inputs : Inputs}
    (h : ¬ BeginsCount c n (.frame frame, inputs)) :
    countStep c count (n, (.frame frame, inputs), n') = count :=
  (if_neg h).trans (if_neg id)

theorem countStep_tick {inputs : Inputs} :
    countStep c count (n, (.tick, inputs), n')
      = if n.channelModules c = some .switch ∧ (n.switches c).Counting then count + 1
        else count := by
  have hbegins : ¬ BeginsCount c n (.tick, inputs) := not_or.mpr ⟨id, id⟩
  exact if_neg hbegins

end countStep

/-- **The ticks that were counted**: those that a switch on the channel handled, while it
was on and its configuration asked for the delay, since the last write to its value or the
last start. -/
def countedTicks (c : Channel) (steps : List (Node × (Event × Inputs) × Node)) : ℕ :=
  steps.foldl (countStep c) 0

/-- **The counter of a switch is the count**, as long as the switch is on; it has room for
another tick. -/
structure Tallied (c : Channel) (n : Node) (count : ℕ) : Prop where
  counted : (n.switches c).mode = .on → (n.switches c).offTimer.toNat = count
  off : (n.switches c).mode = .off → (n.switches c).offTimer = 0
  room : (n.switches c).offTimer.toNat + 1 < 65536

theorem Tallied.congr {c : Channel} {n n' : Node} {count : ℕ} (h : Tallied c n count)
    (hmode : (n'.switches c).mode = (n.switches c).mode)
    (htimer : (n'.switches c).offTimer = (n.switches c).offTimer) : Tallied c n' count := by
  refine ⟨?_, ?_, ?_⟩
  · rw [hmode, htimer]
    exact h.counted
  · rw [hmode, htimer]
    exact h.off
  · rw [htimer]
    exact h.room

/-- A counter that begins anew. -/
theorem tallied_zero {c : Channel} {n : Node} (h : (n.switches c).offTimer = 0) :
    Tallied c n 0 := by
  refine ⟨fun _ => ?_, fun _ => h, ?_⟩
  · rw [h]
    rfl
  · rw [h]
    decide

/-- A tick: the counter of a switch that counts is stepped, or the switch goes off. -/
theorem Tallied.tick {inputs : Inputs} {c : Channel} {n n' : Node} {count : ℕ}
    (h : Tallied c n count) (htick : timerChannels inputs channels n = .ok n') :
    Tallied c n' (countStep c count (n, (.tick, inputs), n')) := by
  have hswitches := switches_tick htick c
  rw [countStep_tick]
  -- either this tick counts, or it leaves the switch as it is
  by_cases hticks : n.channelModules c = some .switch ∧ (n.switches c).Counting
  · obtain ⟨hmodule, hcounting⟩ := hticks
    rw [if_pos ⟨hmodule, hcounting⟩]
    rw [if_pos hmodule] at hswitches
    obtain ⟨-, hticked⟩ | ⟨hlt, hticked⟩ := Switch.ticked_of_counting hcounting h.room
    · rw [hticked] at hswitches
      refine ⟨fun hmode => ?_, fun _ => ?_, ?_⟩
      · rw [hswitches] at hmode
        exact nomatch hmode
      · rw [hswitches]
      · rw [hswitches]
        exact (by decide : (0 : UInt16).toNat + 1 < 65536)
    -- one tick more, and still below the delay
    · rw [hticked] at hswitches
      have hstepped : (n'.switches c).offTimer.toNat = (n.switches c).offTimer.toNat + 1 := by
        rw [hswitches]
        exact Switch.offTimer_succ h.room
      have hdelay := (n.switches c).offDelay.toNat_lt
      refine ⟨fun _ => ?_, fun hmode => ?_, ?_⟩
      · rw [hstepped, h.counted hcounting.1]
      · rw [hswitches] at hmode
        exact nomatch hcounting.1.symm.trans hmode
      · omega
  · rw [if_neg hticks]
    have hsame : n'.switches c = n.switches c := by
      rw [hswitches]
      split
      · next hmodule =>
        exact Switch.ticked_of_not_counting fun hcounting => hticks ⟨hmodule, hcounting⟩
      · rfl
    exact h.congr (by rw [hsame]) (by rw [hsame])

/-- **Every step keeps the counter and the count together.** -/
theorem Tallied.step {c : Channel} {n n' : Node} {e : Event × Inputs} {count : ℕ}
    (h : Tallied c n count) (hstep : n.step e = some n') :
    Tallied c n' (countStep c count (n, e, n')) := by
  obtain ⟨event, inputs⟩ := e
  cases handling_step hstep with
  | tick htick => exact h.tick htick
  | @quiet frame receivedId sent calls label eeprom hsent hresets hassigns hcommands =>
    have hbegins : ¬ BeginsCount c n (.frame frame, inputs) :=
      not_or.mpr ⟨hresets, fun hwrites => hcommands c .switch hwrites.1⟩
    rw [countStep_frame hbegins]
    exact h.congr rfl rfl
  | @assigned frame _ d functionId hassigns hset =>
    have hbegins : ¬ BeginsCount c n (.frame frame, inputs) :=
      not_or.mpr ⟨hassigns.1.not_resets, fun hwrites => hassigns.not_commands hwrites.1⟩
    have hswitches : n'.switches = n.switches := (setChannel_records hset).1.1
    rw [countStep_frame hbegins]
    exact h.congr (by rw [hswitches]) (by rw [hswitches])
  | @commanded frame d m hcommands =>
    have htouches := touches_onWrite inputs d (addressLo frame.address) frame.length frame.payload
      ((n.receiving frame).called m .write d) m
    -- the command is for this switch, or for another channel or module
    by_cases hown : d = c ∧ m = .switch
    · obtain ⟨rfl, rfl⟩ := hown
      have hswitches := switches_switchWrite d (addressLo frame.address) frame.length frame.payload
        ((n.receiving frame).called .switch .write d)
      have hrecord := (congrFun hswitches d).trans (Function.update_self ..)
      -- a write to the value starts the count again, any other write leaves it
      obtain ⟨hfield, hlength, hassign⟩ | ⟨hother, hmode, htimer⟩ :=
        switchAssign_cases (n.switches d) (addressLo frame.address) frame.length frame.payload
      · have hbegins : BeginsCount d n (.frame frame, inputs) :=
          Or.inr ⟨hcommands, hfield, hlength⟩
        rw [countStep_begins hbegins]
        exact tallied_zero ((congrArg Switch.offTimer hrecord).trans
          (congrArg Switch.offTimer hassign))
      · have hbegins : ¬ BeginsCount d n (.frame frame, inputs) :=
          not_or.mpr ⟨hcommands.1.not_resets, fun hwrites => hother hwrites.2⟩
        rw [countStep_frame hbegins]
        exact h.congr ((congrArg Switch.mode hrecord).trans hmode)
          ((congrArg Switch.offTimer hrecord).trans htimer)
    · have hbegins : ¬ BeginsCount c n (.frame frame, inputs) := by
        refine not_or.mpr ⟨hcommands.1.not_resets, fun hwrites => hown ?_⟩
        obtain ⟨hc, hm⟩ := hwrites.1.unique hcommands
        exact ⟨hc, hm⟩
      have hsame := htouches.switch_eq hown
      rw [countStep_frame hbegins]
      exact h.congr (congrArg Switch.mode hsame) (congrArg Switch.offTimer hsame)
  -- a restart clears the timer
  | restarted hresets hsent hboot =>
    rw [countStep_begins (Or.inl hresets)]
    exact tallied_zero (offTimer_boot hboot c)

/-- **The counter behind a run from a start.** -/
theorem tallied_of_exec {n₀ n : Node} (h₀ : n₀.Started) {es : List (Event × Inputs)}
    (hrun : Run.exec step n₀ es = some n) (c : Channel) :
    Tallied c n (countedTicks c (Run.trace step n₀ es)) := by
  obtain ⟨eeprom, inputs, hboot⟩ := h₀
  exact Run.foldl_rule (J := fun n count => Tallied c n count) (countStep c)
    (fun _ _ _ _ h hstep => h.step hstep) (tallied_zero (offTimer_boot hboot c)) hrun

/-! ### Undisturbed runs -/

/-- **No frame changes the switch**, or the function of its channel, and there is no
reset. -/
def Undisturbed (c : Channel) (n : Node) (e : Event × Inputs) : Prop :=
  KeepsFunction c n e ∧ ∀ frame, e.1 = .frame frame → ¬ n.Commands c .switch frame

/-- Whether an event is a tick. -/
def Event.isTick : Event → Bool
  | .tick => true
  | _ => false

/-- The number of ticks in a run. -/
def ticksOf (es : List (Event × Inputs)) : ℕ := es.countP fun e => e.1.isTick

/-- A step that leaves a switch undisturbed is a tick of it, or nothing. -/
theorem undisturbed_step {c : Channel} {n n' : Node} {e : Event × Inputs}
    (hc : n.channelModules c = some .switch) (hstay : Undisturbed c n e)
    (h : n.step e = some n') :
    n'.channelModules c = some .switch ∧
      n'.switches c = if e.1.isTick then (n.switches c).ticked else n.switches c := by
  refine ⟨(hstay.1.channelModules h).trans hc, ?_⟩
  obtain ⟨event, inputs⟩ := e
  cases handling_step h with
  | tick htick => exact (switches_tick htick c).trans (if_pos hc)
  | quiet => rfl
  | assigned hassigns hset => exact congrFun (setChannel_records hset).1.1 c
  | @commanded frame d m hcommands =>
    have htouches := touches_onWrite inputs d (addressLo frame.address) frame.length frame.payload
      ((n.receiving frame).called m .write d) m
    refine htouches.switch_eq ?_
    rintro ⟨rfl, rfl⟩
    exact hstay.2 frame rfl hcommands
  | restarted hresets => exact absurd hresets hstay.1.1

/-- **An undisturbed switch ticks**, and nothing else. -/
theorem switches_undisturbed {c : Channel} : ∀ {es : List (Event × Inputs)} {n n' : Node},
    n.channelModules c = some .switch → Run.Along step (Undisturbed c) n es →
    Run.exec step n es = some n' → n'.switches c = Switch.ticked^[ticksOf es] (n.switches c) := by
  intro es
  induction es with
  | nil =>
    intro n n' _ _ h
    cases h
    rfl
  | cons e es ih =>
    intro n n' hc hstay h
    obtain ⟨n₁, hfirst, h⟩ := Option.bind_eq_some_iff.mp h
    obtain ⟨hc₁, hswitch⟩ := undisturbed_step hc hstay.1 hfirst
    have hticks : ticksOf (e :: es) = ticksOf es + if e.1.isTick then 1 else 0 :=
      List.countP_cons
    -- a tick moves the switch on, any other event leaves it
    rw [ih hc₁ (hstay.2 n₁ hfirst) h, hswitch, hticks]
    cases e.1.isTick with
    | true => exact (Function.iterate_succ_apply Switch.ticked _ _).symm
    | false => rfl

/-! ### When a switch goes off -/

/-- **When a switch goes off.**  Behind any run from a start, on any channel that runs a
switch: a tick switches it off exactly when it is on, its configuration asks for the delay,
and the ticks counted so far, with this one, are at least the delay.  The counter never
wraps.  And a switch that is left undisturbed goes off by itself exactly when its
configuration asks for it, at the tick with which the count reaches the delay, or else at
the next one: with nothing counted yet, at tick `max 1 d`. -/
theorem offDelay {n₀ n : Node} (h₀ : n₀.Started) {es : List (Event × Inputs)}
    (hrun : Run.exec step n₀ es = some n) {c : Channel} (hc : n.channelModules c = some .switch) :
    let count := countedTicks c (Run.trace step n₀ es)
    let delay := (n.switches c).offDelay.toNat
    (∀ inputs n', n.step (.tick, inputs) = some n' →
      ((n.switches c).mode = .on ∧ (n'.switches c).mode = .off ↔
        (n.switches c).mode = .on ∧ hasBit (n.switches c).config switchConfigOffDelay = true ∧
          delay ≤ count + 1)) ∧
    (n.switches c).offTimer.toNat + 1 < 65536 ∧
    ∀ fs n', Run.Along step (Undisturbed c) n fs → Run.exec step n fs = some n' →
      (n.switches c).mode = .on →
        (hasBit (n.switches c).config switchConfigOffDelay = true →
          ((n'.switches c).mode = .off ↔ max 1 (delay - count) ≤ ticksOf fs)) ∧
        (hasBit (n.switches c).config switchConfigOffDelay = false →
          (n'.switches c).mode = .on) := by
  have htallied := tallied_of_exec h₀ hrun c
  intro count delay
  refine ⟨fun inputs n' hstep => ?_, htallied.room, fun fs n' hstay hfs hon => ⟨fun hbit => ?_,
    fun hbit => ?_⟩⟩
  · have htick : timerChannels inputs channels n = .ok n' := handle_eq_ok_of_step hstep
    have hswitches := (switches_tick htick c).trans (if_pos hc)
    -- the timer of a switch that is on is the count itself
    refine and_congr_right fun hon => ?_
    have hcount : (n.switches c).offTimer.toNat = count := htallied.counted hon
    by_cases hcounting : (n.switches c).Counting
    · obtain ⟨hle, hticked⟩ | ⟨hlt, hticked⟩ := Switch.ticked_of_counting hcounting htallied.room
      · rw [hswitches, hticked]
        exact iff_of_true rfl ⟨hcounting.2, hcount ▸ hle⟩
      · rw [hswitches, hticked]
        refine iff_of_false (fun hoff => nomatch hon.symm.trans hoff) fun h => ?_
        rw [← hcount] at h
        exact Nat.not_le.mpr hlt h.2
    · rw [hswitches, Switch.ticked_of_not_counting hcounting]
      exact iff_of_false (fun hoff => nomatch hon.symm.trans hoff) fun h => hcounting ⟨hon, h.1⟩
  · rw [switches_undisturbed hc hstay hfs,
      Switch.iterate_ticked_off_iff _ ⟨hon, hbit⟩ htallied.room, htallied.counted hon]
  · rw [switches_undisturbed hc hstay hfs, Switch.iterate_ticked_of_not_counting fun hcounting =>
      nomatch hcounting.2.symm.trans hbit]
    exact hon

/-- An EEPROM with a switch on channel 0 that is on at the start, and goes off after two
ticks. -/
def delayEeprom : ℕ → UInt8 := fun i =>
  [0x53, 5, 0, 0, 0, 0, 0, 0, 0, 0, 1, 0, 0, 0, 0x06, 0, 2].getD i 0

/-- The second tick switches it off. -/
theorem offDelay_two : ∃ n₀ n n' : Node, n₀.Started ∧
    Run.exec step n₀ [(.tick, .idle)] = some n ∧ n.step (.tick, .idle) = some n' ∧
    (n.switches 0).mode = .on ∧ (n'.switches 0).mode = .off := by
  obtain ⟨n₀, hboot, n, hrun, n', hstep, hc, hon, hbit, hdelay, hcount⟩ :
      ∃ n₀, (blank delayEeprom).boot .idle = .ok n₀ ∧
        ∃ n, Run.exec step n₀ [(.tick, .idle)] = some n ∧ ∃ n', n.step (.tick, .idle) = some n' ∧
          n.channelModules 0 = some .switch ∧ (n.switches 0).mode = .on ∧
          hasBit (n.switches 0).config switchConfigOffDelay = true ∧
          (n.switches 0).offDelay.toNat = 2 ∧
          countedTicks 0 (Run.trace step n₀ [(.tick, .idle)]) = 1 :=
    ⟨_, rfl, _, rfl, _, rfl, by decide, by decide, by decide, by decide, by decide⟩
  obtain ⟨htick, -, -⟩ := offDelay ⟨_, _, hboot⟩ hrun hc
  have hoff := (htick .idle n' hstep).mpr ⟨hon, hbit, by rw [hdelay, hcount]⟩
  exact ⟨n₀, n, n', ⟨_, _, hboot⟩, hrun, hstep, hoff⟩

end Node
end HomeAutomation
