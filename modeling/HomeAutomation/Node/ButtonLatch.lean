import HomeAutomation.Node.Handling

/-!
# The latch of a button

A button keeps a state, and looks at its pin on every tick, behind a new configuration, and
behind a write that sets its value to zero.  What it makes of the pin is up to four bits of
the configuration: the level that counts as pressed, whether a button that was pressed stays
so, and whether a change is sent.

## Main definitions

* `Button.written` — what a frame makes of a button before the pin is looked at.
* `beforeLook` — the record from which a step looks at the pin.
* `ReleasesButton`, `Locked`, `Reports` — the reset of a button, its lock, and what a request
  for its value is answered with.

## Main results

* `buttons_step`, `sent_step_button` — what a step makes of a button, and what it sends.
* `pressed_of_exec` — a locked button stays pressed.
* `button_run` — latch, samples and notices along every run.

## References

`stm8/can_node/mod_button.c`.
-/

namespace HomeAutomation

/-! ### The record of a button -/

/-- What a frame makes of a button before the pin is looked at: a new configuration, or a
button that is released.  Other frames do not make it look. -/
def Button.written (button : Button) (address length : UInt8) (value : Fin 8 → UInt8) :
    Option Button :=
  match ButtonField.ofByte address with
  | some .config =>
    let newConfig := value 0 &&& buttonConfigMask
    if length = 1 ∧ button.config ≠ newConfig then some { button with config := newConfig }
    else none
  | some .value =>
    if length = 1 ∧ value 0 = 0 then some { button with state := .released } else none
  | none => none

namespace Button

variable {button : Button} {pin : Bool}

theorem config_looked (button : Button) (pin : Bool) :
    (button.looked pin).config = button.config := by
  unfold looked
  dsimp only
  split
  · rfl
  split
  · rfl
  · rfl

/-- **A sample that is active presses the button.** -/
theorem looked_of_pressed (h : Node.sampledState button pin = .pressed) :
    (button.looked pin).state = .pressed := by
  unfold looked
  dsimp only
  rw [h]
  split
  · next hstate => exact hstate
  split
  · next hlocked => exact hlocked.2
  · rfl

/-- **A locked button stays pressed**, whatever the pin shows. -/
theorem looked_of_locked (hlock : hasBit button.config buttonConfigLock = true)
    (hstate : button.state = .pressed) : (button.looked pin).state = .pressed := by
  unfold looked
  dsimp only
  split
  · exact hstate
  · rw [if_pos ⟨hlock, hstate⟩]
    exact hstate

/-- **A button that is not locked shows the sample.** -/
theorem looked_of_not_locked (hlock : hasBit button.config buttonConfigLock = false) :
    (button.looked pin).state = Node.sampledState button pin := by
  unfold looked
  dsimp only
  split
  · next hstate => exact hstate
  · have hnot : ¬ (hasBit button.config buttonConfigLock = true ∧ button.state = .pressed) :=
      fun h => nomatch hlock.symm.trans h.1
    rw [if_neg hnot]

end Button

namespace Node

/-! ### The buttons behind a step -/

/-- The record from which a step looks at the pin of a button, if it does: on a tick the one
that is there, and on a frame what the frame makes of it. -/
def beforeLook (c : Channel) (n : Node) (e : Event × Inputs) : Option Button :=
  match e.1 with
  | .tick => some (n.buttons c)
  | .frame frame =>
    if n.Commands c .button frame then
      (n.buttons c).written (addressLo frame.address) frame.length frame.payload
    else none
  | .powerCycle => none

/-- **A write to a button** is one that makes it look at the pin, or changes nothing. -/
theorem buttonWrite_written (inputs : Inputs) (c : Channel) (address length : UInt8)
    (value : Fin 8 → UInt8) (n : Node) :
    match (n.buttons c).written address length value with
    | none => n.buttonWrite inputs c address length value = n
    | some button =>
      (n.buttonWrite inputs c address length value).buttons
          = Function.update n.buttons c (button.looked (inputs.idr c)) ∧
        (n.buttonWrite inputs c address length value).sent
          = n.sent ++ n.buttonNotice c button (inputs.idr c) := by
  -- whatever was written, the button is looked at once more
  have hlook : ∀ (button : Button) (m : Node),
      m.buttons = Function.update n.buttons c button → m.sent = n.sent →
      m.deviceId = n.deviceId →
      (m.buttonSetState inputs c).buttons
          = Function.update n.buttons c (button.looked (inputs.idr c)) ∧
        (m.buttonSetState inputs c).sent = n.sent ++ n.buttonNotice c button (inputs.idr c) := by
    intro button m hbuttons hsent hid
    have hbutton : m.buttons c = button := by rw [hbuttons, Function.update_self]
    rw [buttonSetState_looked, hbutton, hsent]
    refine ⟨?_, ?_⟩
    · show Function.update m.buttons c _ = _
      rw [hbuttons, Function.update_idem]
    · unfold buttonNotice noticeId
      rw [hid]
  unfold Button.written buttonWrite
  dsimp only
  cases ButtonField.ofByte address with
  | none => rfl
  | some field =>
    cases field with
    | config =>
      dsimp only
      by_cases hnew : length = 1 ∧ (n.buttons c).config ≠ value 0 &&& buttonConfigMask
      · rw [if_pos hnew, if_pos hnew]
        exact hlook _ _ rfl rfl rfl
      -- the configuration is there already
      · rw [if_neg hnew, if_neg hnew]
    | value =>
      dsimp only
      by_cases hreset : length = 1 ∧ value 0 = 0
      · rw [if_pos hreset, if_pos hreset]
        exact hlook _ _ rfl rfl rfl
      · rw [if_neg hreset, if_neg hreset]

/-- **What a tick makes of the buttons.** -/
theorem buttons_tick {inputs : Inputs} {n n' : Node}
    (h : timerChannels inputs channels n = .ok n') (c : Channel) :
    n'.buttons c =
      if n.channelModules c = some .button then (n.buttons c).looked (inputs.idr c)
      else n.buttons c := by
  have hlocal := timerChannels_local (m := .button) nofun buttons
    (fun c button => button.looked (inputs.idr c)) ?_
    (fun _ _ _ _ hk htimer => (touches_onTimer htimer).buttons hk) nodup_channels h c
  · simpa only [mem_channels, true_and] using hlocal
  intro d n n' htimer
  cases htimer
  rw [buttonSetState_looked]
  rfl

/-- **What a tick sends**: what the buttons send, one after the other. -/
theorem sent_tick {inputs : Inputs} {n n' : Node}
    (h : timerChannels inputs channels n = .ok n') :
    n'.sent = n.sent ++ channels.flatMap fun c =>
      if n.channelModules c = some .button then n.buttonNotice c (n.buttons c) (inputs.idr c)
      else [] := by
  refine timerChannels_sent (fun n c => if n.channelModules c = some .button then
    n.buttonNotice c (n.buttons c) (inputs.idr c) else []) ?_ ?_ nodup_channels h
  · intro c n n' hturn
    obtain ⟨rfl, hnone⟩ | ⟨m, hm, htimer⟩ := timerChannel_cases hturn
    · have hmodule : n'.channelModules c ≠ some .button := fun h => nomatch hnone _ h
      rw [if_neg hmodule, List.append_nil]
    · rw [hm]
      cases m with
      -- a switch, an analog input and a thermometer report nothing of a button
      | switch =>
        cases htimer
        obtain ⟨mode, offTimer, pins, h⟩ := switchTimer_eq c (n.called .switch .timer c)
        rw [h]
        exact (List.append_nil _).symm
      | button =>
        cases htimer
        rw [if_pos rfl, buttonSetState_looked]
        rfl
      | analog =>
        obtain ⟨state, value, adc, selected, rfl⟩ := analogTimer_eq (Option.some.inj htimer)
        exact (List.append_nil _).symm
      | ds18b20 => cases htimer
  -- the other channels' notices are the same before and after this turn
  · intro c d n n' hturn hcd
    obtain ⟨hmodules, hid⟩ := timerChannel_identity hturn
    have hbutton : n'.buttons c = n.buttons c :=
      congrArg Records.button (records_timerChannel hturn hcd)
    unfold buttonNotice noticeId
    rw [hmodules, hid, hbutton]

/-- The look at the pin, if there is one. -/
def looks (c : Channel) (n : Node) (e : Event × Inputs) : Button :=
  match beforeLook c n e with
  | none => n.buttons c
  | some button => button.looked (e.2.idr c)

/-- **What a step makes of a button.** -/
theorem buttons_step {c : Channel} {n n' : Node} {e : Event × Inputs}
    (hc : n.channelModules c = some .button) (hkeeps : KeepsFunction c n e)
    (h : n.step e = some n') : n'.buttons c = looks c n e := by
  obtain ⟨event, inputs⟩ := e
  unfold looks beforeLook
  cases handling_step h with
  | tick htick => exact (buttons_tick htick c).trans (if_pos hc)
  -- no command, no look
  | @quiet frame receivedId sent calls label eeprom hsent hresets hassigns hcommands =>
    dsimp only
    rw [if_neg (hcommands c .button)]
  | @assigned frame _ d functionId hassigns hset =>
    dsimp only
    rw [if_neg hassigns.not_commands]
    exact congrFun (setChannel_records hset).1.2 c
  | @commanded frame d m hcommands =>
    dsimp only
    -- the write is meant for this button, or for another channel
    by_cases hown : n.Commands c .button frame
    · obtain ⟨rfl, rfl⟩ := hown.unique hcommands
      rw [if_pos hown]
      have hwritten := buttonWrite_written inputs d (addressLo frame.address) frame.length
        frame.payload ((n.receiving frame).called .button .write d)
      change match (n.buttons d).written _ _ _ with | none => _ | some button => _ at hwritten
      cases hrecord : (n.buttons d).written (addressLo frame.address) frame.length
        frame.payload with
      | none =>
        rw [hrecord] at hwritten
        exact congrFun (congrArg buttons hwritten) d
      | some button =>
        rw [hrecord] at hwritten
        exact (congrFun hwritten.1 d).trans (Function.update_self ..)
    -- another channel's function does not touch this button
    · rw [if_neg hown]
      have htouches := touches_onWrite inputs d (addressLo frame.address) frame.length
        frame.payload ((n.receiving frame).called m .write d) m
      refine htouches.button_eq ?_
      rintro ⟨rfl, rfl⟩
      exact hown hcommands
  | restarted hresets => exact absurd hresets hkeeps.1

/-! ### What a step sends for a button -/

/-- What a button sends is for its own channel. -/
theorem noticesOf_buttonNotice (n : Node) (c d : Channel) (button : Button) (pin : Bool) :
    n.noticesOf c ButtonField.value.toByte (n.buttonNotice d button pin)
      = if d = c then n.buttonNotice d button pin else [] := by
  unfold noticesOf buttonNotice
  by_cases hd : d = c
  · subst hd
    split <;> simp
  · have hid : n.noticeId d ButtonField.value.toByte ≠ n.noticeId c ButtonField.value.toByte :=
      fun h => hd (noticeId_inj h).1
    rw [if_neg hd]
    split
    · exact List.filter_cons_of_neg (by simpa using hid)
    · rfl

/-- Around the channels, each one comes once. -/
theorem flatMap_channels {α : Type*} (f : Channel → List α) (c : Channel) :
    (channels.flatMap fun d => if d = c then f d else []) = f c := by
  have hc : ∀ c : Channel, c = 0 ∨ c = 1 ∨ c = 2 ∨ c = 3 := by decide
  obtain rfl | rfl | rfl | rfl := hc c <;> simp [channels]

/-- What a tick sends for one button: the others have values of their own. -/
theorem notices_tick {c : Channel} {n n' : Node} {inputs : Inputs}
    (hc : n.channelModules c = some .button) (h : timerChannels inputs channels n = .ok n') :
    ∃ frames, n'.sent = n.sent ++ frames ∧
      n.noticesOf c ButtonField.value.toByte frames
        = n.buttonNotice c (n.buttons c) (inputs.idr c) := by
  refine ⟨_, sent_tick h, ?_⟩
  have hvalues : ∀ d, n.noticesOf c ButtonField.value.toByte
      (if n.channelModules d = some .button then n.buttonNotice d (n.buttons d) (inputs.idr d)
        else [])
        = if d = c then n.buttonNotice d (n.buttons d) (inputs.idr d) else [] := by
    intro d
    split
    · exact noticesOf_buttonNotice n c d _ _
    · next hmodule =>
      have hd : d ≠ c := by
        rintro rfl
        exact hmodule hc
      rw [if_neg hd]
      rfl
  -- of the notices of all channels only this channel's remain
  rw [noticesOf, List.filter_flatMap]
  exact (List.flatMap_congr fun d _ => hvalues d).trans (flatMap_channels _ c)

/-- **What a step that looks at the pin of a button sends for it.** -/
theorem sent_step_button {c : Channel} {n n' : Node} {e : Event × Inputs} {button : Button}
    (hc : n.channelModules c = some .button) (hlook : beforeLook c n e = some button)
    (h : n.step e = some n') :
    ∃ frames, n'.sent = n.sent ++ frames ∧
      n.noticesOf c ButtonField.value.toByte frames = n.buttonNotice c button (e.2.idr c) := by
  obtain ⟨event, inputs⟩ := e
  unfold beforeLook at hlook
  cases handling_step h with
  | tick htick =>
    cases hlook
    exact notices_tick hc htick
  | @quiet frame receivedId sent calls label eeprom hsent hresets hassigns hcommands =>
    dsimp only at hlook
    rw [if_neg (hcommands c .button)] at hlook
    cases hlook
  | @assigned frame _ d functionId hassigns hset =>
    dsimp only at hlook
    rw [if_neg hassigns.not_commands] at hlook
    cases hlook
  | @commanded frame d m hcommands =>
    dsimp only at hlook
    split at hlook
    -- a write to this button is looked at with what it left behind
    · next hown =>
      obtain ⟨rfl, rfl⟩ := hown.unique hcommands
      have hwritten := buttonWrite_written inputs d (addressLo frame.address) frame.length
        frame.payload ((n.receiving frame).called .button .write d)
      have hrecord : (((n.receiving frame).called .button .write d).buttons d).written
          (addressLo frame.address) frame.length frame.payload = some button := hlook
      rw [hrecord] at hwritten
      refine ⟨_, hwritten.2, ?_⟩
      exact (noticesOf_buttonNotice n d d button (inputs.idr d)).trans (if_pos rfl)
    · cases hlook
  -- neither a power cycle nor a frame that resets looks at a button
  | restarted hresets =>
    cases event with
    | tick => exact absurd hresets id
    | powerCycle => cases hlook
    | frame frame =>
      dsimp only at hlook
      split at hlook
      · next hown => exact absurd hresets hown.1.not_resets
      · cases hlook

/-! ### Runs -/

/-- The lock of a button. -/
def Locked (c : Channel) (n : Node) : Prop := hasBit (n.buttons c).config buttonConfigLock = true

/-- A frame that writes zero to the value of a button. -/
def ReleasesButton (c : Channel) (n : Node) (e : Event × Inputs) : Prop :=
  ∃ frame, e.1 = .frame frame ∧ n.WritesByte c .button ButtonField.value.toByte frame ∧
    frame.payload 0 = 0

/-- A request for the value of the button of a channel is answered with a state. -/
def Reports (n : Node) (c : Channel) (state : ButtonState) : Prop :=
  ∀ inputs, n.answer inputs (fieldAddress (UInt8.ofNat c) ButtonField.value.toByte)
    = some [state.toByte]

theorem reports_of_state {n : Node} {c : Channel} (hc : n.channelModules c = some .button)
    {state : ButtonState} (h : (n.buttons c).state = state) : n.Reports c state := by
  intro inputs
  rw [answer_field hc]
  exact congrArg (fun state : ButtonState => some [state.toByte]) h

/-- Only a frame that writes zero to the value makes a button look from another state. -/
theorem state_beforeLook {c : Channel} {n : Node} {e : Event × Inputs} {button : Button}
    (hlook : beforeLook c n e = some button) (hrelease : ¬ ReleasesButton c n e) :
    button.state = (n.buttons c).state := by
  obtain ⟨event, inputs⟩ := e
  unfold beforeLook at hlook
  cases event with
  -- only a write of 0 to the value changes the state before the look
  | tick =>
    cases hlook
    rfl
  | powerCycle => cases hlook
  | frame frame =>
    dsimp only at hlook
    split at hlook
    · next hcommands =>
      unfold Button.written at hlook
      split at hlook
      · dsimp only at hlook
        split at hlook
        · cases hlook
          rfl
        · cases hlook
      · next hfield =>
        split at hlook
        · next hwrite =>
          exact absurd ⟨frame, rfl, ⟨hcommands, ButtonField.ofByte_eq_some_iff.mp hfield,
            hwrite.1⟩, hwrite.2⟩ hrelease
        · cases hlook
      · cases hlook
    · cases hlook

/-- **One step of a button that is pressed and stays locked.** -/
theorem pressed_step {c : Channel} {n n' : Node} {e : Event × Inputs}
    (hc : n.channelModules c = some .button) (hkeeps : KeepsFunction c n e)
    (hrelease : ¬ ReleasesButton c n e) (hpressed : (n.buttons c).state = .pressed)
    (hlocked : Locked c n') (h : n.step e = some n') : (n'.buttons c).state = .pressed := by
  have hbutton := buttons_step hc hkeeps h
  unfold looks at hbutton
  unfold Locked at hlocked
  rw [hbutton] at hlocked ⊢
  split at hlocked
  · exact hpressed
  · next button hlook =>
    rw [Button.config_looked] at hlocked
    exact Button.looked_of_locked hlocked ((state_beforeLook hlook hrelease).trans hpressed)

/-- **A locked button stays pressed** until its value is written with zero. -/
theorem pressed_of_exec {c : Channel} : ∀ {es : List (Event × Inputs)} {n n' : Node},
    n.channelModules c = some .button → (n.buttons c).state = .pressed →
    Run.Along step (fun n e => KeepsFunction c n e ∧ ¬ ReleasesButton c n e) n es →
    Run.Always step (Locked c) n es → Run.exec step n es = some n' →
    n'.channelModules c = some .button ∧ (n'.buttons c).state = .pressed := by
  intro es
  induction es with
  | nil =>
    intro n n' hc hpressed _ _ h
    cases h
    exact ⟨hc, hpressed⟩
  | cons e es ih =>
    intro n n' hc hpressed halong hlocked h
    -- the button is still locked behind the step, so it keeps the press
    obtain ⟨n₁, hfirst, h⟩ := Option.bind_eq_some_iff.mp h
    obtain ⟨⟨hkeeps, hrelease⟩, hrest⟩ := halong
    have hlocked₁ := hlocked.2 n₁ hfirst
    have hpressed₁ := pressed_step hc hkeeps hrelease hpressed hlocked₁.head hfirst
    exact ih ((hkeeps.channelModules hfirst).trans hc) hpressed₁ (hrest n₁ hfirst) hlocked₁ h

theorem channelModules_of_exec {c : Channel} {es : List (Event × Inputs)} {n n' : Node}
    (halong : Run.Along step (KeepsFunction c) n es) (h : Run.exec step n es = some n') :
    n'.channelModules c = n.channelModules c := by
  have hstep : ∀ m e m', m.channelModules c = n.channelModules c → KeepsFunction c m e →
      step m e = some m' → m'.channelModules c = n.channelModules c :=
    fun m e m' hm hkeeps hfirst => (hkeeps.channelModules hfirst).trans hm
  exact (Run.always_of_along hstep (fun _ => id) es n rfl halong).exec h

/-- An event that makes a button look at its pin leaves the channel its function. -/
theorem keepsFunction_of_beforeLook {c : Channel} {n : Node} {e : Event × Inputs}
    {button : Button} (hlook : beforeLook c n e = some button) : KeepsFunction c n e := by
  obtain ⟨event, inputs⟩ := e
  unfold beforeLook at hlook
  cases event with
  | tick => exact ⟨id, nofun⟩
  | powerCycle => cases hlook
  | frame frame =>
    dsimp only at hlook
    split at hlook
    · next hcommands =>
      refine ⟨hcommands.1.not_resets, fun frame' functionId heq hassigns => ?_⟩
      cases heq
      exact hassigns.not_commands hcommands
    · cases hlook

/-- **Latch, samples and notices of a button**, behind any run that leaves a channel its
button: when a step finds the pin active, requests are answered with 1 behind it, and behind
every run that goes on from there, as long as the lock stays set and zero is not written to
the value; behind a tick without the lock they are answered with the sample of that tick;
and a step that looks at the pin sends one frame with the new value when the button is to
notify and the step changes its state, and none otherwise. -/
theorem button_run {c : Channel} {n₀ n : Node} {es : List (Event × Inputs)}
    (hstart : n₀.channelModules c = some .button) (hkeeps : Run.Along step (KeepsFunction c) n₀ es)
    (hrun : Run.exec step n₀ es = some n) :
    (∀ e n₁ button, n.step e = some n₁ → beforeLook c n e = some button →
      sampledState button (e.2.idr c) = .pressed →
      ∀ fs n₂, Run.Along step (fun n e => KeepsFunction c n e ∧ ¬ ReleasesButton c n e) n₁ fs →
        Run.Always step (Locked c) n₁ fs → Run.exec step n₁ fs = some n₂ →
        n₂.Reports c .pressed) ∧
    (∀ inputs n₁, n.step (.tick, inputs) = some n₁ → ¬ Locked c n →
      n₁.Reports c (sampledState (n.buttons c) (inputs.idr c))) ∧
    ∀ e n₁ button, n.step e = some n₁ → beforeLook c n e = some button →
      ∃ frames, n₁.sent = n.sent ++ frames ∧
        n.noticesOf c ButtonField.value.toByte frames =
          if hasBit button.config buttonConfigActive = true ∧
              (n₁.buttons c).state ≠ button.state then
            [⟨n.noticeId c ButtonField.value.toByte, [(n₁.buttons c).state.toByte]⟩]
          else [] := by
  -- the channel stays a button along the whole run
  have hc : n.channelModules c = some .button := (channelModules_of_exec hkeeps hrun).trans hstart
  -- what the look left behind is the state after the step
  have hlooked : ∀ e n₁ button, n.step e = some n₁ → beforeLook c n e = some button →
      n₁.channelModules c = some .button ∧ n₁.buttons c = button.looked (e.2.idr c) := by
    intro e n₁ button hstep hlook
    have hstay := keepsFunction_of_beforeLook hlook
    refine ⟨(hstay.channelModules hstep).trans hc, ?_⟩
    rw [buttons_step hc hstay hstep, looks, hlook]
  refine ⟨fun e n₁ button hstep hlook hactive fs n₂ halong hlocked hfs => ?_,
    fun inputs n₁ hstep hlock => ?_, fun e n₁ button hstep hlook => ?_⟩
  · obtain ⟨hc₁, hbutton⟩ := hlooked e n₁ button hstep hlook
    have hpressed : (n₁.buttons c).state = .pressed := by
      rw [hbutton]
      exact Button.looked_of_pressed hactive
    obtain ⟨hc₂, hpressed₂⟩ := pressed_of_exec hc₁ hpressed halong hlocked hfs
    exact reports_of_state hc₂ hpressed₂
  · obtain ⟨hc₁, hbutton⟩ := hlooked (.tick, inputs) n₁ (n.buttons c) hstep rfl
    refine reports_of_state hc₁ ?_
    rw [hbutton]
    exact Button.looked_of_not_locked (Bool.eq_false_iff.mpr hlock)
  · rw [(hlooked e n₁ button hstep hlook).2]
    exact sent_step_button hc hlook hstep

/-- An EEPROM with a button on channel 0 that locks, and notifies. -/
def buttonEeprom : ℕ → UInt8 := fun i =>
  [0x53, 5, 0, 0, 0, 0, 0, 0, 0, 0, 2, 0, 0, 0, 0x0c].getD i 0

/-- The button is pressed during one tick, and still reported as pressed after the next. -/
theorem button_run_pressed : ∃ n n₁ n₂ : Node, n.Started ∧
    n.step (.tick, { Inputs.idle with idr := fun _ => true }) = some n₁ ∧
    n₁.step (.tick, .idle) = some n₂ ∧ n₂.Reports 0 .pressed := by
  obtain ⟨n, hboot, n₁, n₂, hpress, hrelease, hc, hsample, hlocked₁, hlocked₂⟩ :
      ∃ n, (blank buttonEeprom).boot .idle = .ok n ∧ ∃ n₁ n₂,
        n.step (.tick, { Inputs.idle with idr := fun _ => true }) = some n₁ ∧
        n₁.step (.tick, .idle) = some n₂ ∧ n.channelModules 0 = some .button ∧
        sampledState (n.buttons 0) true = .pressed ∧ Locked 0 n₁ ∧ Locked 0 n₂ :=
    ⟨_, rfl, _, _, rfl, rfl, by decide, by decide, by unfold Locked; decide,
      by unfold Locked; decide⟩
  have hticks : ∀ m : Node,
      KeepsFunction 0 m (.tick, .idle) ∧ ¬ ReleasesButton 0 m (.tick, .idle) :=
    fun m => ⟨⟨id, nofun⟩, nofun⟩
  have hnothing : Run.Along step (KeepsFunction 0) n [] := trivial
  obtain ⟨hlatch, -, -⟩ := button_run hc hnothing rfl
  refine ⟨n, n₁, n₂, ⟨_, _, hboot⟩, hpress, hrelease, hlatch _ n₁ _ hpress rfl hsample
    [(.tick, .idle)] n₂ ⟨hticks n₁, fun _ _ => trivial⟩ ⟨hlocked₁, fun m hm => ?_⟩ ?_⟩
  · cases hrelease.symm.trans hm
    exact hlocked₂
  · exact Option.bind_eq_some_iff.mpr ⟨n₂, hrelease, rfl⟩

end Node
end HomeAutomation
