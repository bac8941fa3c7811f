import HomeAutomation.Node.Requests

/-!
# What the node sends unasked

Of the modules, that of a button alone sends frames of its own: the value of the button,
under an identifier that is made of the id of the device and of the address of the value.

## Main definitions

* `noticeId`, `noticesOf` — the identifier of a frame for a field of a channel, and the
  frames that have it.
* `Button.looked`, `buttonNotice` — what a look at the pin makes of the record of a
  button, and what it sends.
* `Sends` — a step of the node that sends values of buttons only.

## Main results

* `noticeId_inj` — the identifier tells the channel and the field.
* `buttonSetState_looked` — a look at the pin of a button.
* `Effects.sends` — the modules send values of buttons only.

## References

`stm8/can_node/can.c`, `mod_button.c`.
-/

namespace HomeAutomation

/-- What a look at the pin makes of the record of a button. -/
def Button.looked (button : Button) (pin : Bool) : Button :=
  let current := Node.sampledState button pin
  if button.state = current then button
  else if hasBit button.config buttonConfigLock ∧ button.state = .pressed then button
  else { button with state := current }

namespace Node

/-! ### Identifiers -/

/-- The identifier of a frame that the node sends for a field of a channel. -/
def noticeId (n : Node) (c : Channel) (index : UInt8) : UInt32 :=
  packetIdToNumber ⟨0, BitVec.ofNat 7 n.deviceId.toNat, Word16.join (channelSpace c) index⟩

theorem sendData_eq (n : Node) (c : Channel) (index : UInt8) (data : List UInt8) :
    n.sendData c index data = { n with sent := n.sent ++ [⟨n.noticeId c index, data⟩] } := by
  have hspace : UInt16.ofNat c ||| 0x80 = (channelSpace c).toUInt16 := by
    revert c
    decide
  unfold sendData noticeId Word16.join
  rw [← hspace]

theorem address_noticeId (n : Node) (c : Channel) (index : UInt8) :
    (numberToPacketId (n.noticeId c index)).address = Word16.join (channelSpace c) index :=
  (numberToPacketId_packetIdToNumber _).2

theorem channelSpace_injective : Function.Injective channelSpace := by
  intro c d
  revert c d
  decide

/-- **The identifier of a notice tells the channel and the field.** -/
theorem noticeId_inj {n m : Node} {c d : Channel} {index index' : UInt8}
    (h : n.noticeId c index = m.noticeId d index') : c = d ∧ index = index' := by
  have haddress : Word16.join (channelSpace c) index = Word16.join (channelSpace d) index' := by
    rw [← address_noticeId n, h, address_noticeId]
  have hhigh := congrArg Word16.high haddress
  have hlow := congrArg Word16.low haddress
  rw [Word16.high_join, Word16.high_join] at hhigh
  rw [Word16.low_join, Word16.low_join] at hlow
  exact ⟨channelSpace_injective hhigh, hlow⟩

/-- The frames for a field of a channel. -/
def noticesOf (n : Node) (c : Channel) (index : UInt8) (frames : List SentFrame) :
    List SentFrame := frames.filter fun f => f.id = n.noticeId c index

/-! ### Buttons -/

/-- What a look at the pin of a button sends: the new value, if the button is to notify of
it, and if it is new. -/
def buttonNotice (n : Node) (c : Channel) (button : Button) (pin : Bool) : List SentFrame :=
  if hasBit button.config buttonConfigActive ∧ (button.looked pin).state ≠ button.state then
    [⟨n.noticeId c ButtonField.value.toByte, [(button.looked pin).state.toByte]⟩]
  else []

/-- **A look at the pin of a button.** -/
theorem buttonSetState_looked (inputs : Inputs) (c : Channel) (n : Node) :
    n.buttonSetState inputs c
      = { n.setButton c ((n.buttons c).looked (inputs.idr c)) with
          sent := n.sent ++ n.buttonNotice c (n.buttons c) (inputs.idr c) } := by
  have hsame : (n.buttons c).looked (inputs.idr c) = n.buttons c →
      n = { n.setButton c ((n.buttons c).looked (inputs.idr c)) with
        sent := n.sent ++ n.buttonNotice c (n.buttons c) (inputs.idr c) } := by
    intro hlooked
    rw [buttonNotice, hlooked, if_neg fun h => h.2 rfl, List.append_nil, setButton_self]
  unfold buttonSetState
  dsimp only
  split
  · next hstate => exact hsame (if_pos hstate)
  next hstate =>
  split
  · next hlocked => exact hsame ((if_neg hstate).trans (if_pos hlocked))
  next hlocked =>
  have hlooked : (n.buttons c).looked (inputs.idr c)
      = { n.buttons c with state := sampledState (n.buttons c) (inputs.idr c) } :=
    (if_neg hstate).trans (if_neg hlocked)
  rw [buttonNotice, hlooked]
  split
  · next hactive =>
    rw [if_pos ⟨hactive, Ne.symm hstate⟩, sendData_eq]
    rfl
  · next hactive =>
    rw [if_neg fun h => hactive h.1, List.append_nil]
    rfl

/-! ### What an event sends -/

/-- A frame with the value of a button. -/
def IsButtonValue (f : SentFrame) : Prop :=
  ∃ (n : Node) (c : Channel), f.id = n.noticeId c ButtonField.value.toByte

/-- `n'` has sent what `n` had sent, and values of buttons. -/
def Sends (n n' : Node) : Prop :=
  ∃ frames, n'.sent = n.sent ++ frames ∧ ∀ f ∈ frames, IsButtonValue f

theorem Sends.of_eq {n n' : Node} (h : n'.sent = n.sent) : Sends n n' :=
  ⟨[], by simpa using h, fun _ hf => absurd hf List.not_mem_nil⟩

theorem Sends.trans {n n₁ n₂ : Node} (h₁ : Sends n n₁) (h₂ : Sends n₁ n₂) : Sends n n₂ := by
  obtain ⟨frames₁, hsent₁, hframes₁⟩ := h₁
  obtain ⟨frames₂, hsent₂, hframes₂⟩ := h₂
  refine ⟨frames₁ ++ frames₂, by rw [hsent₂, hsent₁, List.append_assoc], fun f hf => ?_⟩
  obtain hf | hf := List.mem_append.mp hf
  · exact hframes₁ f hf
  · exact hframes₂ f hf

/-- What is sent is for no other field. -/
theorem noticesOf_eq_nil {frames : List SentFrame} (h : ∀ f ∈ frames, IsButtonValue f) (n : Node)
    (c : Channel) {index : UInt8} (hindex : index ≠ ButtonField.value.toByte) :
    n.noticesOf c index frames = [] := by
  refine List.filter_eq_nil_iff.mpr fun f hf hid => hindex ?_
  obtain ⟨m, d, hvalue⟩ := h f hf
  exact (noticeId_inj ((of_decide_eq_true hid).symm.trans hvalue)).2

theorem sends_buttonSetState (inputs : Inputs) (c : Channel) (n : Node) :
    Sends n (n.buttonSetState inputs c) := by
  rw [buttonSetState_looked]
  refine ⟨_, rfl, fun f hf => ?_⟩
  unfold buttonNotice at hf
  split at hf
  · rw [List.mem_singleton.mp hf]
    exact ⟨n, c, rfl⟩
  · exact absurd hf List.not_mem_nil

theorem sends_buttonWrite (inputs : Inputs) (c : Channel) (address length : UInt8)
    (value : Fin 8 → UInt8) (n : Node) : Sends n (n.buttonWrite inputs c address length value) := by
  obtain h | ⟨button, pins, h⟩ := buttonWrite_eq inputs c address length value n
  · rw [h]
    exact .of_eq rfl
  · rw [h]
    exact sends_buttonSetState inputs c { n.setButton c button with pins := pins }

theorem sent_onDeinit {c : Channel} {n n' : Node} {m : FunctionModule}
    (h : n.onDeinit c m = .ok n') : n'.sent = n.sent := by
  cases m with
  | switch => cases h; rfl
  | button => cases h; rfl
  | analog =>
    obtain ⟨adc, selected, count, rfl⟩ := analogDeinit_eq h
    rfl
  | ds18b20 => cases h; rfl

theorem sent_setChannel {c : Channel} {functionId : UInt8} {n n' : Node}
    (h : n.setChannel c functionId = .ok n') : n'.sent = n.sent := by
  obtain ⟨n₁, m, hrelease, -, rfl⟩ := exists_of_setChannel h
  have hreleased : n₁.sent = n.sent := by
    obtain ⟨-, rfl⟩ | ⟨m, n₂, -, hdeinit, rfl⟩ := releaseChannel_cases hrelease
    · rfl
    · exact (sent_onDeinit hdeinit).trans rfl
  refine Eq.trans ?_ hreleased
  cases m with
  | none => rfl
  | some m =>
    cases m with
    | switch => rfl
    | button => rfl
    | analog =>
      obtain ⟨pins, adc, selected, count, h⟩ := analogInit_eq c _
      unfold occupyChannel
      dsimp only
      rw [onInit, h]
      rfl
    | ds18b20 => rfl

/-- **The modules send values of buttons only.** -/
theorem Effect.sends {inputs : Inputs} {n n' : Node} (h : Effect inputs n n') : Sends n n' := by
  cases h with
  | assign f h => exact .of_eq (sent_setChannel h)
  | request hm => exact .of_eq rfl
  | @write c m address length value hm =>
    cases m with
    | switch => exact .of_eq rfl
    | button => exact sends_buttonWrite inputs c address length value (n.called .button .write c)
    | analog =>
      obtain ⟨sensor, h⟩ := analogWrite_eq c address length value (n.called .analog .write c)
      rw [onWrite, h]
      exact .of_eq rfl
    | ds18b20 => exact .of_eq rfl
  | @timer n' c m hm h =>
    cases m with
    | switch =>
      cases h
      obtain ⟨mode, offTimer, pins, h⟩ := switchTimer_eq c (n.called .switch .timer c)
      rw [h]
      exact .of_eq rfl
    | button =>
      cases h
      exact sends_buttonSetState inputs c (n.called .button .timer c)
    | analog =>
      obtain ⟨state, value, adc, selected, rfl⟩ := analogTimer_eq (Option.some.inj h)
      exact .of_eq rfl
    | ds18b20 => cases h
  | save hm => exact .of_eq rfl
  | @load c m stream r hm h =>
    cases m with
    | switch => cases h; exact .of_eq rfl
    | button =>
      cases h
      exact sends_buttonSetState inputs c _
    | analog => cases h; exact .of_eq rfl
    | ds18b20 => cases h
  | store eeprom => exact .of_eq rfl
  | identify deviceId label => exact .of_eq rfl

theorem Effects.sends {inputs : Inputs} {n n' : Node} (h : Effects inputs n n') : Sends n n' :=
  h.invariant (fun _ _ hn heffect => hn.trans heffect.sends) (.of_eq rfl)

end Node
end HomeAutomation
