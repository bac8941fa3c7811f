import HomeAutomation.Link.BusIsolation
import HomeAutomation.Node.Handling

/-!
# Registers on the bus

A client of the master writes to a register of a device and asks for it later, while other
clients work on other devices, buttons are pressed, and frames are lost or overtake each
other.  What it is answered is what the device was last given for that register, with the
bits that the function keeps; and the answer comes to the bus once.

A device that hangs takes nothing more, so the run may have it hang and still keep what it
was given by then.

## Main definitions

* `written` — what an event on the bus writes to a register of a device.

## Main results

* `Station.keeps` — one event at a station.
* `read_step` — one event on the bus.
* `registers_on_bus` — a request behind a run.

## References

`ti/can_master/can_server.cpp`, `stm8/can_node/can.c`, `module.c`, `mod_switch.c`,
`mod_button.c`, `mod_analog.c`.
-/

namespace HomeAutomation
namespace DeviceLink

open CanServer
open Node (Register)

/-! ### One station -/

/-- What an event writes to a register of a station: nothing, when it hangs. -/
def Station.written (c : Channel) (r : Register) (s : Station) (e : Node.Event × Inputs) :
    Option (List UInt8) :=
  if s.running then Node.writtenTo c r s.node e else none

/-- A frame that a node hangs with writes to no register of a function. -/
theorem writtenTo_eq_none_of_error {inputs : Inputs} {n : Node} {frame : CanFrame} {fault : Fault}
    (h : n.handle inputs (.frame frame) = .error fault) (c : Channel) (r : Register) :
    Node.writtenTo c r n (.frame frame, inputs) = none := by
  rw [Node.writtenTo_frame]
  refine if_neg ?_
  rintro ⟨hwrites, htarget, -⟩
  have hdispatch : (n.receiving frame).dispatch (Node.moduleIndex frame.address)
      = some (.function c r.module) := htarget
  rw [Node.handle_writes inputs hwrites, Node.handlePacket, hdispatch] at h
  cases h

/-- **A register of a station after one event** that does not reset it. -/
theorem Station.keeps {inputs : Inputs} {e : Node.Event} {s : Station}
    (he : ¬ s.node.Resets (e, inputs)) (c : Channel) (r : Register) :
    r.read ((s.handle inputs e).node.settings c)
      = (s.written c r (e, inputs)).getD (r.read (s.node.settings c)) := by
  -- a node that does not run takes nothing in, so the case to prove is the running one
  have hrun : s.running = true → r.read ((Station.run inputs e s.node).node.settings c)
      = (s.written c r (e, inputs)).getD (r.read (s.node.settings c)) := by
    intro hrunning
    unfold Station.written
    rw [if_pos hrunning]
    unfold Station.run
    cases hresult : s.node.handle inputs e with
    | ok n' =>
      have hstep : s.node.step (e, inputs) = some n' := by
        unfold Node.step
        rw [hresult]
        rfl
      exact (Node.keeps_step he hstep).1 c r
    | error fault =>
      cases e with
      | tick =>
        -- the modules before the one that hangs change no setting
        rcases timersUntilFault_eq inputs channels s.node with ⟨k, hk⟩
        rw [(Node.settings_timerChannels hk).1]
        rfl
      -- a frame that hangs the node has written nothing
      | frame frame =>
        rw [writtenTo_eq_none_of_error hresult]
        rfl
      | powerCycle => exact absurd trivial he
  unfold Station.handle
  cases e with
  | powerCycle => exact absurd trivial he
  | tick =>
    dsimp only
    split
    · next hrunning => exact hrun hrunning
    · next hrunning =>
      rw [Station.written, if_neg hrunning]
      rfl
  | frame frame =>
    dsimp only
    split
    · next hrunning => exact hrun hrunning
    · next hrunning =>
      rw [Station.written, if_neg hrunning]
      rfl

namespace Bus

variable {ι : Type*} [DecidableEq ι] {ids : ι → UInt8}

/-! ### The bus -/

/-- **What an event on the bus writes to a register of a device**: the bytes of a frame of
the master for it that the device takes. -/
def written (i : ι) (c : Channel) (r : Register) (bus : Bus ι) : BusEvent ι → Option (List UInt8)
  | .deliver j k inputs =>
    match (bus.pending j)[k]? with
    | some (.master _, frame) =>
      if j = i then (bus.stations i).written c r (.frame frame, inputs) else none
    | _ => none
  | _ => none

/-- The power of the device stays on. -/
def KeepsPower (i : ι) (e : BusEvent ι) : Prop := ∀ inputs, e ≠ .powerCycle i inputs

/-- The content of a register of a device. -/
def read (i : ι) (c : Channel) (r : Register) (bus : Bus ι) : List UInt8 :=
  r.read ((bus.stations i).node.settings c)

/-- A register of a device behind a frame that is delivered to it. -/
theorem Settled.read_deliver {bus : Bus ι} (hbus : bus.Settled ids) (hids : Distinct ids) {i : ι}
    {k : ℕ} {inputs : Inputs} {origin : Origin ι} {frame : CanFrame}
    (hframe : (bus.pending i)[k]? = some (origin, frame)) (c : Channel) (r : Register) :
    r.read (((bus.stations i).handle inputs (.frame frame)).node.settings c)
      = (written i c r bus (.deliver i k inputs)).getD (read i c r bus) := by
  have hmem : (origin, frame) ∈ bus.pending i := List.mem_of_getElem? hframe
  unfold written
  dsimp only
  rw [hframe]
  cases origin with
  | master text =>
    simp only [if_true]
    -- the frame does not change the id, so the channel keeps its module
    apply Station.keeps
    rintro ⟨-, hrtr, hid, hlength, hold⟩
    exact hbus.not_changesId hids hmem ⟨hrtr, hid, hlength, hold⟩
  | station j =>
    -- what another node sends is not heeded
    rcases Station.handle_unheeded inputs (hbus.not_heeds hids hmem) with ⟨id, hhandle⟩
    rw [hhandle]
    rfl

omit [DecidableEq ι] in
/-- A tick writes no register. -/
theorem read_tick (bus : Bus ι) (i : ι) (inputs : Inputs) (c : Channel) (r : Register) :
    r.read (((bus.stations i).handle inputs .tick).node.settings c) = read i c r bus := by
  have htick : ¬ (bus.stations i).node.Resets (.tick, inputs) := fun hresets => hresets
  rw [Station.keeps htick]
  unfold Station.written
  split
  · rfl
  · rfl

/-- **A register of a device after one event on the bus.** -/
theorem Settled.read_step {bus bus' : Bus ι} {e : BusEvent ι} (hbus : bus.Settled ids)
    (hids : Distinct ids) {i : ι} (hpower : KeepsPower i e) (h : bus.step e = some bus')
    (c : Channel) (r : Register) :
    read i c r bus' = (written i c r bus e).getD (read i c r bus) := by
  unfold read
  cases e with
  | command text accepted =>
    rw [stations_command h]
    rfl
  | deliver j k inputs =>
    unfold Bus.step at h
    dsimp only at h
    split at h
    · cases h
    next origin frame hframe =>
    cases h
    rw [stations_handle]
    by_cases hj : j = i
    · subst hj
      rw [if_pos rfl]
      exact hbus.read_deliver hids hframe c r
    · rw [if_neg hj]
      unfold written
      dsimp only
      rw [hframe]
      cases origin with
      | master text =>
        simp only [hj, if_false]
        rfl
      | station l => rfl
  | lose j k =>
    cases h
    rfl
  | tick j inputs =>
    cases h
    rw [stations_handle]
    by_cases hj : j = i
    · rw [if_pos hj]
      exact read_tick bus i inputs c r
    · rw [if_neg hj]
      rfl
  | powerCycle j inputs =>
    cases h
    -- a node that loses its power is excluded, so this is another node
    have hj : j ≠ i := by
      rintro rfl
      exact hpower inputs rfl
    rw [stations_handle, if_neg hj]
    rfl

/-- What a station that runs sends when it is asked for a register of a function. -/
theorem sent_request {s : Station} (hrunning : s.running = true) {c : Channel} {r : Register}
    (hmodule : s.node.channelModules c = some r.module) {frame : CanFrame}
    (hrequest : s.node.Requests frame (Node.channelSpace c) r.field) (inputs : Inputs) :
    (s.handle inputs (.frame frame)).node.sent
      = s.node.sent ++ [⟨frame.receivedId, r.read (s.node.settings c)⟩] := by
  rcases hrequest with ⟨⟨hextended, hrtr⟩, ⟨hid, haddressed⟩, hindex, hfield⟩
  rcases Node.sent_handleReceivedData inputs hextended hrtr hid haddressed with ⟨n', hn', hsent⟩
  have hanswer : s.node.answer inputs frame.address = some (r.read (s.node.settings c)) := by
    unfold Node.answer
    rw [Node.dispatch_eq_function_iff.mpr ⟨hindex, hmodule⟩, hfield]
    apply Node.onRequest_field
  have hhandle : s.node.handle inputs (.frame frame) = .ok n' := hn'
  rw [hanswer] at hsent
  unfold Station.handle Station.run
  dsimp only
  rw [if_pos hrunning, hhandle]
  exact hsent

/-- **A request on the bus is answered with what was written last**: behind a run on which no
id is changed and the power of the device stays on, the device puts one frame on the bus,
with the bytes that the run wrote to the register last, or else with those that were there. -/
theorem registers_on_bus {nodes : ι → Node} (hnodes : ∀ i, (nodes i).Reachable)
    (hids : Distinct fun i => (nodes i).deviceId) {es : List (BusEvent ι)}
    (hes : ∀ e ∈ es, Peaceful (fun i => (nodes i).deviceId) e) {i : ι}
    (hpower : ∀ e ∈ es, KeepsPower i e) {bus : Bus ι}
    (hbus : Run.exec Bus.step (start nodes) es = some bus)
    (hrunning : (bus.stations i).running = true) {c : Channel} {r : Register}
    (hmodule : (bus.stations i).node.channelModules c = some r.module) {k : ℕ}
    {origin : Origin ι} {frame : CanFrame} (hframe : (bus.pending i)[k]? = some (origin, frame))
    (hrequest : (bus.stations i).node.Requests frame (Node.channelSpace c) r.field)
    (inputs : Inputs) :
    ∃ bus', bus.step (.deliver i k inputs) = some bus' ∧ ∀ j, j ≠ i →
      bus'.pending j = bus.pending j ++ [(.station i, nodeFrame ⟨frame.receivedId,
        (Run.lastWrite (written i c r) (Run.trace Bus.step (start nodes) es)).getD
          (r.read ((nodes i).settings c))⟩)] := by
  -- what the register reads is the last write of the run, by the step lemma above
  have hread : read i c r bus
      = (Run.lastWrite (written i c r) (Run.trace Bus.step (start nodes) es)).getD
        (r.read ((nodes i).settings c)) := by
    have halong : Run.Along Bus.step (fun bus e => bus.Settled (fun i => (nodes i).deviceId) ∧
        Peaceful (fun i => (nodes i).deviceId) e ∧ KeepsPower i e) (start nodes) es :=
      Run.along_of_invariant (fun _ _ _ hb he h => Settled.step hb hids he.1 h) es _
        (settled_start hnodes) fun e he => ⟨hes e he, hpower e he⟩
    have hlast := Run.read_last (read i c r) (fun _ _ _ hb h => hb.1.read_step hids hb.2.2 h c r)
      es (start nodes) halong
    rw [Run.last_of_exec hbus] at hlast
    exact hlast
  -- the answer carries what is read, and every other node gets it
  have hsent := sent_request hrunning hmodule hrequest inputs
  refine ⟨(bus.take i k).handle i inputs (.frame frame), ?_, fun j hj => ?_⟩
  · unfold Bus.step
    dsimp only
    rw [hframe]
  · have hself : (bus.take i k).stations i = bus.stations i := rfl
    have hpending : (bus.take i k).pending j = bus.pending j := Function.update_of_ne hj _ _
    unfold Bus.handle
    dsimp only
    rw [if_neg hj, hself, hsent, List.drop_left, hpending, ← hread]
    rfl

/-- A switch on channel 0 of device 5, and a device 6 without functions. -/
def switchNodes (i : Fin 2) : Node :=
  ((Node.blank (if i.val = 0 then Node.switchEeprom else idEeprom 6)).boot .idle).toOption.getD
    (Node.blank fun _ => 0)

theorem switchNodes_reachable (i : Fin 2) : (switchNodes i).Reachable := by
  refine Run.Reachable.init ⟨if i.val = 0 then Node.switchEeprom else idEeprom 6, .idle, ?_⟩
  unfold switchNodes
  match i with
  | 0 => rfl
  | 1 => rfl

/-- One client writes all ones to the configuration of the switch; another one asks both
devices for their ids, and the answer of device 6 comes first; then the first client asks for
the configuration. -/
def conversation : List (BusEvent (Fin 2)) :=
  [.command "dev:05  addr:8000  =ff".toList true, .command "dev-q?".toList true,
    .deliver ⟨1, Nat.one_lt_two⟩ 1 .idle, .deliver ⟨0, Nat.two_pos⟩ 2 .idle,
    .deliver ⟨0, Nat.two_pos⟩ 0 .idle,
    .command "dev:05  addr:8000  ?".toList true]

theorem conversation_peaceful (ids : Fin 2 → UInt8) : ∀ e ∈ conversation, Peaceful ids e := by
  have hquiet : ∀ text : Text, sscanfTag "dev-q!".toList (cString text) = none →
      Peaceful ids (.command text true) := by
    rintro text hnone i new ⟨value, hvalue, -⟩
    rw [hnone] at hvalue
    cases hvalue
  intro e he
  simp only [conversation, List.mem_cons, List.not_mem_nil, or_false] at he
  rcases he with rfl | rfl | rfl | rfl | rfl | rfl
  · exact hquiet _ (by decide)
  · exact hquiet _ (by decide)
  · trivial
  · trivial
  · trivial
  · exact hquiet _ (by decide)

/-- The switch answers with the three bits that it keeps. -/
theorem registers_on_bus_conversation :
    ∃ bus bus', Run.exec Bus.step (start switchNodes) conversation = some bus ∧
      bus.step (.deliver 0 1 .idle) = some bus' ∧
      bus'.pending 1 = bus.pending 1 ++
        [(.station 0, nodeFrame ⟨packetIdToNumber ⟨0, 5, 0x8000⟩, [0x07]⟩)] := by
  have hids : Distinct fun i => (switchNodes i).deviceId := by
    intro i j
    revert i j
    decide
  have hpower : ∀ e ∈ conversation, KeepsPower 0 e := by
    simp [conversation, KeepsPower]
  obtain ⟨bus, hbus, hrunning, hmodule, haddressed, frame, hframe, hshape, hid⟩ :
      ∃ bus, Run.exec Bus.step (start switchNodes) conversation = some bus ∧
        (bus.stations 0).running = true ∧
        (bus.stations 0).node.channelModules 0 = some Register.switchConfig.module ∧
        (bus.stations 0).node.Addressed (packetIdToNumber ⟨0, 5, 0x8000⟩) ∧
        ∃ frame, (bus.pending 0)[1]?
            = some (.master "dev:05  addr:8000  ?".toList, frame) ∧
          (frame.extended = true ∧ frame.rtr = true) ∧
          frame.receivedId = packetIdToNumber ⟨0, 5, 0x8000⟩ :=
    ⟨_, rfl, rfl, rfl, by decide, _, rfl, ⟨rfl, rfl⟩, by decide⟩
  have hrequest : (bus.stations 0).node.Requests frame (Node.channelSpace 0)
      Register.switchConfig.field := by
    unfold Node.Requests CanFrame.address
    rw [hid]
    exact ⟨hshape, ⟨by decide, haddressed⟩, by decide, by decide⟩
  have hvalue : (Run.lastWrite (written 0 0 Register.switchConfig)
      (Run.trace Bus.step (start switchNodes) conversation)).getD
        (Register.switchConfig.read ((switchNodes 0).settings 0)) = [0x07] := by
    decide
  obtain ⟨bus', hstep, hpending⟩ := registers_on_bus switchNodes_reachable hids
    (conversation_peaceful _) hpower hbus hrunning hmodule hframe hrequest .idle
  refine ⟨bus, bus', hbus, hstep, ?_⟩
  rw [hpending 1 (by decide), hid, hvalue]

end Bus

end DeviceLink
end HomeAutomation
