import HomeAutomation.Can.ParserSoundness
import HomeAutomation.Node.Identity

/-!
# Device ids on the bus

The CAN master and any number of nodes share one bus.  What a client of the master
sends becomes a frame, a frame that a node sends reaches all other nodes, and frames
are taken, or lost, in any order.  The check of a new id is in the master, while a node
takes any byte; and the answers of nodes have the identifier of the command.

A node that faults hangs, with what it has sent by then, until its power is switched.

## Main definitions

* `Station`, `Bus` — a node on the bus, and the bus with the frames on their way.
* `Bus.step` — an event on the bus.
* `ChangedByCommand` — a step gives a device the id that a command names.

## Main results

* `Station.handle_spec` — what one event does to an id, and what it sends.
* `deviceIds_on_command` — ids stay valid, and change on command only.

## References

`ti/can_master/can_server.cpp`, `ti/can_master/can.cpp`, `stm8/can_node/can.c`,
`stm8/can_node/sysinfo.c`.
-/

namespace HomeAutomation
namespace DeviceLink

open CanServer

/-! ### Frames -/

/-- The frame that `CanMaster::do_send` is asked for.  A request has no data. -/
def masterFrame (p : CanPacket) (request : Bool) : CanFrame where
  extended := true
  id := p.id
  rtr := request
  dlc := if request then 0 else UInt8.ofNat p.data.1.length
  data i := p.data.1.getD i 0

/-- The frame that `CAN_Transmit` puts on the bus. -/
def nodeFrame (f : SentFrame) : CanFrame where
  extended := true
  id := f.id
  rtr := false
  dlc := UInt8.ofNat f.data.length
  data i := f.data.getD i 0

/-! ### A node on the bus -/

/-- A node, and whether it runs. -/
structure Station where
  node : Node
  running : Bool := true

/-- The ticks that the modules take before one of them hangs. -/
def timersUntilFault (inputs : Inputs) : List Channel → Node → Node
  | [], n => n
  | c :: cs, n =>
    match n.timerChannel inputs c with
    | .error _ => n
    | .ok n => timersUntilFault inputs cs n

/-- An event at a node that runs. -/
def Station.run (inputs : Inputs) (e : Node.Event) (n : Node) : Station :=
  match n.handle inputs e with
  | .ok n => ⟨n, true⟩
  | .error _ =>
    match e with
    | .tick => ⟨timersUntilFault inputs channels n, false⟩
    -- a frame hangs in `analog_deinit`, before anything is sent or stored
    | _ => ⟨n, false⟩

/-- An event at a node.  One that hangs is only brought back by its power. -/
def Station.handle (inputs : Inputs) (e : Node.Event) (s : Station) : Station :=
  match e with
  | .powerCycle => Station.run inputs e s.node
  | _ => if s.running then Station.run inputs e s.node else s

/-- The ticks before a fault are those of the first channels. -/
theorem timersUntilFault_eq (inputs : Inputs) (cs : List Channel) (n : Node) :
    ∃ k, Node.timerChannels inputs (cs.take k) n = .ok (timersUntilFault inputs cs n) := by
  induction cs generalizing n with
  | nil => exact ⟨0, rfl⟩
  | cons c cs ih =>
    rw [timersUntilFault]
    cases hturn : n.timerChannel inputs c with
    | error fault => exact ⟨0, rfl⟩
    | ok n' =>
      obtain ⟨k, hk⟩ := ih n'
      refine ⟨k + 1, ?_⟩
      rw [List.take_succ_cons, Node.timerChannels, hturn]
      exact hk

/-- What one event may do to a node: its id is kept or changed by a frame, and what it
sends for device ids has one byte. -/
structure Handled (e : Node.Event) (n n' : Node) : Prop where
  stored : n'.Stored
  deviceId : n'.deviceId = n.deviceId ∨
    ∃ frame, e = .frame frame ∧ n.ChangesId frame ∧ n'.deviceId = frame.payload 1
  sent : ∃ frames, n'.sent = n.sent ++ frames ∧
    ∀ f ∈ frames, Node.IsUpdate f.id → f.data.length = 1

theorem Handled.refl (e : Node.Event) {n : Node} (hn : n.Stored) : Handled e n n :=
  ⟨hn, Or.inl rfl, [], (List.append_nil _).symm, fun _ hf => absurd hf List.not_mem_nil⟩

theorem Station.run_spec (inputs : Inputs) (e : Node.Event) {n : Node} (hn : n.Stored) :
    Handled e n (Station.run inputs e n).node := by
  unfold Station.run
  cases hresult : n.handle inputs e with
  | ok n' =>
    have hstep : n.step (e, inputs) = some n' := by
      unfold Node.step
      rw [hresult]
      rfl
    obtain ⟨hstored, hid⟩ := hn.step hstep
    exact ⟨hstored, hid, Node.sent_step hstep⟩
  | error fault =>
    cases e with
    | tick =>
      -- the modules before the one that hangs have had their tick
      obtain ⟨k, hk⟩ := timersUntilFault_eq inputs channels n
      obtain ⟨hstored, hid⟩ := hn.timerChannels hk
      obtain ⟨frames, hsent, hframes⟩ :=
        (Node.Effects.sends (Node.timerChannels_effects hk)).notifies
      exact ⟨hstored, Or.inl hid, frames, hsent, fun f hf h => absurd h (hframes f hf)⟩
    | frame frame => exact .refl _ hn
    | powerCycle => exact .refl _ hn

/-- **What one event does to an id, and what it sends.** -/
theorem Station.handle_spec (inputs : Inputs) (e : Node.Event) {s : Station}
    (hs : s.node.Stored) : Handled e s.node (s.handle inputs e).node := by
  unfold Station.handle
  cases e with
  | powerCycle => exact Station.run_spec inputs .powerCycle hs
  | tick =>
    dsimp only
    split
    · exact Station.run_spec inputs .tick hs
    · exact .refl _ hs
  | frame frame =>
    dsimp only
    split
    · exact Station.run_spec inputs (.frame frame) hs
    · exact .refl _ hs

/-! ### The bus -/

/-- Where a frame comes from: from what a client sent to the master, or from a node. -/
inductive Origin (ι : Type*)
  | master (text : Text)
  | station (i : ι)

/-- The bus: the nodes on it, the frames that are on their way to each of them, and
the texts of clients that the master has sent frames for. -/
structure Bus (ι : Type*) where
  stations : ι → Station
  pending : ι → List (Origin ι × CanFrame) := fun _ => []
  commands : List Text := []

/-- What can happen on the bus. -/
inductive BusEvent (ι : Type*)
  /-- A client sends a text; the controller of the master has room for a frame or not. -/
  | command (text : Text) (accepted : Bool)
  /-- A node takes one of the frames that are on their way to it. -/
  | deliver (i : ι) (k : ℕ) (inputs : Inputs)
  /-- A frame is lost. -/
  | lose (i : ι) (k : ℕ)
  | tick (i : ι) (inputs : Inputs)
  | powerCycle (i : ι) (inputs : Inputs)

namespace Bus

variable {ι : Type*} [DecidableEq ι]

/-- The id of a device. -/
def deviceId (bus : Bus ι) (i : ι) : UInt8 := (bus.stations i).node.deviceId

/-- A frame is no longer on its way. -/
def take (bus : Bus ι) (i : ι) (k : ℕ) : Bus ι :=
  { bus with pending := Function.update bus.pending i ((bus.pending i).eraseIdx k) }

/-- An event at a node: what it sends is on its way to all others. -/
def handle (bus : Bus ι) (i : ι) (inputs : Inputs) (e : Node.Event) : Bus ι :=
  let s := (bus.stations i).handle inputs e
  let frames := s.node.sent.drop (bus.stations i).node.sent.length
  { bus with
    stations := Function.update bus.stations i s
    pending := fun j =>
      if j = i then bus.pending j
      else bus.pending j ++ frames.map fun f => (.station i, nodeFrame f) }

/-- An event on the bus. -/
def step (bus : Bus ι) : BusEvent ι → Option (Bus ι)
  | .command text accepted =>
    match commandOf text with
    | none => some bus
    | some (p, request) =>
      if accepted then
        some { bus with
          pending := fun j => bus.pending j ++ [(.master text, masterFrame p request)]
          commands := bus.commands ++ [text] }
      else some bus
  | .deliver i k inputs =>
    match (bus.pending i)[k]? with
    | none => none
    | some (_, frame) => some ((bus.take i k).handle i inputs (.frame frame))
  | .lose i k => some (bus.take i k)
  | .tick i inputs => some (bus.handle i inputs .tick)
  | .powerCycle i inputs => some (bus.handle i inputs .powerCycle)

/-- A bus with nothing on its way. -/
def start (nodes : ι → Node) : Bus ι := { stations := fun i => ⟨nodes i, true⟩ }

end Bus

/-! ### Commands for device ids -/

/-- The ids that a device may have: none yet, or one of seven bits. -/
def ValidId (id : UInt8) : Prop := id = 0xff ∨ id ≤ 0x7f

/-- The text is a command that gives the device with one id another one. -/
def RenamesTo (text : Text) (old new : UInt8) : Prop :=
  ∃ value, sscanfTag "dev-q!".toList (cString text) = some value ∧ value ≤ 0xffff ∧
    old.toNat = value / 0x100 ∧ new.toNat = value % 0x100 ∧ new ≤ 0x7f

/-- A command for a register never gets the identifier for device ids. -/
theorem parsePacket_update {message : Text} {p : CanPacket}
    (h : parsePacket message = some (p, false)) (hid : Node.IsUpdate p.id) :
    parseDevIdPacket message = some (p, false) := by
  by_cases hdevq : "dev-q".toList <+: message
  · rwa [parsePacket, if_pos (List.isPrefixOf_iff_prefix.mpr hdevq)] at h
  · -- every other packet has an identifier that is packed from its parts
    obtain ⟨field, d, a, -, -, -, -, -, hpacked, -⟩ := (parsePacket_eq_some_iff hdevq).mp h
    rw [hpacked] at hid
    exact absurd hid (Node.not_isUpdate_packetIdToNumber _)

/-- The two bytes of a command for device ids. -/
theorem payload_masterFrame (id : UInt32) (a b : UInt8) (h : [a, b].length ≤ 8) :
    (masterFrame ⟨id, ⟨[a, b], h⟩⟩ false).payload 0 = a ∧
      (masterFrame ⟨id, ⟨[a, b], h⟩⟩ false).payload 1 = b := by
  simp [CanFrame.payload, masterFrame]

/-- **A frame of the master that changes an id comes from a command to do so.** -/
theorem renamesTo_of_changesId {text : Text} {p : CanPacket} {request : Bool} {n : Node}
    (hcommand : commandOf text = some (p, request)) (h : n.ChangesId (masterFrame p request)) :
    RenamesTo text n.deviceId ((masterFrame p request).payload 1) := by
  obtain ⟨hrequest, hid, -, hold⟩ := h
  -- an update request is a data frame, so the line is read by the parser of such commands
  obtain rfl : request = false := hrequest
  unfold commandOf at hcommand
  split at hcommand
  · cases hcommand
  have hparse := parsePacket_update hcommand hid
  unfold parseDevIdPacket at hparse
  split at hparse
  · cases hparse
  split at hparse
  · cases hparse
  next value hvalue =>
  split at hparse
  · next hrange =>
    cases hparse
    obtain ⟨hfirst, hsecond⟩ := payload_masterFrame specialIdUpdate
      (UInt8.ofNat (value / 0x100 % 0x100)) (UInt8.ofNat (value % 0x100)) (by simp)
    -- the new id is at most 0x7f, so the byte keeps it
    have hnew : (UInt8.ofNat (value % 0x100)).toNat = value % 0x100 := by
      rw [UInt8.toNat_ofNat']
      omega
    rw [hsecond]
    refine ⟨value, hvalue, hrange.1, ?_, hnew, ?_⟩
    · rw [← hold, hfirst, UInt8.toNat_ofNat']
      omega
    · exact UInt8.le_iff_toNat_le.mpr (hnew.trans_le hrange.2)
  · cases hparse

/-! ### Runs -/

namespace Bus

variable {ι : Type*} [DecidableEq ι]

/-- What is known of a frame on its way. -/
def Known (bus : Bus ι) : Origin ι × CanFrame → Prop
  | (.master text, frame) => text ∈ bus.commands ∧
      ∃ p request, commandOf text = some (p, request) ∧ frame = masterFrame p request
  | (.station _, frame) => frame.receivedId = specialIdUpdate → frame.length = 1

/-- The invariant: ids are valid and stored, and every frame is known. -/
structure Regular (bus : Bus ι) : Prop where
  stored : ∀ i, (bus.stations i).node.Stored
  valid : ∀ i, ValidId (bus.deviceId i)
  known : ∀ i, ∀ x ∈ bus.pending i, bus.Known x

/-- **The step gives the device the id that a command names**: it takes the frame of
a command of the master. -/
def ChangedByCommand (bus : Bus ι) (e : BusEvent ι) (bus' : Bus ι) (i : ι) : Prop :=
  ∃ k inputs text frame, e = .deliver i k inputs ∧
    (bus.pending i)[k]? = some (.master text, frame) ∧ text ∈ bus.commands ∧
    RenamesTo text (bus.deviceId i) (bus'.deviceId i)

theorem Regular.take {bus : Bus ι} (hbus : bus.Regular) (i : ι) (k : ℕ) :
    (bus.take i k).Regular := by
  refine ⟨hbus.stored, hbus.valid, fun j x hx => hbus.known j x ?_⟩
  unfold Bus.take at hx
  dsimp only at hx
  obtain rfl | hj := eq_or_ne j i
  · rw [Function.update_self] at hx
    exact List.mem_of_mem_eraseIdx hx
  · rwa [Function.update_of_ne hj] at hx

omit [DecidableEq ι] in
/-- A frame of a node for device ids is none that a node takes for a command. -/
theorem known_nodeFrame (bus : Bus ι) (i : ι) {f : SentFrame}
    (hf : Node.IsUpdate f.id → f.data.length = 1) : bus.Known (.station i, nodeFrame f) := by
  intro hid
  change UInt8.ofNat f.data.length &&& 0x0f = 1
  rw [hf hid]
  rfl

/-- An event at one node, with what it does to the ids. -/
theorem Regular.handle {bus : Bus ι} (hbus : bus.Regular) (i : ι) (inputs : Inputs)
    (e : Node.Event)
    (hvalid : ∀ frame, e = .frame frame → (bus.stations i).node.ChangesId frame →
      frame.payload 1 ≤ 0x7f) :
    (bus.handle i inputs e).Regular ∧
      ∀ j, (bus.handle i inputs e).deviceId j ≠ bus.deviceId j →
        j = i ∧ ∃ frame, e = .frame frame ∧ (bus.stations i).node.ChangesId frame ∧
          (bus.handle i inputs e).deviceId i = frame.payload 1 := by
  obtain ⟨hstored, hid, frames, hsent, hframes⟩ := Station.handle_spec inputs e (hbus.stored i)
  have hself : (bus.handle i inputs e).stations i = (bus.stations i).handle inputs e :=
    Function.update_self ..
  have hother : ∀ j, j ≠ i → (bus.handle i inputs e).stations j = bus.stations j :=
    fun j hj => Function.update_of_ne hj ..
  -- only the node that handled a frame can have another id
  have hchange : ∀ j, (bus.handle i inputs e).deviceId j ≠ bus.deviceId j →
      j = i ∧ ∃ frame, e = .frame frame ∧ (bus.stations i).node.ChangesId frame ∧
        (bus.handle i inputs e).deviceId i = frame.payload 1 := by
    intro j hj
    unfold Bus.deviceId at hj ⊢
    obtain rfl | hji := eq_or_ne j i
    · rw [hself] at hj ⊢
      exact ⟨rfl, hid.resolve_left hj⟩
    · rw [hother j hji] at hj
      exact absurd rfl hj
  refine ⟨⟨fun j => ?_, fun j => ?_, fun j x hx => ?_⟩, hchange⟩
  · obtain rfl | hji := eq_or_ne j i
    · rw [hself]
      exact hstored
    · rw [hother j hji]
      exact hbus.stored j
  · by_cases hj : (bus.handle i inputs e).deviceId j = bus.deviceId j
    · rw [hj]
      exact hbus.valid j
    · obtain ⟨rfl, frame, he, hframe, hnew⟩ := hchange j hj
      rw [hnew]
      exact Or.inr (hvalid frame he hframe)
  -- what the node sends is known to come from it
  · unfold Bus.handle at hx
    dsimp only at hx
    split at hx
    · exact hbus.known j x hx
    · obtain hx | hx := List.mem_append.mp hx
      · exact hbus.known j x hx
      · rw [hsent, List.drop_left] at hx
        obtain ⟨f, hf, rfl⟩ := List.mem_map.mp hx
        exact known_nodeFrame bus i (hframes f hf)

omit [DecidableEq ι] in
/-- The master sends the frame of a command. -/
theorem Regular.command {bus : Bus ι} (hbus : bus.Regular) {text : Text} {p : CanPacket}
    {request : Bool} (hcommand : commandOf text = some (p, request)) :
    Regular { bus with
      pending := fun j => bus.pending j ++ [(.master text, masterFrame p request)]
      commands := bus.commands ++ [text] } := by
  refine ⟨hbus.stored, hbus.valid, fun i x hx => ?_⟩
  obtain hx | hx := List.mem_append.mp hx
  · have hknown := hbus.known i x hx
    match x, hknown with
    | (.master _, _), ⟨htext, hframe⟩ => exact ⟨List.mem_append_left _ htext, hframe⟩
    | (.station _, _), hframe => exact hframe
  · rw [List.mem_singleton.mp hx]
    exact ⟨List.mem_append_right _ (List.mem_singleton_self text), p, request, hcommand, rfl⟩

omit [DecidableEq ι] in
/-- A frame on its way that changes an id is one of the master, for a command. -/
theorem Regular.master_of_changesId {bus : Bus ι} (hbus : bus.Regular) {i : ι}
    {origin : Origin ι} {frame : CanFrame} (hframe : (origin, frame) ∈ bus.pending i)
    (hchanges : (bus.stations i).node.ChangesId frame) :
    ∃ text, origin = .master text ∧ text ∈ bus.commands ∧
      RenamesTo text (bus.deviceId i) (frame.payload 1) := by
  have hknown := hbus.known i _ hframe
  cases origin with
  | station j =>
    -- the reply of a node has one byte, and a command has two
    have hlength := hknown hchanges.2.1
    exact absurd (hlength.symm.trans hchanges.2.2.1) (by decide)
  | master text =>
    obtain ⟨htext, p, request, hcommand, rfl⟩ := hknown
    exact ⟨text, rfl, htext, renamesTo_of_changesId hcommand hchanges⟩

/-- **The step lemma**: ids stay valid, and a step that changes one takes a command. -/
theorem Regular.step {bus bus' : Bus ι} {e : BusEvent ι} (hbus : bus.Regular)
    (h : bus.step e = some bus') :
    bus'.Regular ∧ ∀ i, bus'.deviceId i ≠ bus.deviceId i → ChangedByCommand bus e bus' i := by
  cases e with
  | command text accepted =>
    unfold Bus.step at h
    dsimp only at h
    split at h
    · cases h
      exact ⟨hbus, fun i hi => absurd rfl hi⟩
    next p request hcommand =>
    split at h
    · cases h
      exact ⟨hbus.command hcommand, fun i hi => absurd rfl hi⟩
    · cases h
      exact ⟨hbus, fun i hi => absurd rfl hi⟩
  | deliver i k inputs =>
    unfold Bus.step at h
    dsimp only at h
    split at h
    · cases h
    next origin frame hframe =>
    cases h
    -- a frame that renames the node came from a command of the master
    have hmaster := hbus.master_of_changesId (List.mem_of_getElem? hframe)
    obtain ⟨hregular, hchange⟩ := (hbus.take i k).handle i inputs (.frame frame) (by
      rintro _ ⟨⟩ hchanges
      obtain ⟨text, -, -, value, -, -, -, -, hnew⟩ := hmaster hchanges
      exact hnew)
    refine ⟨hregular, fun j hj => ?_⟩
    obtain ⟨rfl, _, ⟨⟩, hchanges, hnew⟩ := hchange j hj
    obtain ⟨text, rfl, htext, hrenames⟩ := hmaster hchanges
    refine ⟨k, inputs, text, frame, rfl, hframe, htext, ?_⟩
    rw [hnew]
    exact hrenames
  | lose i k =>
    cases h
    exact ⟨hbus.take i k, fun j hj => absurd rfl hj⟩
  | tick i inputs =>
    cases h
    obtain ⟨hregular, hchange⟩ := hbus.handle i inputs .tick nofun
    refine ⟨hregular, fun j hj => ?_⟩
    obtain ⟨-, _, ⟨⟩, -⟩ := hchange j hj
  | powerCycle i inputs =>
    cases h
    obtain ⟨hregular, hchange⟩ := hbus.handle i inputs .powerCycle nofun
    refine ⟨hregular, fun j hj => ?_⟩
    obtain ⟨-, _, ⟨⟩, -⟩ := hchange j hj

/-- **Ids stay valid, and change on command only**, in every run of the bus. -/
theorem deviceIds_on_command {nodes : ι → Node} (hnodes : ∀ i, (nodes i).Reachable)
    (hids : ∀ i, ValidId (nodes i).deviceId) (es : List (BusEvent ι)) :
    Run.Always Bus.step (fun bus => ∀ i, ValidId (bus.deviceId i)) (start nodes) es ∧
      ∀ t ∈ Run.trace Bus.step (start nodes) es, ∀ i, t.2.2.deviceId i ≠ t.1.deviceId i →
        ChangedByCommand t.1 t.2.1 t.2.2 i := by
  have hstart : (start nodes).Regular :=
    ⟨fun i => (hnodes i).stored, hids, fun i x hx => absurd hx List.not_mem_nil⟩
  constructor
  · have hregular : Run.Always Bus.step Regular (start nodes) es :=
      Run.always_of_step (fun _ _ _ hbus h => (hbus.step h).1) es _ hstart
    exact hregular.mono fun _ hbus => hbus.valid
  · exact Run.trace_rule (fun _ _ _ hbus h => Regular.step hbus h) es _ hstart

/-- Two nodes that never had an id. -/
def newNodes : Fin 2 → Node := fun _ => Node.blank fun _ => 0

/-- A client gives both the id 5; the first node takes the frame, and is asked for its
id; its answer comes to the second node, which keeps its id until it takes the frame
of the master. -/
def idAssignment : List (BusEvent (Fin 2)) :=
  [.command "dev-q!ff05".toList true, .deliver 0 0 .idle, .command "dev-q?".toList true,
    .deliver 0 0 .idle, .deliver 1 2 .idle, .deliver 1 0 .idle]

/-- The run ends with both ids changed, each by the command. -/
theorem deviceIds_on_command_assignment :
    (Run.last Bus.step (start newNodes) idAssignment).deviceId 0 = 5 ∧
      (Run.last Bus.step (start newNodes) idAssignment).deviceId 1 = 5 ∧
      Run.Always Bus.step (fun bus => ∀ i, ValidId (bus.deviceId i)) (start newNodes)
        idAssignment ∧
      ∀ t ∈ Run.trace Bus.step (start newNodes) idAssignment, ∀ i,
        t.2.2.deviceId i ≠ t.1.deviceId i → ChangedByCommand t.1 t.2.1 t.2.2 i := by
  have hnodes : ∀ i, (newNodes i).Reachable :=
    fun i => Run.Reachable.init ⟨fun _ => 0, .idle, rfl⟩
  exact ⟨by decide, by decide, deviceIds_on_command hnodes (fun i => Or.inl rfl) idAssignment⟩

end Bus

end DeviceLink
end HomeAutomation
