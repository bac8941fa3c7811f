import HomeAutomation.Lib.Refinement
import HomeAutomation.Link.DeviceIds
import HomeAutomation.Node.Sender

/-!
# Every node as if it were alone on the bus

All frames of the bus come to all nodes: those of the master for any of them, and those
that the nodes send to whoever listens.  As long as no client gives a device another id,
a node makes nothing of what the others send, nor of what is sent to them.  Whatever the
order in which the bus carries the frames, each node does what it would do with the
frames of the master for it, its ticks and its power alone.

The device field has seven bits, and a device without an id, whose number has eight,
signs with the last seven of them.

## Main definitions

* `Distinct` — no device has the id that another one signs with.
* `Peaceful` — the events of a bus on which no id is changed.
* `own` — what a node makes something of.
* `Station.alone` — a node without a bus.
* `Settled` — what holds of a bus on which no id was changed.

## Main results

* `Settled.step` — one event on the bus.
* `isolation` — each node as if it were alone.
* `sender_of_frame` — frames with one identifier are from one node.

## References

`ti/can_master/can_server.cpp`, `ti/can_master/can.cpp`, `stm8/can_node/can.c`,
`shared/include/ha/can_proto.h`.
-/

namespace HomeAutomation
namespace DeviceLink

open CanServer

/-! ### Stations -/

/-- A station with another identifier in the place for replies. -/
def Station.renumbered (s : Station) (id : UInt32) : Station :=
  { s with node := s.node.renumbered id }

/-- A station without a bus: an event, and what the hardware answers meanwhile. -/
def Station.alone (s : Station) (e : Node.Event × Inputs) : Option Station :=
  some (s.handle e.2 e.1)

theorem timersUntilFault_renumbered (inputs : Inputs) (cs : List Channel) (n : Node)
    (id : UInt32) :
    timersUntilFault inputs cs (n.renumbered id)
      = (timersUntilFault inputs cs n).renumbered id := by
  induction cs generalizing n with
  | nil => rfl
  | cons c cs ih =>
    rw [timersUntilFault, timersUntilFault, Node.timerChannel_renumbered]
    cases n.timerChannel inputs c with
    | error fault => rfl
    | ok n' => apply ih

/-- **A station handles its next event in the same way**, whatever identifier it received
last. -/
theorem Station.handle_renumbered (inputs : Inputs) (e : Node.Event) (s : Station)
    (id : UInt32) :
    ∃ id', (s.renumbered id).handle inputs e = (s.handle inputs e).renumbered id' := by
  have hrunning : (s.renumbered id).running = s.running := rfl
  cases e with
  | powerCycle =>
    -- the reset forgets the identifier
    have hboot : (s.node.renumbered id).handle inputs .powerCycle
        = s.node.handle inputs .powerCycle := rfl
    unfold Station.handle Station.run
    dsimp only
    rw [Station.renumbered, hboot]
    cases s.node.handle inputs .powerCycle with
    | error fault => exact ⟨id, rfl⟩
    | ok n => exact ⟨n.receivedId, rfl⟩
  | tick =>
    unfold Station.handle
    dsimp only
    rw [hrunning]
    cases s.running with
    | false => exact ⟨id, rfl⟩
    | true =>
      -- no module looks at the identifier of the last frame
      have htick : (s.node.renumbered id).handle inputs .tick
          = (s.node.handle inputs .tick).map fun n => n.renumbered id :=
        Node.timerChannels_renumbered inputs channels s.node id
      refine ⟨id, ?_⟩
      unfold Station.run
      rw [Station.renumbered, if_pos rfl, if_pos rfl, htick]
      cases s.node.handle inputs .tick with
      | ok n => rfl
      | error fault =>
        simp only [Except.map, timersUntilFault_renumbered]
        rfl
  | frame frame =>
    unfold Station.handle
    dsimp only
    rw [hrunning]
    cases s.running with
    | false => exact ⟨id, rfl⟩
    | true =>
      -- an extended frame overwrites it, a standard one leaves everything
      have hframe : (s.node.renumbered id).handle inputs (.frame frame)
          = if frame.extended then s.node.handle inputs (.frame frame)
            else .ok (s.node.renumbered id) :=
        Node.handleReceivedData_renumbered inputs frame s.node id
      unfold Station.run
      rw [Station.renumbered, if_pos rfl, if_pos rfl, hframe]
      cases hextended : frame.extended with
      | true =>
        rw [if_pos rfl]
        cases s.node.handle inputs (.frame frame) with
        | ok n => exact ⟨n.receivedId, rfl⟩
        | error fault => exact ⟨id, rfl⟩
      | false =>
        have hstandard : s.node.handle inputs (.frame frame) = .ok s.node := by
          rw [Node.handle, Node.handleReceivedData, hextended]
          rfl
        rw [hstandard]
        exact ⟨id, rfl⟩

/-- **A frame for another device** leaves its identifier behind, at most. -/
theorem Station.handle_unheeded (inputs : Inputs) {frame : CanFrame} {s : Station}
    (h : ¬ s.node.Heeds frame) : ∃ id, s.handle inputs (.frame frame) = s.renumbered id := by
  rcases Node.handleReceivedData_unheeded inputs h with ⟨id, hid⟩
  have hhandle : s.node.handle inputs (.frame frame) = .ok (s.node.renumbered id) := hid
  unfold Station.handle
  dsimp only
  cases hrunning : s.running with
  | false =>
    refine ⟨s.node.receivedId, ?_⟩
    rw [if_neg Bool.false_ne_true]
    rfl
  | true =>
    refine ⟨id, ?_⟩
    unfold Station.run
    rw [if_pos rfl, hhandle, Station.renumbered, hrunning]

/-! ### What stations send -/

/-- The frames that one event sends, as the device is known behind it. -/
theorem Station.run_signed (inputs : Inputs) (e : Node.Event) (n : Node) :
    ∃ frames, (Station.run inputs e n).node.sent = n.sent ++ frames ∧ ∀ f ∈ frames,
      Node.IsUpdate f.id ∨ Node.FromDevice (Station.run inputs e n).node.deviceId f := by
  have hquiet : ∃ frames, n.sent = n.sent ++ frames ∧ ∀ f ∈ frames,
      Node.IsUpdate f.id ∨ Node.FromDevice n.deviceId f := ⟨[], by simp, by simp⟩
  unfold Station.run
  cases hresult : n.handle inputs e with
  | ok n' =>
    have hstep : n.step (e, inputs) = some n' := by
      unfold Node.step
      rw [hresult]
      rfl
    exact Node.sent_signed hstep
  | error fault =>
    cases e with
    | tick =>
      rcases timersUntilFault_eq inputs channels n with ⟨k, hk⟩
      rcases Node.Signs.timerChannels hk with ⟨frames, hsent, hframes⟩
      exact ⟨frames, hsent, fun f hf => Or.inr (hframes f hf)⟩
    | frame frame => exact hquiet
    | powerCycle => exact hquiet

theorem Station.sent_handle (inputs : Inputs) (e : Node.Event) (s : Station) :
    ∃ frames, (s.handle inputs e).node.sent = s.node.sent ++ frames ∧ ∀ f ∈ frames,
      Node.IsUpdate f.id ∨ Node.FromDevice (s.handle inputs e).node.deviceId f := by
  have hrun := Station.run_signed inputs e s.node
  unfold Station.handle
  cases e with
  | powerCycle => exact hrun
  | tick =>
    dsimp only
    split
    · exact hrun
    · exact ⟨[], by simp, by simp⟩
  | frame frame =>
    dsimp only
    split
    · exact hrun
    · exact ⟨[], by simp, by simp⟩

/-- A frame as a node with the given id sends it: it tells the id, or is the answer of one
byte to the request for all ids. -/
def SentBy (deviceId : UInt8) (f : SentFrame) : Prop :=
  Node.IsUpdate f.id ∧ f.data.length = 1 ∨
    ¬ Node.IsUpdate f.id ∧ Node.FromDevice deviceId f

/-- **What one event does to a station**, unless it is a frame that changes its id. -/
theorem Station.handle_signed (inputs : Inputs) (e : Node.Event) {s : Station}
    (hs : s.node.Stored) (he : ∀ frame, e = .frame frame → ¬ s.node.ChangesId frame) :
    (s.handle inputs e).node.Stored ∧ (s.handle inputs e).node.deviceId = s.node.deviceId ∧
      ∃ frames, (s.handle inputs e).node.sent = s.node.sent ++ frames ∧
        ∀ f ∈ frames, SentBy s.node.deviceId f := by
  rcases Station.handle_spec inputs e hs with ⟨hstored, hid, frames, hsent, hbytes⟩
  have hkept : (s.handle inputs e).node.deviceId = s.node.deviceId := by
    rcases hid with hid | ⟨frame, hframe, hchanges, -⟩
    · exact hid
    · exact absurd hchanges (he frame hframe)
  refine ⟨hstored, hkept, frames, hsent, fun f hf => ?_⟩
  have hfrom : Node.IsUpdate f.id ∨ Node.FromDevice s.node.deviceId f := by
    rcases Station.sent_handle inputs e s with ⟨frames', hsent', hframes'⟩
    -- both speak of the same frames
    have hsame : frames' = frames := List.append_cancel_left (hsent'.symm.trans hsent)
    rw [hsame, hkept] at hframes'
    apply hframes' f hf
  by_cases hupdate : Node.IsUpdate f.id
  · exact Or.inl ⟨hupdate, hbytes f hf hupdate⟩
  · exact Or.inr ⟨hupdate, hfrom.resolve_left hupdate⟩

/-! ### Frames of others -/

/-- No device has the id that another one signs with. -/
def Distinct {ι : Type*} (ids : ι → UInt8) : Prop :=
  ∀ i j, i ≠ j → (ids j).toNat ≠ (Node.signature (ids i)).toNat

/-- **No node heeds what another one sends.** -/
theorem not_heeds_nodeFrame {deviceId : UInt8} {f : SentFrame} (hf : SentBy deviceId f)
    {n : Node} (hn : n.deviceId.toNat ≠ (Node.signature deviceId).toNat) :
    ¬ n.Heeds (nodeFrame f) := by
  rintro ⟨-, ⟨hid, hheeds⟩ | ⟨hid, haddressed⟩⟩
  · rcases hf with ⟨-, hlength⟩ | ⟨hupdate, -⟩
    · rcases hheeds with hrtr | ⟨-, -, htwo, -⟩
      · cases hrtr
      · -- an answer has one byte, and a command has two
        have hone : (nodeFrame f).length = 1 := by
          change UInt8.ofNat f.data.length &&& 0x0f = 1
          rw [hlength]
          rfl
        rw [hone] at htwo
        cases htwo
    · exact hupdate hid
  · rcases hf with ⟨hupdate, -⟩ | ⟨-, hfrom⟩
    · exact hid hupdate
    · apply hn
      rw [haddressed, ← hfrom]
      rfl

/-- Where the device fields are all different, no device has another's. -/
theorem distinct_of_injective {ι : Type*} {ids : ι → UInt8}
    (h : Function.Injective fun i => Node.signature (ids i)) : Distinct ids := by
  intro i j hij hid
  apply hij
  apply h
  have hlt := (Node.signature (ids i)).isLt
  apply BitVec.eq_of_toNat_eq
  dsimp only
  rw [Node.signature, Node.signature, BitVec.toNat_ofNat, BitVec.toNat_ofNat, hid, Node.signature,
    BitVec.toNat_ofNat, Nat.mod_mod]

/-! ### The bus -/

/-- The events of a bus on which no id is changed: no client sends a command that gives
one of the devices another id. -/
def Peaceful {ι : Type*} (ids : ι → UInt8) : BusEvent ι → Prop
  | .command text true => ∀ i new, ¬ RenamesTo text (ids i) new
  | _ => True

namespace Bus

variable {ι : Type*} [DecidableEq ι]

/-- **What a node makes something of**: the frames of the master that it heeds, its ticks,
and its power. -/
def own (i : ι) (bus : Bus ι) : BusEvent ι → List (Node.Event × Inputs)
  | .deliver j k inputs =>
    match (bus.pending j)[k]? with
    | some (.master _, frame) =>
      if j = i ∧ (bus.stations i).node.Heeds frame then [(.frame frame, inputs)] else []
    | _ => []
  | .tick j inputs => if j = i then [(.tick, inputs)] else []
  | .powerCycle j inputs => if j = i then [(.powerCycle, inputs)] else []
  | .command _ _ => []
  | .lose _ _ => []

/-- What is expected of a frame on its way to a node: it is one of the master, for a command
that renames no device, or of another node. -/
def Expected (ids : ι → UInt8) (j : ι) : Origin ι × CanFrame → Prop
  | (.master text, frame) =>
    (∃ p request, commandOf text = some (p, request) ∧ frame = masterFrame p request) ∧
      ∀ i new, ¬ RenamesTo text (ids i) new
  | (.station i, frame) => i ≠ j ∧ ∃ f, frame = nodeFrame f ∧ SentBy (ids i) f

/-- The invariant: the ids are those given, and every frame is expected. -/
structure Settled (ids : ι → UInt8) (bus : Bus ι) : Prop where
  stored : ∀ i, (bus.stations i).node.Stored
  deviceId : ∀ i, bus.deviceId i = ids i
  pending : ∀ j, ∀ x ∈ bus.pending j, Expected ids j x

variable {ids : ι → UInt8}

omit [DecidableEq ι] in
/-- **A node heeds frames of the master alone.** -/
theorem Settled.not_heeds {bus : Bus ι} (hbus : bus.Settled ids) (hids : Distinct ids) {i j : ι}
    {frame : CanFrame} (hframe : (Origin.station i, frame) ∈ bus.pending j) :
    ¬ (bus.stations j).node.Heeds frame := by
  rcases hbus.pending j _ hframe with ⟨hij, f, rfl, hf⟩
  have hid : (bus.stations j).node.deviceId = ids j := hbus.deviceId j
  apply not_heeds_nodeFrame hf
  rw [hid]
  exact hids i j hij

omit [DecidableEq ι] in
/-- No frame on its way to a node changes its id. -/
theorem Settled.not_changesId {bus : Bus ι} (hbus : bus.Settled ids) (hids : Distinct ids)
    {j : ι} {origin : Origin ι} {frame : CanFrame} (hframe : (origin, frame) ∈ bus.pending j) :
    ¬ (bus.stations j).node.ChangesId frame := by
  intro hchanges
  cases origin with
  | master text =>
    rcases hbus.pending j _ hframe with ⟨⟨p, request, hcommand, rfl⟩, hpeace⟩
    have hrenames := renamesTo_of_changesId hcommand hchanges
    apply hpeace j
    rw [← hbus.deviceId j]
    exact hrenames
  | station i =>
    have hextended : frame.extended = true := by
      rcases hbus.pending j _ hframe with ⟨-, f, rfl, -⟩
      rfl
    apply hbus.not_heeds hids hframe
    exact ⟨hextended, Or.inl ⟨hchanges.2.1, Or.inr hchanges⟩⟩

theorem Settled.take {bus : Bus ι} (hbus : bus.Settled ids) (i : ι) (k : ℕ) :
    (bus.take i k).Settled ids := by
  refine ⟨hbus.stored, hbus.deviceId, fun j x hx => hbus.pending j x ?_⟩
  unfold Bus.take at hx
  dsimp only at hx
  rcases eq_or_ne j i with rfl | hj
  · rw [Function.update_self] at hx
    exact List.mem_of_mem_eraseIdx hx
  · rwa [Function.update_of_ne hj] at hx

/-- An event at one node that does not change its id. -/
theorem Settled.handle {bus : Bus ι} (hbus : bus.Settled ids) (i : ι) (inputs : Inputs)
    (e : Node.Event)
    (he : ∀ frame, e = .frame frame → ¬ (bus.stations i).node.ChangesId frame) :
    (bus.handle i inputs e).Settled ids := by
  rcases Station.handle_signed inputs e (hbus.stored i) he with
    ⟨hstored, hid, frames, hsent, hframes⟩
  have hself : (bus.handle i inputs e).stations i = (bus.stations i).handle inputs e :=
    Function.update_self ..
  have hother : ∀ j, j ≠ i → (bus.handle i inputs e).stations j = bus.stations j :=
    fun j hj => Function.update_of_ne hj ..
  -- the stored ids, the ids in use and the frames on their way, each at `i` and elsewhere
  refine ⟨fun j => ?_, fun j => ?_, fun j x hx => ?_⟩
  · rcases eq_or_ne j i with rfl | hj
    · rw [hself]
      exact hstored
    · rw [hother j hj]
      apply hbus.stored
  · rw [Bus.deviceId]
    rcases eq_or_ne j i with rfl | hj
    · rw [hself, hid]
      apply hbus.deviceId
    · rw [hother j hj]
      apply hbus.deviceId
  · unfold Bus.handle at hx
    -- the node that sends is not a receiver of its own frames
    dsimp only at hx
    split at hx
    · exact hbus.pending j x hx
    · next hj =>
      rcases List.mem_append.mp hx with hx | hx
      · exact hbus.pending j x hx
      · rw [hsent, List.drop_left] at hx
        rcases List.mem_map.mp hx with ⟨f, hf, rfl⟩
        refine ⟨Ne.symm hj, f, rfl, ?_⟩
        rw [← hbus.deviceId i]
        exact hframes f hf

/-- **The step lemma**: ids are kept, and every frame is expected. -/
theorem Settled.step {bus bus' : Bus ι} {e : BusEvent ι} (hbus : bus.Settled ids)
    (hids : Distinct ids) (he : Peaceful ids e) (h : bus.step e = some bus') :
    bus'.Settled ids := by
  cases e with
  | command text accepted =>
    unfold Bus.step at h
    dsimp only at h
    split at h
    · cases h
      exact hbus
    next p request hcommand =>
    split at h
    · next haccepted =>
      -- the command is put at the end of every queue, and it renames nobody
      cases h
      rw [haccepted] at he
      refine ⟨hbus.stored, hbus.deviceId, fun j x hx => ?_⟩
      rcases List.mem_append.mp hx with hx | hx
      · exact hbus.pending j x hx
      · rw [List.mem_singleton.mp hx]
        exact ⟨⟨p, request, hcommand, rfl⟩, he⟩
    · cases h
      exact hbus
  | deliver i k inputs =>
    unfold Bus.step at h
    dsimp only at h
    split at h
    · cases h
    next origin frame hframe =>
    cases h
    apply (hbus.take i k).handle
    rintro _ ⟨⟩
    -- no frame of another node or command on its way changes this node's id
    exact hbus.not_changesId hids (List.mem_of_getElem? hframe)
  | lose i k =>
    cases h
    apply hbus.take
  | tick i inputs =>
    cases h
    exact hbus.handle i inputs .tick nofun
  | powerCycle i inputs =>
    cases h
    exact hbus.handle i inputs .powerCycle nofun

/-! ### Each node alone -/

theorem stations_handle (bus : Bus ι) (i j : ι) (inputs : Inputs) (e : Node.Event) :
    (bus.handle j inputs e).stations i
      = if j = i then (bus.stations i).handle inputs e else bus.stations i := by
  unfold Bus.handle
  dsimp only
  by_cases hij : j = i
  · rw [hij, if_pos rfl, Function.update_self]
  · rw [if_neg hij, Function.update_of_ne (Ne.symm hij)]

/-- A command leaves the nodes alone until its frame is delivered. -/
theorem stations_command {bus bus' : Bus ι} {text : Text} {accepted : Bool}
    (h : bus.step (.command text accepted) = some bus') : bus'.stations = bus.stations := by
  unfold Bus.step at h
  dsimp only at h
  split at h
  · cases h
    rfl
  split at h
  · cases h
    rfl
  · cases h
    rfl

omit [DecidableEq ι] in
/-- The node handles an event as it does alone. -/
theorem exists_alone {bus : Bus ι} {i : ι} {s : Station} {id : UInt32}
    (hs : bus.stations i = s.renumbered id) (inputs : Inputs) (event : Node.Event) :
    ∃ s', Run.exec Station.alone s [(event, inputs)] = some s' ∧
      ∃ id', (bus.stations i).handle inputs event = s'.renumbered id' := by
  refine ⟨s.handle inputs event, rfl, ?_⟩
  rw [hs]
  apply Station.handle_renumbered

/-- A frame that is delivered to the node: it is one of the master that the node heeds, or it
leaves at most its identifier behind. -/
theorem Settled.alone_deliver {bus : Bus ι} (hbus : bus.Settled ids) (hids : Distinct ids)
    {i : ι} {k : ℕ} {inputs : Inputs} {origin : Origin ι} {frame : CanFrame}
    (hframe : (bus.pending i)[k]? = some (origin, frame)) {s : Station} {id : UInt32}
    (hs : bus.stations i = s.renumbered id) :
    ∃ s', Run.exec Station.alone s (own i bus (.deliver i k inputs)) = some s' ∧
      ∃ id', (bus.stations i).handle inputs (.frame frame) = s'.renumbered id' := by
  unfold own
  dsimp only
  rw [hframe]
  by_cases hheeds : (bus.stations i).node.Heeds frame
  · cases origin with
    | master text =>
      simp only [hheeds, and_self, if_true]
      exact exists_alone hs inputs (.frame frame)
    -- a frame of another node is never heeded
    | station j => exact absurd hheeds (hbus.not_heeds hids (List.mem_of_getElem? hframe))
  · rcases Station.handle_unheeded inputs hheeds with ⟨id', hid'⟩
    refine ⟨s, ?_, id', ?_⟩
    · cases origin with
      | master text => simp [hheeds, Run.exec]
      | station j => rfl
    · rw [hid', hs]
      rfl

/-- **One event**: the node does what it would do alone, but for the identifiers that the
frames of the others leave behind. -/
theorem Settled.alone {bus bus' : Bus ι} {e : BusEvent ι} (hbus : bus.Settled ids)
    (hids : Distinct ids) (h : bus.step e = some bus') (i : ι) {s : Station} {id : UInt32}
    (hs : bus.stations i = s.renumbered id) :
    ∃ s', Run.exec Station.alone s (own i bus e) = some s' ∧
      ∃ id', bus'.stations i = s'.renumbered id' := by
  -- an event elsewhere is nothing to the node
  have hother : ∃ s', Run.exec Station.alone s [] = some s' ∧
      ∃ id', bus.stations i = s'.renumbered id' := ⟨s, rfl, id, hs⟩
  cases e with
  | command text accepted =>
    rw [stations_command h]
    exact hother
  | deliver j k inputs =>
    unfold Bus.step at h
    dsimp only at h
    split at h
    · cases h
    next origin frame hframe =>
    cases h
    rw [stations_handle]
    by_cases hj : j = i
    · subst hj
      rw [if_pos rfl]
      exact hbus.alone_deliver hids hframe hs
    · unfold own
      dsimp only
      rw [hframe, if_neg hj]
      cases origin with
      | master text =>
        simp only [hj, false_and, if_false]
        exact hother
      | station l => exact hother
  | lose j k =>
    cases h
    exact hother
  | tick j inputs =>
    cases h
    rw [stations_handle]
    unfold own
    by_cases hj : j = i
    · simpa [hj] using exists_alone hs inputs .tick
    · simpa [hj] using hother
  | powerCycle j inputs =>
    cases h
    rw [stations_handle]
    unfold own
    by_cases hj : j = i
    · simpa [hj] using exists_alone hs inputs .powerCycle
    · simpa [hj] using hother

omit [DecidableEq ι] in
theorem settled_start {nodes : ι → Node} (hnodes : ∀ i, (nodes i).Reachable) :
    (start nodes).Settled fun i => (nodes i).deviceId :=
  ⟨fun i => (hnodes i).stored, fun _ => rfl, fun _ _ hx => absurd hx List.not_mem_nil⟩

/-- **Each node does what it would do alone** with the frames of the master that it heeds,
its ticks and its power, in every run of a bus on which no id is changed. -/
theorem isolation {nodes : ι → Node} (hnodes : ∀ i, (nodes i).Reachable)
    (hids : Distinct fun i => (nodes i).deviceId) {es : List (BusEvent ι)}
    (hes : ∀ e ∈ es, Peaceful (fun i => (nodes i).deviceId) e) (i : ι) :
    ∃ s, Run.exec Station.alone ⟨nodes i, true⟩
        (Run.observations Bus.step (own i) (start nodes) es) = some s ∧
      ∃ id, (Run.last Bus.step (start nodes) es).stations i = s.renumbered id := by
  have hrun : ∃ s, Run.exec Station.alone ⟨nodes i, true⟩
        (Run.observations Bus.step (own i) (start nodes) es) = some s ∧
      (Run.last Bus.step (start nodes) es).Settled (fun i => (nodes i).deviceId) ∧
        ∃ id, (Run.last Bus.step (start nodes) es).stations i = s.renumbered id := by
    refine Run.exec_observations
      (R := fun (bus : Bus ι) (s : Station) => bus.Settled (fun i => (nodes i).deviceId) ∧
        ∃ id, bus.stations i = s.renumbered id)
      (C := fun _ e => Peaceful (fun i => (nodes i).deviceId) e) ?_ es (start nodes)
      ⟨nodes i, true⟩ ⟨settled_start hnodes, (nodes i).receivedId, rfl⟩
      (fun t ht => hes _ (Run.mem_of_mem_trace ht))
    rintro bus e bus' s ⟨hbus, id, hs⟩ he h
    rcases hbus.alone hids h i hs with ⟨s', hexec, hid'⟩
    exact ⟨s', hexec, hbus.step hids he h, hid'⟩
  rcases hrun with ⟨s, hexec, -, hid⟩
  exact ⟨s, hexec, hid⟩

/-! ### Senders -/

omit [DecidableEq ι] in
/-- A frame of a node that is none for device ids has the device field of its sender. -/
theorem Settled.deviceField {bus : Bus ι} (hbus : bus.Settled ids) {i j : ι} {frame : CanFrame}
    (hframe : (Origin.station i, frame) ∈ bus.pending j)
    (hid : frame.receivedId ≠ specialIdUpdate) :
    Node.deviceField frame.id = Node.signature (ids i) := by
  rcases hbus.pending j _ hframe with ⟨-, f, rfl, ⟨hupdate, -⟩ | ⟨-, hfrom⟩⟩
  · exact absurd hupdate hid
  · exact hfrom

/-- **Frames with one identifier are from one node**, unless they answer the request for all
device ids: in every state of a run on which no id is changed. -/
theorem sender_of_frame {nodes : ι → Node} (hnodes : ∀ i, (nodes i).Reachable)
    (hids : Function.Injective fun i => Node.signature (nodes i).deviceId)
    {es : List (BusEvent ι)} (hes : ∀ e ∈ es, Peaceful (fun i => (nodes i).deviceId) e) :
    Run.Always Bus.step (fun bus => ∀ i i' j j' f g,
      (Origin.station i, f) ∈ bus.pending j → (Origin.station i', g) ∈ bus.pending j' →
      f.receivedId = g.receivedId → f.receivedId ≠ specialIdUpdate → i = i')
      (start nodes) es := by
  refine Run.always_of_along (C := fun _ e => Peaceful (fun i => (nodes i).deviceId) e)
    (fun _ _ _ hbus he h => Settled.step hbus (distinct_of_injective hids) he h) ?_ es _
    (settled_start hnodes) (Run.along_of_forall hes)
  intro bus hbus i i' j j' f g hf hg hsame hid
  have hfield : Node.deviceField f.id = Node.deviceField g.id := by
    have hread : f.id &&& 0x1fffffff = g.id &&& 0x1fffffff := hsame
    rw [Node.deviceField, Node.deviceField, hread]
  apply hids
  dsimp only
  rw [← hbus.deviceField hf hid, hfield]
  apply hbus.deviceField hg
  rw [← hsame]
  exact hid

/-- The EEPROM of a device with an id, and nothing else. -/
def idEeprom (deviceId : UInt8) (a : ℕ) : UInt8 :=
  if a = 0 then Node.header else if a = 1 then deviceId else 0

/-- Two nodes that start with the ids 5 and 6. -/
def twoNodes (i : Fin 2) : Node :=
  ((Node.blank (idEeprom (5 + UInt8.ofNat i))).boot .idle).toOption.getD (Node.blank fun _ => 0)

theorem twoNodes_reachable (i : Fin 2) : (twoNodes i).Reachable := by
  refine Run.Reachable.init ⟨idEeprom (5 + UInt8.ofNat i), .idle, ?_⟩
  unfold twoNodes
  match i with
  | 0 => rfl
  | 1 => rfl

/-- The type of the device 5 is asked for; the second node takes the request, then the first
one does, and at last the second one takes the answer. -/
def question : List (BusEvent (Fin 2)) :=
  [.command "dev:05  addr:0000  ?".toList true, .deliver ⟨1, Nat.one_lt_two⟩ 0 .idle,
    .deliver ⟨0, Nat.two_pos⟩ 0 .idle, .deliver ⟨1, Nat.one_lt_two⟩ 0 .idle]

/-- The request renames no device. -/
theorem question_peaceful (ids : Fin 2 → UInt8) : ∀ e ∈ question, Peaceful ids e := by
  have hrequest : ∀ old new, ¬ RenamesTo "dev:05  addr:0000  ?".toList old new := by
    rintro old new ⟨value, hvalue, -⟩
    have hnone : sscanfTag "dev-q!".toList (cString "dev:05  addr:0000  ?".toList) = none := by
      decide
    rw [hnone] at hvalue
    cases hvalue
  intro e he
  simp only [question, List.mem_cons, List.not_mem_nil, or_false] at he
  rcases he with rfl | rfl | rfl | rfl
  · exact fun i new => hrequest (ids i) new
  · trivial
  · trivial
  · trivial

/-- The frame of that request. -/
def questionFrame : CanFrame := masterFrame ⟨packetIdToNumber ⟨0, 5, 0⟩, Body.nil⟩ true

/-- The first node does what it would do with the request alone; the second one takes both
frames, and is as it was. -/
theorem isolation_question :
    (∃ s, Run.exec Station.alone ⟨twoNodes 0, true⟩ [(.frame questionFrame, .idle)] = some s ∧
      ∃ id, (Run.last Bus.step (start twoNodes) question).stations 0 = s.renumbered id) ∧
    ∃ id, (Run.last Bus.step (start twoNodes) question).stations 1
      = (Station.mk (twoNodes 1) true).renumbered id := by
  have hids : Distinct fun i => (twoNodes i).deviceId := by
    intro i j
    revert i j
    decide
  have hfirst : Run.observations Bus.step (own 0) (start twoNodes) question
      = [(.frame questionFrame, .idle)] := rfl
  have hsecond : Run.observations Bus.step (own 1) (start twoNodes) question = [] := rfl
  have hfirst' := isolation twoNodes_reachable hids (question_peaceful _) 0
  rw [hfirst] at hfirst'
  refine ⟨hfirst', ?_⟩
  rcases isolation twoNodes_reachable hids (question_peaceful _) 1 with ⟨s, hs, hid⟩
  rw [hsecond] at hs
  cases hs
  exact hid

/-- So the answer is from the first node, wherever it is met. -/
theorem sender_of_frame_question :
    Run.Always Bus.step (fun bus => ∀ i i' j j' f g,
      (Origin.station i, f) ∈ bus.pending j → (Origin.station i', g) ∈ bus.pending j' →
      f.receivedId = g.receivedId → f.receivedId ≠ specialIdUpdate → i = i')
      (start twoNodes) question := by
  refine sender_of_frame twoNodes_reachable ?_ (question_peaceful _)
  intro i j
  revert i j
  decide

end Bus

end DeviceLink
end HomeAutomation
