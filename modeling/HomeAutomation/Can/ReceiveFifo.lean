import HomeAutomation.Can.CanServer
import HomeAutomation.Lib.Run
import HomeAutomation.Lib.Slots

/-!
# The receive objects of the CAN master

The controller stores a frame in the first of its sixteen receive objects that holds no
new data, and the driver takes the frame of the first object that does.  An object that
the driver has freed is filled again while later objects still wait: the new frame then
overtakes those.

A frame whose length is above eight is taken and dropped.  Runs in which a frame finds
no free object are left out.

## Main definitions

* `RxFrame`, `packetOf` — a frame in an object, and what `receive` makes of it.
* `Receiver`, `Receiver.step` — the objects, with what has come and what was returned.
* `InOrder` — the packets returned are the first of those that came.

## Main results

* `receive_inOrder` — order is kept in a run in which no frame comes while an object
  is free before one that waits.

## References

`ti/can_master/can.cpp`, `ti/can_master/can_server.cpp`.
-/

namespace HomeAutomation
namespace CanServer

/-- A frame, as a receive object holds it: the length field has four bits. -/
structure RxFrame where
  id : UInt32
  dlc : Fin 16
  data : Fin 8 → UInt8

/-- The packet that `CanMaster::receive` returns for a frame, if it returns one. -/
def packetOf (frame : RxFrame) : Option CanPacket :=
  if frame.dlc.val > 8 then none
  else some ⟨frame.id, ⟨(List.ofFn frame.data).take frame.dlc, by simp⟩⟩

/-- The receive objects from `RxBegin` on, with the frames that were stored and the
packets that were returned so far. -/
structure Receiver where
  objects : List (Option RxFrame) := List.replicate 16 none
  arrived : List RxFrame := []
  returned : List CanPacket := []

/-- What can happen at the controller. -/
inductive RxEvent
  /-- A frame is stored. -/
  | arrive (frame : RxFrame)
  /-- `handle_signal` calls `CanMaster::receive`. -/
  | receive

namespace Receiver

/-- An event at the controller. -/
def step (r : Receiver) : RxEvent → Option Receiver
  | .arrive frame => (Slots.put frame r.objects).map fun objects =>
      { r with objects := objects, arrived := r.arrived ++ [frame] }
  | .receive =>
    match Slots.take r.objects with
    | none => some r
    | some (frame, objects) =>
      some { r with objects := objects, returned := r.returned ++ (packetOf frame).toList }

/-- **The packets returned are the first of those that came**, in their order. -/
def InOrder (r : Receiver) : Prop := r.returned.map some <+: r.arrived.map packetOf

/-- A frame that comes is one that `receive` returns, and finds no object free before one
that waits. -/
def Admissible (r : Receiver) : RxEvent → Prop
  | .arrive frame => frame.dlc.val ≤ 8 ∧ Slots.Packed r.objects
  | .receive => True

/-- What came is what was returned and what waits, in this order. -/
structure Queued (r : Receiver) : Prop where
  arrived : r.arrived.map packetOf
    = r.returned.map some ++ (Slots.contents r.objects).map packetOf
  short : ∀ frame ∈ Slots.contents r.objects, frame.dlc.val ≤ 8

theorem Queued.step {r r' : Receiver} {e : RxEvent} (hr : r.Queued) (he : r.Admissible e)
    (h : r.step e = some r') : r'.Queued := by
  cases e with
  | arrive frame =>
    obtain ⟨objects, hput, rfl⟩ := Option.map_eq_some_iff.mp h
    -- the first free object lies behind all that wait
    have hcontents := Slots.contents_put_of_packed he.2 hput
    constructor
    · rw [hcontents, List.map_append, List.map_append, hr.arrived, List.append_assoc]
    · intro f hf
      rw [hcontents] at hf
      obtain hf | hf := List.mem_append.mp hf
      · exact hr.short f hf
      · rw [List.mem_singleton.mp hf]
        exact he.1
  | receive =>
    unfold Receiver.step at h
    dsimp only at h
    -- all frames have been received, and the first object is empty
    split at h
    · cases h
      exact hr
    · next frame objects htake =>
      cases h
      have hcontents := Slots.contents_take htake
      -- a frame that is not too long is returned
      have hpacket : (packetOf frame).toList.map some = [packetOf frame] := by
        have hshort := hr.short frame (by rw [hcontents]; exact List.mem_cons_self)
        unfold packetOf
        rw [if_neg (Nat.not_lt.mpr hshort)]
        rfl
      constructor
      · rw [hr.arrived, hcontents, List.map_cons, List.map_append, hpacket, List.append_assoc]
        rfl
      · intro f hf
        exact hr.short f (by rw [hcontents]; exact List.mem_cons_of_mem _ hf)

/-- **Order is kept** in a run in which no frame comes while an object is free before one
that waits. -/
theorem receive_inOrder {es : List RxEvent} (h : Run.Along Receiver.step Admissible {} es) :
    Run.Always Receiver.step InOrder {} es := by
  refine Run.always_of_along (fun r e r' hr he hstep => Queued.step hr he hstep) ?_ es {} ?_ h
  · intro r hr
    exact ⟨_, hr.arrived.symm⟩
  · exact ⟨rfl, by decide⟩

/-- A frame of one byte. -/
def sampleFrame (value : UInt8) : RxFrame := ⟨0, 1, fun _ => value⟩

/-- Two frames come and are received, and a third comes then. -/
theorem receive_inOrder_sample :
    Run.Always Receiver.step InOrder {}
      [.arrive (sampleFrame 1), .arrive (sampleFrame 2), .receive, .receive,
        .arrive (sampleFrame 3), .receive] := by
  refine receive_inOrder ⟨⟨by decide, rfl⟩, ?_⟩
  rintro _ ⟨⟩
  refine ⟨⟨by decide, rfl⟩, ?_⟩
  rintro _ ⟨⟩
  refine ⟨trivial, ?_⟩
  rintro _ ⟨⟩
  refine ⟨trivial, ?_⟩
  rintro _ ⟨⟩
  refine ⟨⟨by decide, rfl⟩, ?_⟩
  rintro _ ⟨⟩
  exact ⟨trivial, fun _ _ => trivial⟩

/-- The third frame comes between the two receptions, and overtakes the second. -/
theorem receive_counterexample :
    (∃ r, Run.exec Receiver.step {} [.arrive (sampleFrame 1), .arrive (sampleFrame 2), .receive,
      .arrive (sampleFrame 3), .receive] = some r ∧
      r.returned.map (fun p => p.data.1) = [[1], [3]]) ∧
    ¬ Run.Always Receiver.step InOrder {} [.arrive (sampleFrame 1), .arrive (sampleFrame 2),
      .receive, .arrive (sampleFrame 3), .receive] := by
  refine ⟨⟨_, rfl, by decide⟩, fun h => ?_⟩
  have hlast := Run.Always.exec h rfl
  unfold InOrder at hlast
  exact absurd hlast (by decide)

end Receiver

end CanServer
end HomeAutomation
