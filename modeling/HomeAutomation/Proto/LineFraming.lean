import HomeAutomation.Lib.Framing
import HomeAutomation.Proto.SocketConnection

/-!
# Lines do not depend on how the stream is cut

`on_read_ready` finds the lines of a stream of bytes in whatever pieces the
socket hands them over.  The loop over the buffer is first related to the frames
of `Lib.Framing`: it hands over the frames that contain something to read, and
leaves the residue.  The law for a whole run then is the law of frames.

## Main results

* `readLines_eq` — the loop takes the frames and leaves the residue.
* `receive_eq` — **the lines of a run are those of the stream**, whatever the
  chunks.
-/

namespace HomeAutomation
namespace SocketConnection

open Str Framing

theorem hasText_iff {line : Text} : hasText line = true ↔ ∃ c ∈ line, isBlank c = false := by
  rw [hasText, decide_eq_true_eq, findFirstNotOf, Ne, findFirstOf_zero_eq_none_iff]
  push Not
  simp

/-- The frames that are handed over. -/
def linesOf (s : Text) : List Text := (frames isEol s).filter hasText

theorem filter_replicate_nil (n : ℕ) : (List.replicate n ([] : Text)).filter hasText = [] := by
  rw [List.filter_eq_nil_iff]
  intro a ha
  rw [List.eq_of_mem_replicate ha]
  decide

/-- A line, its terminator and the terminators behind it. -/
theorem linesOf_cut {w es : Text} {e : Char} (s : Text) (hw : ∀ x ∈ w, isEol x = false)
    (he : isEol e = true) (hes : ∀ x ∈ es, isEol x = true) :
    linesOf (w ++ e :: (es ++ s)) = (if hasText w then [w] else []) ++ linesOf s := by
  rw [linesOf, frames_cut hw he, frames_skip s hes, List.filter_cons, List.filter_append,
    filter_replicate_nil, List.nil_append, linesOf]
  split <;> rfl

theorem residue_cut_skip {w es : Text} {e : Char} (s : Text) (hw : ∀ x ∈ w, isEol x = false)
    (he : isEol e = true) (hes : ∀ x ∈ es, isEol x = true) :
    residue isEol (w ++ e :: (es ++ s)) = residue isEol s := by
  rw [residue_cut hw he, residue_skip s hes]

/-- The terminators at the beginning of a text, and the rest. -/
theorem exists_skip (r : Text) : ∃ es s, r = es ++ s ∧ (∀ x ∈ es, isEol x = true) ∧
    ∀ c ∈ s.head?, isEol c = false := by
  rcases exists_cut (fun c => !isEol c) r with h | ⟨es, c, s, rfl, hes, hc⟩
  · exact ⟨r, [], by simp, fun x hx => by simpa using h x hx, by simp⟩
  · exact ⟨es, c :: s, rfl, fun x hx => by simpa using hes x hx, by simpa using hc⟩

/-- Where the loop looks for the next line: behind the terminators. -/
theorem findFirstNotOf_skip (a es : Text) {s : Text} (hes : ∀ x ∈ es, isEol x = true)
    (hs : ∀ c ∈ s.head?, isEol c = false) :
    findFirstNotOf isEol (a ++ (es ++ s)) a.length
      = if s = [] then none else some (a ++ es).length := by
  have hes' : ∀ x ∈ es, (!isEol x) = false := fun x hx => by simp [hes x hx]
  cases s with
  | nil =>
    rw [if_pos rfl, List.append_nil]
    exact findFirstOf_append_none a hes'
  | cons c s =>
    have hc : isEol c = false := hs c (by simp)
    rw [if_neg (by simp), List.length_append]
    exact findFirstOf_append a hes' (by simp [hc])

/-- The loop from an offset on is about the text behind the offset. -/
theorem readLoop_eq : ∀ (fuel : ℕ) (pre s : Text), s.length < fuel →
    readLoop (pre ++ s) fuel pre.length = (linesOf s, residue isEol s) := by
  intro fuel
  induction fuel with
  | zero => intro pre s h; omega
  | succ fuel ih =>
    intro pre s hlen
    rcases exists_cut isEol s with h | ⟨w, e, r, rfl, hw, he⟩
    · -- no terminator is left: the rest stays in the buffer
      rw [readLoop, findFirstOf_append_none pre h]
      simp [linesOf, frames_of_forall h, residue_of_forall h]
    · -- the line up to the terminator, then the terminators behind it
      obtain ⟨es, s, rfl, hes, hs⟩ := exists_skip r
      have hline : substr (pre ++ (w ++ e :: (es ++ s))) pre.length w.length = w :=
        substr_append _ _ _
      have hnext : findFirstNotOf isEol (pre ++ (w ++ e :: (es ++ s))) (pre.length + w.length)
          = if s = [] then none else some (pre ++ w ++ e :: es).length := by
        have := findFirstNotOf_skip (pre ++ w) (e :: es)
          (List.forall_mem_cons.mpr ⟨he, hes⟩) hs
        rwa [List.length_append, List.append_assoc] at this
      rw [readLoop, findFirstOf_append pre hw he, linesOf_cut s hw he hes,
        residue_cut_skip s hw he hes]
      dsimp only
      rw [Nat.add_sub_cancel_left, hline, hnext]
      by_cases hnil : s = []
      · subst hnil
        simp [linesOf, frames_of_forall, residue_of_forall]
      · have hbuf : pre ++ (w ++ e :: (es ++ s)) = (pre ++ w ++ e :: es) ++ s := by simp
        have hlt : s.length < fuel := by
          simp only [List.length_append, List.length_cons] at hlen
          omega
        rw [if_neg hnil]
        dsimp only
        rw [hbuf, ih _ _ hlt]

/-- **The loop takes the frames and leaves the residue.** -/
theorem readLines_eq (buffer : Text) : readLines buffer = (linesOf buffer, residue isEol buffer) :=
  readLoop_eq (buffer.length + 1) [] buffer (Nat.lt_succ_self _)

/-! ### Runs -/

/-- A run of `on_read_ready` over chunks: the lines given to `handle_line` over
all calls, and the connection after the last. -/
def receive (c : SocketConnection) : List Text → List Text × SocketConnection
  | [] => ([], c)
  | chunk :: chunks =>
    let r := c.onReadReady (.received chunk)
    let rest := receive r.1 chunks
    (r.2.lines ++ rest.1, rest.2)

/-- One call hands over the frames that its chunk completes. -/
theorem onReadReady_received {c : SocketConnection} (hc : ∀ x ∈ c.readBuffer, isEol x = false)
    (chunk : Text) :
    (c.onReadReady (.received chunk)).2.lines = linesOf (c.readBuffer ++ chunk) ∧
      (c.onReadReady (.received chunk)).1.readBuffer
        = residue isEol (c.readBuffer ++ chunk) := by
  rw [onReadReady]
  split
  · next h =>
    have hnil : chunk = [] := List.length_eq_zero_iff.mp h
    rw [hnil, List.append_nil, linesOf, frames_of_forall hc, residue_of_forall hc]
    exact ⟨rfl, rfl⟩
  · rw [readLines_eq]
    exact ⟨rfl, rfl⟩

/-- **The lines of a run are those of the stream.**  The invariant of the run is
that no terminator is left in the buffer. -/
theorem receive_eq : ∀ (chunks : List Text) (c : SocketConnection),
    (∀ x ∈ c.readBuffer, isEol x = false) →
      (receive c chunks).1 = linesOf (c.readBuffer ++ chunks.flatten) ∧
        (receive c chunks).2.readBuffer = residue isEol (c.readBuffer ++ chunks.flatten) := by
  intro chunks
  induction chunks with
  | nil =>
    intro c hc
    rw [List.flatten_nil, List.append_nil, linesOf, frames_of_forall hc, residue_of_forall hc]
    exact ⟨rfl, rfl⟩
  | cons chunk chunks ih =>
    intro c hc
    obtain ⟨hlines, hbuffer⟩ := onReadReady_received hc chunk
    have hnext : ∀ x ∈ (c.onReadReady (.received chunk)).1.readBuffer, isEol x = false := by
      rw [hbuffer]
      exact residue_forall _
    obtain ⟨ih1, ih2⟩ := ih _ hnext
    rw [hbuffer] at ih1 ih2
    rw [List.flatten_cons, ← List.append_assoc]
    constructor
    · rw [receive, hlines, ih1, linesOf, linesOf, linesOf, ← List.filter_append, ← frames_append]
    · rw [receive, ih2, ← residue_append]

/-- **Line framing does not depend on how the stream is cut.**  Over any chunks,
from an empty buffer, the lines handed over and the buffer left are those of the
whole stream received at once: the pieces that a carriage return or a line feed
ends and that hold more than blanks, and the piece that nothing ends. -/
theorem lines_independent_of_chunks (c : SocketConnection) (chunks : List Text) :
    let empty := { c with readBuffer := [] }
    let pieces := chunks.flatten.splitOnP fun ch => ch == '\r' || ch == '\n'
    (receive empty chunks).1 = (receive empty [chunks.flatten]).1 ∧
      (receive empty chunks).2.readBuffer = (receive empty [chunks.flatten]).2.readBuffer ∧
      (receive empty chunks).1 = pieces.dropLast.filter (·.any fun ch => ch != ' ' && ch != '\t') ∧
      (receive empty chunks).2.readBuffer = pieces.getLast (List.splitOnP_ne_nil _ _) := by
  intro empty pieces
  have hempty : ∀ x ∈ empty.readBuffer, isEol x = false := by simp [empty]
  obtain ⟨h1, h2⟩ := receive_eq chunks empty hempty
  obtain ⟨w1, w2⟩ := receive_eq [chunks.flatten] empty hempty
  rw [List.flatten_singleton] at w1 w2
  refine ⟨h1.trans w1.symm, h2.trans w2.symm, ?_, h2⟩
  have htext : hasText = fun line => line.any fun ch => ch != ' ' && ch != '\t' := by
    funext line
    rw [Bool.eq_iff_iff, hasText_iff, List.any_eq_true]
    simp [isBlank]
  rw [h1, linesOf, htext]
  rfl

end SocketConnection
end HomeAutomation
