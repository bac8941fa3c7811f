import HomeAutomation.Can.CommandLine
import HomeAutomation.Lib.Segments

/-!
# Commands that arrive in pieces

A client's connection is a stream: what one `recv` returns may be a part of a line, or
parts of several.  The master parses what one `recv` returns as one command and keeps
nothing of it, so what it does depends on how the stream is cut.  Commands of which the
second begins in the same piece are lost, or turned into others.

The letter `v` occurs in a command line once, in the name of its first field; the parser
asks for that name at the beginning of a piece.

## Main definitions

* `performed` — what `handle_client` sends and requests for the pieces of a stream.
* `Cuts` — the stream of some commands, cut into pieces.
* `Aligned` — every command begins a piece that has all of its core.

## Main results

* `performed_lines` — lines that arrive one at a time are performed.
* `performed_eq_iff` — the pieces are performed like the lines exactly when they are
  aligned with them.

## References

`ti/can_master/can_server.cpp`.
-/

namespace HomeAutomation
namespace CanServer

open Segments

/-- What `handle_client` sends and requests, for what one `recv` after the other
returns. -/
def performed (received : List Text) : List (CanPacket × Bool) := received.filterMap commandOf

/-- The lines of some commands. -/
def lines (commands : List Command) : List Text := commands.map Command.line

/-- The stream of the commands, cut into pieces; no `recv` of an open connection returns
nothing. -/
structure Cuts (commands : List Command) (received : List Text) : Prop where
  ne_nil : ∀ s ∈ received, s ≠ []
  flatten : received.flatten = (lines commands).flatten

/-- **Every command begins a piece of its own that has all of its core**; the further
pieces of its line are of no consequence. -/
def Aligned (commands : List Command) (received : List Text) : Prop :=
  ∃ groups : List (List Text), received = groups.flatten ∧
    List.Forall₂ (fun c g => ∃ first rest, g = first :: rest ∧
      c.line = first ++ rest.flatten ∧ c.core <+: first) commands groups

/-! ### The mark of a command -/

/-- A command line begins with `dev`, and has no other `v`. -/
theorem headed_line (c : Command) : Headed "de".toList 'v' c.line := by
  have hdigits : ∀ {n : ℕ} (d : Digits n), 'v' ∉ d.text := fun d => d.not_mem (by decide)
  have hbytes : ∀ bytes, 'v' ∉ bytesText bytes := not_mem_bytesText (by decide)
  refine ⟨c.line.drop 3, ?_, ?_⟩
  · cases c with
    | write device address bytes _ => rfl
    | request device address => rfl
    | queryIds => rfl
    | changeId ids _ => rfl
  -- no mark in the rest of the line, whatever the digits are
  · cases c with
    | write device address bytes _ =>
      have h₁ := hdigits device
      have h₂ := hdigits address
      have h₃ := hbytes bytes
      simp [Command.line, Command.text_write, registerText, h₁, h₂, h₃]
    | request device address =>
      have h₁ := hdigits device
      have h₂ := hdigits address
      simp [Command.line, Command.text_request, registerText, h₁, h₂]
    | queryIds => decide
    | changeId ids _ =>
      have h := hdigits ids
      simp [Command.line, Command.text_changeId, h]

/-- A piece in which the master finds a command begins with `dev`. -/
theorem dev_prefix_piece {s : Text} (h : (commandOf s).isSome = true) : "dev".toList <+: s := by
  obtain ⟨⟨q, request⟩, hq⟩ := Option.isSome_iff_exists.mp h
  unfold commandOf at hq
  split at hq
  · cases hq
  · exact (of_parsePacket hq).1.trans <| List.takeWhile_prefix _

theorem mark_mem {s : Text} (h : (commandOf s).isSome = true) : 'v' ∈ s :=
  (dev_prefix_piece h).subset (by decide)

theorem commandOf_eq_none {s : Text} (h : 'v' ∉ s) : commandOf s = none := by
  cases hs : commandOf s with
  | none => rfl
  | some r => exact absurd (mark_mem (by rw [hs]; rfl)) h

theorem count_mark {l : Text} (h : Headed "de".toList 'v' l) : l.count 'v' = 1 := by
  obtain ⟨t, rfl, ht⟩ := h
  simp [List.count_eq_zero.mpr ht]

theorem count_mark_lines (commands : List Command) :
    (lines commands).flatten.count 'v' = commands.length := by
  induction commands with
  | nil => rfl
  | cons c commands ih =>
    rw [lines, List.map_cons, List.flatten_cons, List.count_append, count_mark (headed_line c),
      List.length_cons, ← ih, Nat.add_comm]
    rfl

/-! ### What is performed -/

theorem core_prefix_text (c : Command) : c.core <+: c.text := by
  cases c with
  | changeId ids hnew => exact (List.prefix_append_right_inj _).mpr (significant_prefix_text ids)
  | write device address bytes hbytes => exact List.prefix_rfl
  | request device address => exact List.prefix_rfl
  | queryIds => exact List.prefix_rfl

theorem commandOf_line (c : Command) : commandOf c.line = some c.action :=
  (commandOf_prefix_iff c List.prefix_rfl).mpr
    ((core_prefix_text c).trans (List.prefix_append _ _))

/-- **Lines that arrive one at a time are performed**, each of them once. -/
theorem performed_lines (commands : List Command) :
    performed (lines commands) = commands.map Command.action := by
  rw [performed, lines, List.filterMap_map]
  have hfun : commandOf ∘ Command.line = fun c => some c.action := funext commandOf_line
  rw [hfun, List.filterMap_eq_map']

/-- A line in pieces: what the first piece is taken for. -/
theorem performed_group {c : Command} {first : Text} {rest : List Text}
    (hline : c.line = first ++ rest.flatten) (hmark : 'v' ∈ first) :
    performed (first :: rest) = (commandOf first).toList := by
  -- the one mark of the line is in the first piece, so the others are passed over
  have hcount := count_mark (headed_line c)
  have hfirst := List.count_pos_iff.mpr hmark
  rw [hline, List.count_append] at hcount
  have hrest : 'v' ∉ rest.flatten := List.count_eq_zero.mp (by omega)
  have hnone : rest.filterMap commandOf = [] := by
    rw [List.filterMap_eq_nil_iff]
    exact fun s hs => commandOf_eq_none fun hmem => hrest (List.mem_flatten_of_mem hs hmem)
  rw [performed, List.filterMap_cons, hnone]
  cases commandOf first with
  | none => rfl
  | some r => rfl

/-- Aligned pieces are performed like the lines. -/
theorem performed_groups {commands : List Command} {groups : List (List Text)}
    (h : List.Forall₂ (fun c g => ∃ first rest, g = first :: rest ∧
      c.line = first ++ rest.flatten ∧ c.core <+: first) commands groups) :
    performed groups.flatten = commands.map Command.action := by
  induction h with
  | nil => rfl
  | @cons c g commands groups hg _ ih =>
    obtain ⟨first, rest, rfl, hline, hcore⟩ := hg
    have haction : commandOf first = some c.action :=
      (commandOf_prefix_iff c (hline ▸ List.prefix_append _ _)).mpr hcore
    have hfirst := performed_group hline (mark_mem (by rw [haction]; rfl))
    rw [List.flatten_cons, performed, List.filterMap_append, List.map_cons]
    change performed (first :: rest) ++ performed groups.flatten = _
    rw [hfirst, haction, ih]
    rfl

/-- Pieces that are performed like the lines have the cores. -/
theorem cores_of_performed {commands : List Command} {groups : List (List Text)}
    (hcut : List.Forall₂ (fun l g => ∃ first rest, g = first :: rest ∧
      Cut "de".toList 'v' l first rest) (lines commands) groups)
    (hsome : ∀ s ∈ groups.flatten, 'v' ∈ s → (commandOf s).isSome = true)
    (h : performed groups.flatten = commands.map Command.action) :
    List.Forall₂ (fun c g => ∃ first rest, g = first :: rest ∧
      c.line = first ++ rest.flatten ∧ c.core <+: first) commands groups := by
  induction commands generalizing groups with
  | nil =>
    cases hcut
    exact .nil
  | cons c commands ih =>
    rw [lines, List.map_cons] at hcut
    cases hcut with
    | @cons _ g _ groups hg hcut =>
      -- the pieces of the first line and those of the others
      obtain ⟨first, rest, rfl, hline, ⟨t, ht, -⟩, -⟩ := hg
      have hmark : 'v' ∈ first := by simp [ht]
      obtain ⟨r, hr⟩ := Option.isSome_iff_exists.mp (hsome first (by simp) hmark)
      have hperformed := h
      rw [List.flatten_cons, performed, List.filterMap_append, List.map_cons] at hperformed
      change performed (first :: rest) ++ performed groups.flatten = _ at hperformed
      -- the first packet of both sides is what the first piece is taken for
      rw [performed_group hline hmark, hr] at hperformed
      obtain ⟨rfl, hrest⟩ := List.cons.inj hperformed
      refine .cons ⟨first, rest, rfl, hline, ?_⟩
        (ih hcut (fun s hs => hsome s (by simp_all)) hrest)
      exact (commandOf_prefix_iff c (hline ▸ List.prefix_append _ _)).mp hr

/-- **The pieces of a stream are performed like its lines exactly when they are aligned
with them.** -/
theorem performed_eq_iff {commands : List Command} {received : List Text}
    (hcuts : Cuts commands received) :
    performed received = performed (lines commands) ↔ Aligned commands received := by
  rw [performed_lines]
  constructor
  · intro h
    -- there are as many commands as marks, so every mark begins a piece
    have hmarks : received.flatten.count 'v' ≤ (received.filterMap commandOf).length := by
      rw [hcuts.flatten, count_mark_lines]
      change _ ≤ (performed received).length
      rw [h, List.length_map]
    have hcount := count_of_length_filterMap (fun _ => mark_mem) hmarks
    have hpieces : ∀ s ∈ received, 'v' ∉ s ∨ Headed "de".toList 'v' s := by
      intro s hs
      have hs := hcount s hs
      split at hs
      · next hsome =>
        obtain ⟨t, rfl⟩ := dev_prefix_piece hsome
        refine Or.inr ⟨t, rfl, List.count_eq_zero.mp ?_⟩
        simpa using hs
      · exact Or.inl (List.count_eq_zero.mp hs)
    obtain ⟨groups, rfl, hgroups⟩ := exists_groups (by decide)
      (List.forall_mem_map.mpr fun c _ => headed_line c) hcuts.ne_nil hpieces hcuts.flatten
    refine ⟨groups, rfl, cores_of_performed hgroups (fun s hs hmark => ?_) h⟩
    -- a piece with the mark is one that the master takes
    by_contra hnone
    have hzero := hcount s hs
    rw [if_neg hnone] at hzero
    exact List.count_eq_zero.mp hzero hmark
  · rintro ⟨groups, rfl, hgroups⟩
    exact performed_groups hgroups

/-- Device 5. -/
def sampleDeviceDigits : Digits 2 := ⟨"05".toList, rfl, List.all_eq_true.mp (by decide)⟩

/-- The register `0x8001`. -/
def sampleAddressDigits : Digits 4 :=
  ⟨"8001".toList, rfl, List.all_eq_true.mp (by decide)⟩

/-- A value for a register, and a request for it. -/
def sampleCommands : List Command :=
  [.write sampleDeviceDigits sampleAddressDigits
      [⟨"01".toList, rfl, List.all_eq_true.mp (by decide)⟩] (by decide),
    .request sampleDeviceDigits sampleAddressDigits]

/-- The ending of the first line comes late. -/
def samplePieces : List Text :=
  ["dev:05  addr:8001  =01\r".toList, "\n".toList, "dev:05  addr:8001  ?\r\n".toList]

/-- Pieces that are aligned with the commands. -/
theorem performed_eq_iff_sample :
    Cuts sampleCommands samplePieces ∧
      performed samplePieces = performed (lines sampleCommands) := by
  have hcuts : Cuts sampleCommands samplePieces := ⟨by decide, by decide⟩
  refine ⟨hcuts, (performed_eq_iff hcuts).mpr ⟨[["dev:05  addr:8001  =01\r".toList, "\n".toList],
    ["dev:05  addr:8001  ?\r\n".toList]], rfl, ?_⟩⟩
  refine .cons ⟨_, _, rfl, by decide, ?_⟩ (.cons ⟨_, _, rfl, by decide, ?_⟩ .nil)
  · exact ⟨"\r".toList, by decide⟩
  · exact ⟨"\r\n".toList, by decide⟩

/-- Both lines in one piece, below the size of the buffer: the value is not sent, and its
register is asked for instead, once. -/
theorem performed_counterexample :
    (lines sampleCommands).flatten.length < maxMessageSize ∧
      Cuts sampleCommands [(lines sampleCommands).flatten] ∧
      performed [(lines sampleCommands).flatten]
        = [(⟨registerId 0x05 0x8001, Body.nil⟩, true)] ∧
      (performed (lines sampleCommands)).length = 2 ∧
      performed [(lines sampleCommands).flatten] ≠ performed (lines sampleCommands) := by
  have hcuts : Cuts sampleCommands [(lines sampleCommands).flatten] := ⟨by decide, by decide⟩
  exact ⟨by decide, hcuts, by decide, by decide, by decide⟩

end CanServer
end HomeAutomation
