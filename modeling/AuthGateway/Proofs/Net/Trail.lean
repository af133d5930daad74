import AuthGateway.Net.Url
import AuthGateway.Text.Percent

namespace AuthGateway

namespace Net

namespace Url

/-!
# Where a path leads

What a path does does not depend on where it starts.  Its trail says how many segments it leaves
that it has not entered itself, and which it has entered at the end.  From any segments the path
leads where its trail does (`resolve_pieces`).
-/

open Text.Percent (encodeChars)

/-- What a path does where it starts: how many segments it leaves there, and which it has entered
at its end. -/
structure Trail where
  left : Nat
  entered : List (List Char)
deriving DecidableEq, Repr

namespace Trail

def enter (trail : Trail) (segment : List Char) : Trail :=
  if isDoubleDot segment then
    if trail.entered = [] then { trail with left := trail.left + 1 }
    else { trail with entered := leave trail.entered }
  else if isSingleDot segment then trail
  else { trail with entered := trail.entered ++ [segment] }

def finish (trail : Trail) (segment : List Char) : Trail :=
  let last := trail.enter segment
  if isDoubleDot segment || isSingleDot segment then { last with entered := last.entered ++ [[]] }
  else last

def follow : Trail → List (List Char) → Trail
  | trail, [] => trail
  | trail, [last] => trail.finish (encodeChars Text.Percent.path last)
  | trail, piece :: rest => (trail.enter (encodeChars Text.Percent.path piece)).follow rest

/-- The trail of what stands behind the first slash of a path. -/
def ofChars (cs : List Char) : Trail :=
  follow { left := 0, entered := [] } (pieces cs)

/-- The segments that are left of those at the start. -/
def kept (trail : Trail) (segments : List (List Char)) : List (List Char) :=
  Nat.repeat leave trail.left segments

/-- Where the path leads from these segments. -/
def reach (trail : Trail) (segments : List (List Char)) : List (List Char) :=
  trail.kept segments ++ trail.entered

end Trail

variable (segments : List (List Char)) (trail : Trail)

/-- What has been entered is left first. -/
private theorem leave_append {entered : List (List Char)} (nonempty : entered ≠ []) :
    leave (segments ++ entered) = segments ++ leave entered := by
  rcases List.eq_nil_or_concat entered with rfl | ⟨before, last, rfl⟩
  · exact absurd rfl nonempty
  · rw [List.concat_eq_append, ← List.append_assoc, leave, leave, List.getLast?_concat, List.getLast?_concat]
    dsimp only
    split
    · exact List.append_assoc segments before [last]
    · rw [List.dropLast_concat, List.dropLast_concat]

private theorem reach_enter (segment : List Char) :
    (trail.enter segment).reach segments = enter (trail.reach segments) segment := by
  unfold Trail.enter enter
  split
  · split
    · rename_i empty
      rw [Trail.reach, Trail.reach, empty, List.append_nil, List.append_nil]
      rfl
    · rename_i nonempty
      exact (leave_append (trail.kept segments) nonempty).symm
  · split
    · rfl
    · exact (List.append_assoc (trail.kept segments) trail.entered [segment]).symm

/-- Behind dots at the end an empty segment is entered. -/
private theorem finish_eq_enter (segment : List Char) :
    finish segments segment =
      enter segments segment ++ if isDoubleDot segment || isSingleDot segment then [[]] else [] := by
  unfold finish enter
  cases isDoubleDot segment with
  | true => rfl
  | false =>
    cases isSingleDot segment with
    | true => rfl
    | false => exact (List.append_nil _).symm

private theorem reach_finish (segment : List Char) :
    (trail.finish segment).reach segments = finish (trail.reach segments) segment := by
  rw [finish_eq_enter, ← reach_enter, Trail.finish]
  split
  · exact (List.append_assoc _ _ _).symm
  · exact (List.append_nil _).symm

/-- A path leads from any segments where its trail does. -/
theorem resolve_reach (cutPieces : List (List Char)) :
    resolve (trail.reach segments) cutPieces = (trail.follow cutPieces).reach segments := by
  induction cutPieces generalizing trail with
  | nil => rfl
  | cons piece rest inductionHypothesis =>
    cases rest with
    | nil => exact (reach_finish segments trail _).symm
    | cons next more =>
      have step := inductionHypothesis (trail.enter (encodeChars Text.Percent.path piece))
      rw [reach_enter] at step
      exact step

theorem resolve_pieces (cs : List Char) :
    resolve segments (pieces cs) = (Trail.ofChars cs).reach segments := by
  have start : segments = (Trail.mk 0 []).reach segments := (List.append_nil segments).symm
  exact (congrArg (resolve · (pieces cs)) start).trans (resolve_reach segments _ (pieces cs))

theorem isPrefix_leave : leave segments <+: segments := by
  unfold leave
  split
  · split
    · exact List.prefix_rfl
    · exact List.dropLast_prefix segments
  · exact List.nil_prefix

private theorem isPrefix_kept : trail.kept segments <+: segments := by
  have left : ∀ count, Nat.repeat leave count segments <+: segments := by
    intro count
    induction count with
    | zero => exact List.prefix_rfl
    | succ count inductionHypothesis => exact (isPrefix_leave _).trans inductionHypothesis
  exact left trail.left

/-- A path leads back behind the segments where it starts just when it enters again those that it has
left. -/
theorem prefix_reach_iff : segments <+: trail.reach segments ↔
    segments.drop (trail.kept segments).length <+: trail.entered := by
  have parts : trail.kept segments ++ segments.drop (trail.kept segments).length = segments :=
    List.prefix_iff_eq_append.mp (isPrefix_kept segments trail)
  calc segments <+: trail.reach segments
    _ ↔ trail.kept segments ++ segments.drop (trail.kept segments).length <+: trail.reach segments := by
      rw [parts]
    _ ↔ segments.drop (trail.kept segments).length <+: trail.entered := List.prefix_append_right_inj _

end Url

end Net

end AuthGateway
