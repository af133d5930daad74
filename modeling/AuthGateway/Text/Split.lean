namespace AuthGateway

namespace Text

/-!
Cutting a run at a separator: at its first place, at its last, at every one, or at the first
few.  All are stated for lists of any kind, so that one definition serves characters and bytes.
-/

section

variable {α : Type} [BEq α]

/-- The parts before and after the first separator, if there is one. -/
def splitOnce? (sep : α) : List α → Option (List α × List α)
  | [] => none
  | x :: rest =>
    if x == sep then some ([], rest)
    else (splitOnce? sep rest).map fun (before, after) => (x :: before, after)

/-- The parts before and after the last separator, if there is one. -/
def splitLast? (sep : α) (xs : List α) : Option (List α × List α) :=
  (splitOnce? sep xs.reverse).map fun (after, before) => (before.reverse, after.reverse)

/-- The parts between separators; a run without one is its own single part. -/
def splitAll (sep : α) : List α → List (List α)
  | [] => [[]]
  | x :: rest =>
    if x == sep then [] :: splitAll sep rest
    else
      match splitAll sep rest with
      | [] => [[x]]
      | part :: parts => (x :: part) :: parts

/-- At most `count + 1` parts: the last one keeps the separators that are left. -/
def splitAtMost (sep : α) : Nat → List α → List (List α)
  | 0, xs => [xs]
  | count + 1, xs =>
    match splitOnce? sep xs with
    | none => [xs]
    | some (before, after) => before :: splitAtMost sep count after

end

def cut? (sep : Char) (s : String) : Option (String × String) :=
  (splitOnce? sep s.toList).map fun (before, after) =>
    (String.ofList before, String.ofList after)

def cutLast? (sep : Char) (s : String) : Option (String × String) :=
  (splitLast? sep s.toList).map fun (before, after) =>
    (String.ofList before, String.ofList after)

def parts (sep : Char) (s : String) : List String :=
  (splitAll sep s.toList).map String.ofList

/-- The text without `tail` at its end, if it ends so. -/
def dropSuffix? (tail s : String) : Option String :=
  if tail.toList.isSuffixOf s.toList then
    some (String.ofList (s.toList.take (s.toList.length - tail.toList.length)))
  else none

end Text

end AuthGateway
