import AuthGateway.Net.Url
import AuthGateway.Proofs.Text.Case
import AuthGateway.Proofs.Text.Percent
import AuthGateway.Proofs.Text.Split
import Mathlib.Data.List.DropRight
import Mathlib.Data.List.Induction

namespace AuthGateway

namespace Net

namespace Url

/-!
# The segments of a path

The segments of a path are entered and left one by one.  Those that are kept are settled: to enter
them again changes nothing, so that a path that continues a settled one starts from its segments
(`segmentsOf_pathChars`).  It goes on behind the other just when the segments of the other are its
first ones (`prefix_iff_pathChars`).

A segment of dots is told apart once it is escaped.  It stands for dots then, so that a path without
segments that stand for dots has none (`decode_of_isSingleDot`, `decode_of_isDoubleDot`).
-/

open Text.Percent (encodeChars)

/-- A segment that is kept as it is. -/
structure Settled (segment : List Char) : Prop where
  slashFree : ∀ c ∈ segment, isSlash c = false
  notSingle : isSingleDot segment = false
  notDouble : isDoubleDot segment = false
  written : encodeChars Text.Percent.path segment = segment

section

variable {segments : List (List Char)} {segment : List Char}

theorem Settled.enter_eq (settled : Settled segment) (segments : List (List Char)) :
    enter segments segment = segments ++ [segment] := by
  rw [enter, settled.notDouble, settled.notSingle]
  rfl

theorem Settled.finish_eq (settled : Settled segment) (segments : List (List Char)) :
    finish segments segment = segments ++ [segment] := by
  rw [finish, settled.notDouble, settled.notSingle]
  rfl

theorem Settled.slash_not_mem (settled : Settled segment) : '/' ∉ segment := fun slash =>
  Bool.false_ne_true ((settled.slashFree '/' slash).symm.trans rfl)

theorem settled_nil : Settled [] where
  slashFree := fun c member => absurd member List.not_mem_nil
  notSingle := rfl
  notDouble := by decide
  written := rfl

theorem mem_of_mem_leave (member : segment ∈ leave segments) : segment ∈ segments := by
  unfold leave at member
  split at member
  · split at member
    · exact member
    · exact List.dropLast_subset segments member
  · exact absurd member List.not_mem_nil

end

section

theorem pieces_ne_nil (cs : List Char) : pieces cs ≠ [] := by
  cases cs with
  | nil => exact List.cons_ne_nil _ _
  | cons c rest =>
    rw [pieces]
    split
    · exact List.cons_ne_nil _ _
    · split
      · exact List.cons_ne_nil _ _
      · exact List.cons_ne_nil _ _

theorem pieces_of_forall {cs : List Char} (free : ∀ c ∈ cs, isSlash c = false) : pieces cs = [cs] := by
  induction cs with
  | nil => rfl
  | cons c rest inductionHypothesis =>
    rw [pieces, free c List.mem_cons_self,
      inductionHypothesis fun d member => free d (List.mem_cons_of_mem c member)]
    rfl

/-- A piece ends at the first slash. -/
theorem pieces_append_cons {front : List Char} (free : ∀ c ∈ front, isSlash c = false) {slash : Char}
    (found : isSlash slash = true) (rest : List Char) :
    pieces (front ++ slash :: rest) = front :: pieces rest := by
  induction front with
  | nil => rw [List.nil_append, pieces, if_pos found]
  | cons c more inductionHypothesis =>
    rw [List.cons_append, pieces, free c List.mem_cons_self,
      inductionHypothesis fun d member => free d (List.mem_cons_of_mem c member)]
    rfl

theorem slashFree_of_mem_pieces {cs piece : List Char} (member : piece ∈ pieces cs) :
    ∀ c ∈ piece, isSlash c = false := by
  induction cs generalizing piece with
  | nil =>
    rw [List.mem_singleton.mp member]
    exact fun c inside => absurd inside List.not_mem_nil
  | cons c rest inductionHypothesis =>
    rw [pieces] at member
    split at member
    · rcases List.mem_cons.mp member with rfl | later
      · exact fun d inside => absurd inside List.not_mem_nil
      · exact inductionHypothesis later
    · rename_i plain
      rcases List.exists_cons_of_ne_nil (pieces_ne_nil rest) with ⟨first, more, cut⟩
      rw [cut] at member inductionHypothesis
      rcases List.mem_cons.mp member with rfl | later
      · intro d inside
        rcases List.mem_cons.mp inside with rfl | deeper
        · exact Bool.eq_false_iff.mpr plain
        · exact inductionHypothesis List.mem_cons_self d deeper
      · exact inductionHypothesis (List.mem_cons_of_mem first later)

/-- Without a backslash the pieces lie between slashes. -/
theorem pieces_eq_splitAll {cs : List Char} (plain : '\\' ∉ cs) : pieces cs = Text.splitAll '/' cs := by
  induction cs with
  | nil => rfl
  | cons c rest inductionHypothesis =>
    have other : c ≠ '\\' := fun same => plain (same ▸ List.mem_cons_self)
    have same : isSlash c = (c == '/') := by
      rw [isSlash, decide_eq_false other, Bool.or_false]
      rfl
    rw [pieces, Text.splitAll, same,
      inductionHypothesis fun member => plain (List.mem_cons_of_mem c member)]
    cases Text.splitAll '/' rest with
    | nil => rfl
    | cons part parts => rfl

end

section

private theorem slashFree_encodeChars {piece : List Char} (free : ∀ c ∈ piece, isSlash c = false) :
    ∀ c ∈ encodeChars Text.Percent.path piece, isSlash c = false := by
  have marks : Text.Percent.marks.all (!isSlash ·) = true := by decide
  intro c member
  rcases (Text.Percent.of_mem_encodeChars Text.Percent.spares_path member).2 with inside | mark
  · exact free c inside
  · have outside := List.all_eq_true.mp marks c mark
    rwa [Bool.not_eq_true'] at outside

private theorem settled_encodeChars {piece : List Char} (free : ∀ c ∈ piece, isSlash c = false)
    (notDouble : ¬ isDoubleDot (encodeChars Text.Percent.path piece) = true)
    (notSingle : ¬ isSingleDot (encodeChars Text.Percent.path piece) = true) :
    Settled (encodeChars Text.Percent.path piece) where
  slashFree := slashFree_encodeChars free
  notSingle := Bool.eq_false_iff.mpr notSingle
  notDouble := Bool.eq_false_iff.mpr notDouble
  written := Text.Percent.encodeChars_encodeChars Text.Percent.spares_path piece

variable {segments : List (List Char)} {piece : List Char}

private theorem settled_enter (settled : ∀ segment ∈ segments, Settled segment)
    (free : ∀ c ∈ piece, isSlash c = false) :
    ∀ segment ∈ enter segments (encodeChars Text.Percent.path piece), Settled segment := by
  unfold enter
  split
  · exact fun segment member => settled segment (mem_of_mem_leave member)
  · rename_i notDouble
    split
    · exact settled
    · rename_i notSingle
      intro segment member
      rcases List.mem_append.mp member with before | last
      · exact settled segment before
      · rw [List.mem_singleton.mp last]
        exact settled_encodeChars free notDouble notSingle

private theorem settled_finish (settled : ∀ segment ∈ segments, Settled segment)
    (free : ∀ c ∈ piece, isSlash c = false) :
    ∀ segment ∈ finish segments (encodeChars Text.Percent.path piece), Settled segment := by
  have closed : ∀ {before : List (List Char)} {last : List Char},
      (∀ segment ∈ before, Settled segment) → Settled last →
        ∀ segment ∈ before ++ [last], Settled segment := by
    intro before last all ends segment member
    rcases List.mem_append.mp member with early | late
    · exact all segment early
    · rw [List.mem_singleton.mp late]
      exact ends
  unfold finish
  split
  · exact closed (fun segment member => settled segment (mem_of_mem_leave member)) settled_nil
  · rename_i notDouble
    split
    · exact closed settled settled_nil
    · rename_i notSingle
      exact closed settled (settled_encodeChars free notDouble notSingle)

/-- Whatever the pieces, the segments that they leave are settled. -/
theorem settled_resolve {cutPieces : List (List Char)} (settled : ∀ segment ∈ segments, Settled segment)
    (free : ∀ piece ∈ cutPieces, ∀ c ∈ piece, isSlash c = false) :
    ∀ segment ∈ resolve segments cutPieces, Settled segment := by
  induction cutPieces generalizing segments with
  | nil => exact settled
  | cons piece rest inductionHypothesis =>
    have here := free piece List.mem_cons_self
    cases rest with
    | nil => exact settled_finish settled here
    | cons next more =>
      exact inductionHypothesis (settled_enter settled here) fun other member =>
        free other (List.mem_cons_of_mem piece member)

theorem settled_segmentsOf (cs : List Char) : ∀ segment ∈ segmentsOf cs, Settled segment.toList := by
  intro segment member
  rcases List.mem_map.mp member with ⟨chars, listed, rfl⟩
  rw [String.toList_ofList]
  exact settled_resolve (fun other none => absurd none List.not_mem_nil)
    (fun _ found => slashFree_of_mem_pieces found) chars listed

end

section

variable {segments : List (List Char)}

/-- The text of a path of these segments. -/
def pathChars (segments : List (List Char)) : List Char :=
  segments.flatMap ('/' :: ·)

theorem toList_path (u : Url) : u.path.toList = pathChars (u.segments.map String.toList) := by
  rw [path, String.toList_join, pathChars, List.flatMap_map, List.flatMap_map]
  simp only [String.toList_append]
  rfl

/-- A path of settled segments is written as it is. -/
theorem encodeChars_pathChars (settled : ∀ segment ∈ segments, Settled segment) :
    encodeChars Text.Percent.path (pathChars segments) = pathChars segments := by
  induction segments with
  | nil => rfl
  | cons segment more inductionHypothesis =>
    rw [pathChars, List.flatMap_cons, Text.Percent.encodeChars_append, Text.Percent.encodeChars_cons,
      (settled segment List.mem_cons_self).written]
    exact congrArg ('/' :: segment ++ ·)
      (inductionHypothesis fun other member => settled other (List.mem_cons_of_mem segment member))

private theorem pathChars_append_cons (segments : List (List Char)) (rest : List Char) :
    pathChars segments ++ '/' :: rest = '/' :: (pathChars segments ++ '/' :: rest).tail := by
  cases segments with
  | nil => rfl
  | cons segment more => rfl

private theorem resolve_cons (segments : List (List Char)) (piece : List Char)
    {rest : List (List Char)} (nonempty : rest ≠ []) :
    resolve segments (piece :: rest) =
      resolve (enter segments (encodeChars Text.Percent.path piece)) rest := by
  rcases List.exists_cons_of_ne_nil nonempty with ⟨next, more, rfl⟩
  rfl

private theorem resolve_pathChars (settled : ∀ segment ∈ segments, Settled segment)
    (start : List (List Char)) (rest : List Char) :
    resolve start (pieces (pathChars segments ++ '/' :: rest).tail) =
      resolve (start ++ segments) (pieces rest) := by
  induction segments generalizing start with
  | nil =>
    rw [List.append_nil]
    rfl
  | cons segment more inductionHypothesis =>
    have here := settled segment List.mem_cons_self
    have cut : (pathChars (segment :: more) ++ '/' :: rest).tail =
        segment ++ '/' :: (pathChars more ++ '/' :: rest).tail := by
      rw [← pathChars_append_cons more rest, ← List.append_assoc]
      rfl
    rw [cut, pieces_append_cons here.slashFree rfl, resolve_cons start segment (pieces_ne_nil _),
      here.written, here.enter_eq,
      inductionHypothesis (fun other member => settled other (List.mem_cons_of_mem segment member)),
      List.append_assoc]
    rfl

/-- A path that continues settled segments starts from them. -/
theorem segmentsOf_pathChars (settled : ∀ segment ∈ segments, Settled segment) (rest : List Char) :
    segmentsOf (pathChars segments ++ '/' :: rest) =
      (resolve segments (pieces rest)).map String.ofList := by
  rw [pathChars_append_cons]
  exact congrArg (List.map String.ofList) (resolve_pathChars settled [] rest)

end

section

variable {segments : List (List Char)}

/-- Pieces that are no dots are all entered. -/
theorem resolve_of_forall {cutPieces : List (List Char)}
    (plain : ∀ piece ∈ cutPieces, isSingleDot (encodeChars Text.Percent.path piece) = false ∧
      isDoubleDot (encodeChars Text.Percent.path piece) = false) :
    resolve segments cutPieces =
      segments ++ cutPieces.map (encodeChars Text.Percent.path) := by
  induction cutPieces generalizing segments with
  | nil => exact (List.append_nil segments).symm
  | cons piece rest inductionHypothesis =>
    rcases plain piece List.mem_cons_self with ⟨notSingle, notDouble⟩
    cases rest with
    | nil =>
      rw [resolve, finish, notDouble, notSingle]
      rfl
    | cons next more =>
      rw [resolve_cons segments piece (List.cons_ne_nil next more), enter, notDouble, notSingle,
        if_neg Bool.false_ne_true, if_neg Bool.false_ne_true,
        inductionHypothesis fun other member => plain other (List.mem_cons_of_mem piece member),
        List.append_assoc]
      rfl

/-- Slashes are written as they are. -/
theorem pathChars_splitAll (cs : List Char) :
    pathChars ((Text.splitAll '/' cs).map (encodeChars Text.Percent.path)) =
      '/' :: encodeChars Text.Percent.path cs := by
  induction cs with
  | nil => rfl
  | cons c rest inductionHypothesis =>
    rw [Text.splitAll]
    split
    · rename_i slash
      rw [beq_iff_eq] at slash
      subst slash
      rw [List.map_cons, pathChars, List.flatMap_cons]
      change '/' :: pathChars _ = _
      rw [inductionHypothesis]
      rfl
    · rcases List.exists_cons_of_ne_nil (Text.splitAll_ne_nil '/' rest) with ⟨part, parts, cut⟩
      rw [cut, List.map_cons, pathChars, List.flatMap_cons, List.cons_append, List.cons.injEq]
        at inductionHypothesis
      rw [cut]
      dsimp only
      rw [List.map_cons, pathChars, List.flatMap_cons, Text.Percent.encodeChars_cons, List.cons_append,
        List.append_assoc, inductionHypothesis.2, Text.Percent.encodeChars_cons]

private theorem resolve_ne_nil {cutPieces : List (List Char)} (nonempty : cutPieces ≠ []) :
    resolve segments cutPieces ≠ [] := by
  induction cutPieces generalizing segments with
  | nil => exact absurd rfl nonempty
  | cons piece rest inductionHypothesis =>
    cases rest with
    | nil =>
      rw [resolve, finish]
      split
      · simp
      · split
        · simp
        · simp
    | cons next more => exact inductionHypothesis (List.cons_ne_nil next more)

theorem segmentsOf_ne_nil (cs : List Char) : segmentsOf cs ≠ [] := fun empty =>
  resolve_ne_nil (pieces_ne_nil _) (List.map_eq_nil_iff.mp empty)

end

section

variable {segments : List (List Char)}

/-- The segments without the empty ones at the end. -/
def stem (segments : List (List Char)) : List (List Char) :=
  segments.rdropWhile (· = [])

theorem mem_of_mem_stem {segment : List Char} (member : segment ∈ stem segments) :
    segment ∈ segments := by
  have front : stem segments <+: segments := List.rdropWhile_prefix _ segments
  exact front.subset member

private theorem pathChars_append (before after : List (List Char)) :
    pathChars (before ++ after) = pathChars before ++ pathChars after :=
  List.flatMap_append

private theorem pathChars_singleton (segment : List Char) : pathChars [segment] = '/' :: segment :=
  List.flatMap_singleton _ segment

/-- The slashes at the end of a path are those of its empty segments there. -/
theorem pathChars_stem (free : ∀ segment ∈ segments, '/' ∉ segment) :
    (pathChars segments).rdropWhile (· = '/') = pathChars (stem segments) := by
  induction segments using List.reverseRecOn with
  | nil => rfl
  | append_singleton before last inductionHypothesis =>
    have earlier := inductionHypothesis fun segment member =>
      free segment (List.mem_append_left [last] member)
    rw [pathChars_append, pathChars_singleton, stem]
    rcases List.eq_nil_or_concat last with rfl | ⟨chars, c, rfl⟩
    · rw [List.rdropWhile_concat_pos _ _ _ (by rfl), List.rdropWhile_concat_pos _ _ _ (by rfl)]
      exact earlier
    · have solid : c ≠ '/' := by
        rintro rfl
        exact free _ (List.mem_append_right before List.mem_cons_self) (by simp)
      have whole : pathChars before ++ '/' :: chars.concat c =
          (pathChars before ++ '/' :: chars) ++ [c] := by
        rw [List.concat_eq_append, List.append_assoc]
        rfl
      rw [whole, List.rdropWhile_concat_neg _ _ _ (by simpa using solid),
        List.rdropWhile_concat_neg _ _ _ (by simp), pathChars_append, pathChars_singleton, whole]

/-- Nothing follows, or something behind a slash. -/
def Opens (rest : List Char) : Prop :=
  rest = [] ∨ rest.head? = some '/'

private theorem opens_pathChars (segments : List (List Char)) : Opens (pathChars segments) := by
  cases segments with
  | nil => exact Or.inl rfl
  | cons segment more => exact Or.inr rfl

private theorem takeWhile_append {segment rest : List Char} (free : '/' ∉ segment) (opens : Opens rest) :
    (segment ++ rest).takeWhile (· ≠ '/') = segment := by
  have inside : ∀ c ∈ segment, decide (c ≠ '/') = true := by
    intro c member
    exact decide_eq_true fun same => free (same ▸ member)
  rw [List.takeWhile_append_of_pos inside]
  rcases opens with rfl | slash
  · exact List.append_nil segment
  · rcases List.head?_eq_some_iff.mp slash with ⟨behind, rfl⟩
    exact List.append_nil segment

/-- A path goes on behind another just when the segments of the other are its first ones. -/
theorem prefix_iff_pathChars {front : List (List Char)} (free : ∀ segment ∈ segments, '/' ∉ segment)
    (clear : ∀ segment ∈ front, '/' ∉ segment) :
    (∃ rest, pathChars segments = pathChars front ++ rest ∧ Opens rest) ↔ front <+: segments := by
  constructor
  · rintro ⟨rest, whole, opens⟩
    induction front generalizing segments with
    | nil => exact List.nil_prefix
    | cons first more inductionHypothesis =>
      cases segments with
      | nil => exact absurd whole (by simp [pathChars])
      | cons segment others =>
        have behind : segment ++ pathChars others = first ++ (pathChars more ++ rest) :=
          List.append_assoc first (pathChars more) rest ▸ (List.cons.inj whole).2
        have ahead : Opens (pathChars more ++ rest) := by
          rcases opens_pathChars more with empty | slash
          · rw [empty]
            exact opens
          · rcases List.head?_eq_some_iff.mp slash with ⟨chars, found⟩
            rw [found]
            exact Or.inr rfl
        have same : segment = first := by
          rw [← takeWhile_append (free segment List.mem_cons_self) (opens_pathChars others), behind,
            takeWhile_append (clear first List.mem_cons_self) ahead]
        subst same
        refine List.prefix_cons_iff.mpr (Or.inr ⟨more, rfl, ?_⟩)
        exact inductionHypothesis (fun other member => free other (List.mem_cons_of_mem segment member))
          (fun other member => clear other (List.mem_cons_of_mem segment member))
          (List.append_cancel_left behind)
  · rintro ⟨more, rfl⟩
    exact ⟨pathChars more, pathChars_append front more, opens_pathChars more⟩

end

section

/-- The three marks have one case. -/
private theorem eq_of_toLower {c d : Char} (mark : d ∈ ['.', '%', '2']) (lower : c.toLower = d) : c = d := by
  have oneCase : ∀ d ∈ ['.', '%', '2'], d.isUpper = false ∧ d.toUpper = d := by simp
  rcases oneCase d mark with ⟨small, same⟩
  have spelled := (Text.toLower_eq_iff small).mp lower
  rwa [same, or_self_iff] at spelled

/-- The ways to write a dot. -/
private def dotSpellings : List (List Char) :=
  [['.'], ['%', '2', 'e'], ['%', '2', 'E']]

private theorem spelling_of_dot {s rest : List Char} (dot : s.map Char.toLower = '.' :: rest) :
    ∃ spelling ∈ dotSpellings, ∃ more, s = spelling ++ more ∧ more.map Char.toLower = rest := by
  rcases List.map_eq_cons_iff.mp dot with ⟨c, more, rfl, lower, others⟩
  refine ⟨['.'], by decide, more, ?_, others⟩
  rw [eq_of_toLower (by decide) lower]
  rfl

private theorem spelling_of_escape {s rest : List Char}
    (dot : s.map Char.toLower = '%' :: '2' :: 'e' :: rest) :
    ∃ spelling ∈ dotSpellings, ∃ more, s = spelling ++ more ∧ more.map Char.toLower = rest := by
  rcases List.map_eq_cons_iff.mp dot with ⟨first, _, rfl, percent, behindPercent⟩
  rcases List.map_eq_cons_iff.mp behindPercent with ⟨second, _, rfl, digit, behindDigit⟩
  rcases List.map_eq_cons_iff.mp behindDigit with ⟨letter, more, rfl, lower, others⟩
  rw [eq_of_toLower (by decide) percent, eq_of_toLower (by decide) digit]
  rcases (Text.toLower_eq_iff (by decide)).mp lower with rfl | rfl
  · exact ⟨['%', '2', 'e'], by decide, more, rfl, others⟩
  · exact ⟨['%', '2', 'E'], by decide, more, rfl, others⟩

/-- What a dot segment stands for. -/
theorem decode_of_isSingleDot {segment : List Char} (dot : isSingleDot segment = true) :
    Text.Percent.decode (Text.encode (String.ofList segment)) = Text.encode "." := by
  have stands : ∀ spelling ∈ dotSpellings,
      Text.Percent.decode (Text.encode (String.ofList (spelling ++ []))) = Text.encode "." := by decide
  simp only [isSingleDot, Bool.or_eq_true, decide_eq_true_eq] at dot
  rcases dot with plain | escaped
  · rcases spelling_of_dot plain with ⟨spelling, listed, more, rfl, rest⟩
    rw [List.map_eq_nil_iff.mp rest]
    exact stands spelling listed
  · rcases spelling_of_escape escaped with ⟨spelling, listed, more, rfl, rest⟩
    rw [List.map_eq_nil_iff.mp rest]
    exact stands spelling listed

theorem decode_of_isDoubleDot {segment : List Char} (dots : isDoubleDot segment = true) :
    Text.Percent.decode (Text.encode (String.ofList segment)) = Text.encode ".." := by
  have stands : ∀ first ∈ dotSpellings, ∀ second ∈ dotSpellings,
      Text.Percent.decode (Text.encode (String.ofList (first ++ (second ++ [])))) =
        Text.encode ".." := by decide
  have words : ["..", ".%2e", "%2e.", "%2e%2e"].map String.toList =
      [['.', '.'], ['.', '%', '2', 'e'], ['%', '2', 'e', '.'], ['%', '2', 'e', '%', '2', 'e']] := by
    decide
  have spelled := List.mem_map_of_mem (f := String.toList) (List.contains_iff_mem.mp dots)
  rw [String.toList_ofList, words] at spelled
  simp only [List.mem_cons, List.not_mem_nil, or_false] at spelled
  have ends : ∃ first ∈ dotSpellings, ∃ second ∈ dotSpellings, ∃ more,
      segment = first ++ (second ++ more) ∧ more.map Char.toLower = [] := by
    rcases spelled with plain | mixed | mixed | escaped
    · rcases spelling_of_dot plain with ⟨first, one, _, rfl, later⟩
      rcases spelling_of_dot later with ⟨second, two, more, rfl, rest⟩
      exact ⟨first, one, second, two, more, rfl, rest⟩
    · rcases spelling_of_dot mixed with ⟨first, one, _, rfl, later⟩
      rcases spelling_of_escape later with ⟨second, two, more, rfl, rest⟩
      exact ⟨first, one, second, two, more, rfl, rest⟩
    · rcases spelling_of_escape mixed with ⟨first, one, _, rfl, later⟩
      rcases spelling_of_dot later with ⟨second, two, more, rfl, rest⟩
      exact ⟨first, one, second, two, more, rfl, rest⟩
    · rcases spelling_of_escape escaped with ⟨first, one, _, rfl, later⟩
      rcases spelling_of_escape later with ⟨second, two, more, rfl, rest⟩
      exact ⟨first, one, second, two, more, rfl, rest⟩
  rcases ends with ⟨first, one, second, two, more, rfl, rest⟩
  rw [List.map_eq_nil_iff.mp rest]
  exact stands first one second two

end

end Url

end Net

end AuthGateway
