import AuthGateway.Text.Split

namespace AuthGateway

namespace Text

/-!
# What a cut leaves

A cut at a separator is described by the run that it cuts: the part before the first separator
holds none, and the part behind the last holds none.  Both directions are stated, so that a reader
that cuts can be compared with a writer that joins.
-/

section

variable {α : Type} [BEq α] [LawfulBEq α] {sep : α}

/-- The first separator is the one with none before it. -/
theorem splitOnce?_eq_some_iff {xs before after : List α} :
    splitOnce? sep xs = some (before, after) ↔ sep ∉ before ∧ xs = before ++ sep :: after := by
  induction xs generalizing before with
  | nil => simp [splitOnce?]
  | cons x rest inductionHypothesis =>
    by_cases same : x = sep
    · subst same
      cases before with
      | nil => simp [splitOnce?, eq_comm]
      | cons y more =>
        simp only [splitOnce?, beq_self_eq_true, if_true, Option.some.injEq, Prod.mk.injEq,
          reduceCtorEq, false_and, false_iff, List.cons_append, List.cons.injEq, not_and]
        exact fun clean equal => absurd (equal ▸ List.mem_cons_self) clean
    · cases before with
      | nil => simp [splitOnce?, same]
      | cons y more =>
        have different : sep ≠ x := fun equal => same equal.symm
        simp only [splitOnce?, beq_iff_eq, same, if_false, Option.map_eq_some_iff, List.mem_cons,
          not_or, List.cons_append, List.cons.injEq]
        constructor
        · rintro ⟨⟨early, late⟩, found, equal⟩
          rcases Prod.mk.inj equal with ⟨front, rfl⟩
          rcases List.cons.inj front with ⟨rfl, rfl⟩
          rcases inductionHypothesis.mp found with ⟨clean, whole⟩
          exact ⟨⟨different, clean⟩, rfl, whole⟩
        · rintro ⟨⟨-, clean⟩, rfl, whole⟩
          exact ⟨(more, after), inductionHypothesis.mpr ⟨clean, whole⟩, rfl⟩

theorem splitOnce?_append {before after : List α} (clean : sep ∉ before) :
    splitOnce? sep (before ++ sep :: after) = some (before, after) :=
  splitOnce?_eq_some_iff.mpr ⟨clean, rfl⟩

theorem splitOnce?_of_not_mem {xs : List α} (clean : sep ∉ xs) : splitOnce? sep xs = none := by
  cases cut : splitOnce? sep xs with
  | none => rfl
  | some parts =>
    rcases parts with ⟨before, after⟩
    rw [(splitOnce?_eq_some_iff.mp cut).2] at clean
    exact absurd (List.mem_append_right before List.mem_cons_self) clean

/-- The last separator is the one with none behind it. -/
theorem splitLast?_eq_some_iff {xs before after : List α} :
    splitLast? sep xs = some (before, after) ↔ sep ∉ after ∧ xs = before ++ sep :: after := by
  simp only [splitLast?, Option.map_eq_some_iff, Prod.exists, Prod.mk.injEq,
    splitOnce?_eq_some_iff]
  constructor
  · rintro ⟨late, early, ⟨clean, whole⟩, rfl, rfl⟩
    refine ⟨fun member => clean (List.mem_reverse.mp member), ?_⟩
    rw [← List.reverse_reverse xs, whole, List.reverse_append, List.reverse_cons,
      List.append_assoc, List.singleton_append]
  · rintro ⟨clean, rfl⟩
    refine ⟨after.reverse, before.reverse, ⟨fun member => clean (List.mem_reverse.mp member), ?_⟩,
      List.reverse_reverse _, List.reverse_reverse _⟩
    rw [List.reverse_append, List.reverse_cons, List.append_assoc, List.singleton_append]

/-- A run falls apart at its first separator in one way. -/
theorem eq_of_append_first {before after before' after' : List α} (clean : sep ∉ before)
    (clean' : sep ∉ before') (whole : before ++ sep :: after = before' ++ sep :: after') :
    before = before' ∧ after = after' := by
  have cut : splitOnce? sep (before ++ sep :: after) = some (before, after) := splitOnce?_append clean
  rw [whole, splitOnce?_append clean'] at cut
  rcases Prod.mk.inj (Option.some.inj cut) with ⟨fronts, backs⟩
  exact ⟨fronts.symm, backs.symm⟩

/-- It falls apart at its last separator in one way, too. -/
theorem eq_of_append_last {before after before' after' : List α} (clean : sep ∉ after)
    (clean' : sep ∉ after') (whole : before ++ sep :: after = before' ++ sep :: after') :
    before = before' ∧ after = after' := by
  have cut : splitLast? sep (before ++ sep :: after) = some (before', after') :=
    splitLast?_eq_some_iff.mpr ⟨clean', whole⟩
  rw [splitLast?_eq_some_iff.mpr ⟨clean, rfl⟩] at cut
  exact Prod.mk.inj (Option.some.inj cut)

theorem splitLast?_eq_none_iff {xs : List α} : splitLast? sep xs = none ↔ sep ∉ xs := by
  rw [splitLast?, Option.map_eq_none_iff]
  constructor
  · intro uncut member
    rcases List.eq_append_cons_of_mem (List.mem_reverse.mpr member) with ⟨after, before, whole, clean⟩
    rw [whole, splitOnce?_append clean] at uncut
    exact absurd uncut (by simp)
  · intro clean
    exact splitOnce?_of_not_mem fun member => clean (List.mem_reverse.mp member)

/-- A cut into at most three parts finds the first two separators. -/
theorem splitAtMost_two_eq_iff {xs first second third : List α} :
    splitAtMost sep 2 xs = [first, second, third] ↔
      sep ∉ first ∧ sep ∉ second ∧ xs = first ++ sep :: (second ++ sep :: third) := by
  simp only [splitAtMost]
  constructor
  · intro cut
    split at cut
    · exact absurd cut (by simp)
    · rename_i before after early
      split at cut
      · exact absurd cut (by simp)
      · rename_i middle rest late
        simp only [List.cons.injEq, and_true] at cut
        rcases cut with ⟨rfl, rfl, rfl⟩
        rcases splitOnce?_eq_some_iff.mp early with ⟨clean, rfl⟩
        rcases splitOnce?_eq_some_iff.mp late with ⟨clear, rfl⟩
        exact ⟨clean, clear, rfl⟩
  · rintro ⟨clean, clear, rfl⟩
    simp only [splitOnce?_append clean, splitOnce?_append clear]

/-- Without a separator there is one part. -/
theorem splitAll_of_not_mem {xs : List α} (clean : sep ∉ xs) : splitAll sep xs = [xs] := by
  induction xs with
  | nil => rfl
  | cons x rest inductionHypothesis =>
    have different : (x == sep) = false := by
      rw [beq_eq_false_iff_ne]
      exact fun same => clean (same ▸ List.mem_cons_self)
    rw [splitAll, if_neg (Bool.eq_false_iff.mp different),
      inductionHypothesis fun member => clean (List.mem_cons_of_mem x member)]

omit [LawfulBEq α] in
theorem splitAll_ne_nil (sep : α) (xs : List α) : splitAll sep xs ≠ [] := by
  cases xs with
  | nil => exact List.cons_ne_nil _ _
  | cons x rest =>
    rw [splitAll]
    split
    · exact List.cons_ne_nil _ _
    · split
      · exact List.cons_ne_nil _ _
      · exact List.cons_ne_nil _ _

/-- At a separator the parts before it end and those behind it begin. -/
theorem splitAll_append_cons (xs ys : List α) :
    splitAll sep (xs ++ sep :: ys) = splitAll sep xs ++ splitAll sep ys := by
  induction xs with
  | nil =>
    rw [List.nil_append, splitAll.eq_2, if_pos (beq_self_eq_true sep)]
    rfl
  | cons x rest inductionHypothesis =>
    rw [List.cons_append, splitAll, splitAll, inductionHypothesis]
    split
    · rfl
    · rcases List.exists_cons_of_ne_nil (splitAll_ne_nil sep rest) with ⟨part, parts, found⟩
      rw [found]
      rfl

/-- The parts hold no separator, and nothing that the run does not hold. -/
theorem of_mem_splitAll {xs part : List α} (found : part ∈ splitAll sep xs) :
    sep ∉ part ∧ ∀ x ∈ part, x ∈ xs := by
  induction xs generalizing part with
  | nil =>
    rw [List.mem_singleton.mp found]
    exact ⟨List.not_mem_nil, fun _ member => member⟩
  | cons x rest inductionHypothesis =>
    rw [splitAll] at found
    split at found
    · rcases List.mem_cons.mp found with rfl | later
      · exact ⟨List.not_mem_nil, fun y member => absurd member List.not_mem_nil⟩
      · rcases inductionHypothesis later with ⟨clean, inside⟩
        exact ⟨clean, fun y member => List.mem_cons_of_mem x (inside y member)⟩
    · rename_i different
      rcases List.exists_cons_of_ne_nil (splitAll_ne_nil sep rest) with ⟨first, parts, split⟩
      rw [split] at found inductionHypothesis
      rcases List.mem_cons.mp found with rfl | later
      · rcases inductionHypothesis List.mem_cons_self with ⟨clean, inside⟩
        constructor
        · intro member
          rcases List.mem_cons.mp member with rfl | deeper
          · exact different (beq_self_eq_true sep)
          · exact clean deeper
        · exact fun y member => List.mem_cons.mpr ((List.mem_cons.mp member).imp_right (inside y))
      · rcases inductionHypothesis (List.mem_cons_of_mem first later) with ⟨clean, inside⟩
        exact ⟨clean, fun y member => List.mem_cons_of_mem x (inside y member)⟩

/-- The parts are the same in another writing, if only the separator is written as the separator. -/
theorem splitAll_map {β : Type} [BEq β] [LawfulBEq β] (write : α → β)
    (apart : ∀ x, write x = write sep → x = sep) (xs : List α) :
    splitAll (write sep) (xs.map write) = (splitAll sep xs).map (List.map write) := by
  induction xs with
  | nil => rfl
  | cons x rest inductionHypothesis =>
    rw [List.map_cons, splitAll, splitAll, inductionHypothesis]
    by_cases same : x = sep
    · rw [same, if_pos (beq_self_eq_true _), if_pos (beq_self_eq_true _)]
      rfl
    · have different : ¬ (write x == write sep) = true := fun equal =>
        same (apart x (beq_iff_eq.mp equal))
      rw [if_neg different, if_neg fun equal => same (beq_iff_eq.mp equal)]
      rcases List.exists_cons_of_ne_nil (splitAll_ne_nil sep rest) with ⟨part, parts, found⟩
      rw [found]
      rfl

end

theorem parts_of_not_mem {sep : Char} {s : String} (clean : sep ∉ s.toList) : parts sep s = [s] := by
  rw [parts, splitAll_of_not_mem clean, List.map_singleton, String.ofList_toList]

theorem cut?_eq_some_iff {sep : Char} {s before after : String} :
    cut? sep s = some (before, after) ↔
      sep ∉ before.toList ∧ s.toList = before.toList ++ sep :: after.toList := by
  simp only [cut?, Option.map_eq_some_iff, Prod.exists, Prod.mk.injEq, splitOnce?_eq_some_iff]
  constructor
  · rintro ⟨early, late, found, rfl, rfl⟩
    rw [String.toList_ofList, String.toList_ofList]
    exact found
  · intro found
    exact ⟨before.toList, after.toList, found, String.ofList_toList, String.ofList_toList⟩

/-- The two sides of the last separator, put together again, are the text. -/
theorem eq_append_of_cutLast? {sep : Char} {s before after : String}
    (cut : cutLast? sep s = some (before, after)) :
    s.toList = before.toList ++ sep :: after.toList := by
  simp only [cutLast?, Option.map_eq_some_iff, Prod.exists, Prod.mk.injEq] at cut
  rcases cut with ⟨early, late, split, rfl, rfl⟩
  rw [String.toList_ofList, String.toList_ofList]
  exact (splitLast?_eq_some_iff.mp split).2

/-- What is joined is the parts and the marks between them. -/
theorem of_mem_intercalate {mark : String} {texts : List String} {c : Char}
    (member : c ∈ (String.intercalate mark texts).toList) :
    c ∈ mark.toList ∨ ∃ text ∈ texts, c ∈ text.toList := by
  induction texts with
  | nil => exact absurd member List.not_mem_nil
  | cons text rest inductionHypothesis =>
    cases rest with
    | nil =>
      rw [String.intercalate_singleton] at member
      exact Or.inr ⟨text, List.mem_cons_self, member⟩
    | cons next more =>
      rw [String.intercalate_cons_cons, String.toList_append, String.toList_append, List.append_assoc,
        List.mem_append, List.mem_append] at member
      rcases member with first | between | others
      · exact Or.inr ⟨text, List.mem_cons_self, first⟩
      · exact Or.inl between
      · rcases inductionHypothesis others with between | ⟨other, listed, inside⟩
        · exact Or.inl between
        · exact Or.inr ⟨other, List.mem_cons_of_mem text listed, inside⟩

/-- A text without its ending is what stands before it. -/
theorem dropSuffix?_eq_some_iff {tail s front : String} :
    dropSuffix? tail s = some front ↔ s = front ++ tail := by
  rw [dropSuffix?, ← String.toList_inj, String.toList_append]
  constructor
  · intro dropped
    split at dropped
    · rename_i ends
      rw [← Option.some.inj dropped, String.toList_ofList]
      exact (List.suffix_iff_eq_append.mp (List.isSuffixOf_iff_suffix.mp ends)).symm
    · exact absurd dropped (by simp)
  · intro whole
    rw [if_pos (List.isSuffixOf_iff_suffix.mpr ⟨_, whole.symm⟩), whole, List.length_append,
      Nat.add_sub_cancel, List.take_left, String.ofList_toList]

theorem dropSuffix?_eq_none_iff {tail s : String} :
    dropSuffix? tail s = none ↔ ∀ front, s ≠ front ++ tail := by
  rw [Option.eq_none_iff_forall_ne_some]
  exact forall_congr' fun front => not_congr dropSuffix?_eq_some_iff

end Text

end AuthGateway
