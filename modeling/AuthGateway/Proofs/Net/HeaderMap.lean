import AuthGateway.Net.Header

namespace AuthGateway

namespace Net

namespace HeaderMap

/-!
# Header maps, name by name

A header map is seen through the values of each name.  Removing a name leaves it without values,
setting it leaves it with one, and neither is noticed under any other name.
-/

variable (m : HeaderMap) (name : HeaderName) (value : HeaderValue) {other : HeaderName}

theorem getAll_append :
    (m.append name value).getAll other = m.getAll other ++ if name = other then [value] else [] := by
  by_cases same : name = other
  · simp [append, getAll, same]
  · simp [append, getAll, same]

theorem getAll_remove :
    (m.remove name).getAll other = if name = other then [] else m.getAll other := by
  have kept : ∀ field : HeaderName × HeaderValue,
      (decide (field.1 = other) && decide (field.1 ≠ name)) =
        (decide (field.1 = other) && decide (name ≠ other)) := by
    intro field
    by_cases named : field.1 = other
    · simp [named, eq_comm]
    · simp [named]
  rw [remove, getAll, List.filter_filter, List.filter_congr fun field _ => kept field]
  by_cases same : name = other
  · simp [same]
  · simp [same, getAll]

theorem getAll_insert :
    (m.insert name value).getAll other = if name = other then [value] else m.getAll other := by
  rw [insert, getAll_append, getAll_remove]
  split
  · rfl
  · exact List.append_nil _

theorem getAll_insert_self : (m.insert name value).getAll name = [value] := by
  rw [getAll_insert, if_pos rfl]

theorem getAll_insert_of_ne {name : HeaderName} (different : other ≠ name) (value : HeaderValue) :
    (m.insert name value).getAll other = m.getAll other := by
  rw [getAll_insert, if_neg different.symm]

/-- A name that is set once is set for good. -/
theorem insert_insert : (m.insert name value).insert name value = m.insert name value := by
  have gone : ((m.remove name).append name value).remove name = m.remove name := by
    simp [append, remove]
  rw [insert, insert, gone]

/-- A name without values need not be removed. -/
theorem remove_of_absent {m : HeaderMap} {name : HeaderName} (absent : m.getAll name = []) :
    m.remove name = m := by
  have others : ∀ field ∈ m.fields, decide (field.1 ≠ name) = true := by
    intro field member
    refine decide_eq_true fun named => ?_
    have value : field.2 ∈ m.getAll name :=
      List.mem_map_of_mem (List.mem_filter.mpr ⟨member, decide_eq_true named⟩)
    rw [absent] at value
    exact List.not_mem_nil value
  rw [remove, List.filter_eq_self.mpr others]

theorem foldl_remove_of_absent {m : HeaderMap} {names : List HeaderName}
    (absent : ∀ name ∈ names, m.getAll name = []) : names.foldl remove m = m := by
  induction names with
  | nil => rfl
  | cons name rest inductionHypothesis =>
    rw [List.foldl_cons, remove_of_absent (absent name List.mem_cons_self),
      inductionHypothesis fun other member => absent other (List.mem_cons_of_mem name member)]

/-- Several names are removed at once. -/
theorem getAll_foldl_remove (names : List HeaderName) :
    (names.foldl remove m).getAll other = if other ∈ names then [] else m.getAll other := by
  induction names generalizing m with
  | nil => rw [List.foldl_nil, if_neg List.not_mem_nil]
  | cons name rest inductionHypothesis =>
    rw [List.foldl_cons, inductionHypothesis, getAll_remove]
    by_cases later : other ∈ rest
    · rw [if_pos later, if_pos (List.mem_cons_of_mem name later)]
    · simp only [List.mem_cons, later, or_false, if_false, eq_comm]

end HeaderMap

end Net

end AuthGateway
