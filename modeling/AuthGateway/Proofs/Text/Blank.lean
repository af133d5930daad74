import AuthGateway.Text.Blank

namespace AuthGateway

namespace Text

/-!
# What is taken off at the ends of a text

A run is what is left of it once it is trimmed, with dropped characters before and behind it.
Dropped characters that are added at either end make no difference.
-/

/-- A run that neither begins nor ends in the class stays as it is. -/
theorem trimBy_of_ends {drop : Char → Bool} {cs : List Char}
    (front : ∀ c, cs.head? = some c → drop c = false)
    (back : ∀ c, cs.getLast? = some c → drop c = false) : trimBy drop cs = cs := by
  have keeps : ∀ ds : List Char, (∀ c, ds.head? = some c → drop c = false) → ds.dropWhile drop = ds := by
    intro ds first
    cases ds with
    | nil => rfl
    | cons d rest => rw [List.dropWhile_cons_of_neg (by simp [first d rfl])]
  have last : cs.reverse.dropWhile drop = cs.reverse :=
    keeps cs.reverse fun c found => back c (List.head?_reverse.symm.trans found)
  rw [trimBy, keeps cs front, last, List.reverse_reverse]

/-- So does a run of characters outside the class. -/
theorem trimBy_of_forall {drop : Char → Bool} {cs : List Char} (kept : ∀ c ∈ cs, drop c = false) :
    trimBy drop cs = cs :=
  trimBy_of_ends (fun c found => kept c (List.mem_of_head? found))
    fun c found => kept c (List.mem_of_getLast? found)

section

variable (drop : Char → Bool)

/-- Only dropped characters are taken off. -/
theorem exists_eq_append_trimBy (cs : List Char) :
    ∃ left right, cs = left ++ trimBy drop cs ++ right ∧
      (∀ c ∈ left, drop c = true) ∧ ∀ c ∈ right, drop c = true := by
  have dropped : ∀ ds : List Char, ∀ c ∈ ds.takeWhile drop, drop c = true :=
    fun ds c member => List.all_eq_true.mp List.all_takeWhile c member
  refine ⟨cs.takeWhile drop, ((cs.dropWhile drop).reverse.takeWhile drop).reverse, ?_, dropped cs, ?_⟩
  · rw [trimBy, List.append_assoc, ← List.reverse_append, List.takeWhile_append_dropWhile,
      List.reverse_reverse, List.takeWhile_append_dropWhile]
  · exact fun c member => dropped _ c (List.mem_reverse.mp member)

variable {drop}

theorem trimBy_append {left right : List Char} (front : ∀ c ∈ left, drop c = true)
    (back : ∀ c ∈ right, drop c = true) (cs : List Char) :
    trimBy drop (left ++ cs ++ right) = trimBy drop cs := by
  rw [trimBy, trimBy, List.append_assoc, List.dropWhile_append_of_pos front, List.dropWhile_append]
  split
  · rename_i empty
    have nothing : (right ++ []).dropWhile drop = [].dropWhile drop := List.dropWhile_append_of_pos back
    rw [List.append_nil] at nothing
    rw [nothing, List.isEmpty_iff.mp empty]
    rfl
  · rw [List.reverse_append,
      List.dropWhile_append_of_pos fun c member => back c (List.mem_reverse.mp member)]

/-- What is trimmed has nothing left to take off. -/
theorem trimBy_trimBy (cs : List Char) : trimBy drop (trimBy drop cs) = trimBy drop cs := by
  rcases exists_eq_append_trimBy drop cs with ⟨left, right, whole, front, back⟩
  calc trimBy drop (trimBy drop cs)
    _ = trimBy drop (left ++ trimBy drop cs ++ right) := (trimBy_append front back _).symm
    _ = trimBy drop cs := congrArg (trimBy drop) whole.symm

/-- It does not begin in the class. -/
theorem front_of_trimBy {cs rest : List Char} {c : Char} (trimmed : trimBy drop cs = c :: rest) :
    drop c = false := by
  apply Bool.eq_false_iff.mpr
  intro dropped
  have shorter : trimBy drop ([c] ++ rest ++ []) = trimBy drop rest :=
    trimBy_append (fun d member => List.mem_singleton.mp member ▸ dropped)
      (fun d member => absurd member List.not_mem_nil) rest
  have same : trimBy drop rest = c :: rest := by
    rw [← shorter, List.append_nil, List.singleton_append, ← trimmed, trimBy_trimBy]
  rcases exists_eq_append_trimBy drop rest with ⟨left, right, whole, -⟩
  have length := congrArg List.length whole
  rw [same, List.length_append, List.length_append, List.length_cons] at length
  omega

/-- Nor does it end in the class. -/
theorem back_of_trimBy {cs : List Char} {c : Char} (last : (trimBy drop cs).getLast? = some c) :
    drop c = false := by
  have kept := List.head?_dropWhile_not drop (cs.dropWhile drop).reverse
  rw [trimBy, List.getLast?_reverse] at last
  rw [last] at kept
  exact kept

theorem isInfix_trimBy (cs : List Char) : trimBy drop cs <:+: cs := by
  rcases exists_eq_append_trimBy drop cs with ⟨left, right, whole, -⟩
  exact ⟨left, right, whole.symm⟩

theorem mem_of_mem_trimBy {cs : List Char} {c : Char} (member : c ∈ trimBy drop cs) : c ∈ cs := by
  exact (isInfix_trimBy cs).subset member

end

theorem trim_trim (s : String) : trim (trim s) = trim s := by
  rw [trim, trim, String.toList_ofList, trimBy_trimBy]

/-- A text stays as it is just where no blank is its first or its last character. -/
theorem trim_eq_self_iff {s : String} :
    trim s = s ↔ (∀ c, s.toList.head? = some c → isBlank c = false) ∧
      ∀ c, s.toList.getLast? = some c → isBlank c = false := by
  rw [← String.toList_inj, trim, String.toList_ofList]
  constructor
  · intro trimmed
    refine ⟨fun c first => ?_, fun c last => back_of_trimBy (trimmed.symm ▸ last)⟩
    rcases List.head?_eq_some_iff.mp first with ⟨rest, whole⟩
    exact front_of_trimBy (trimmed.trans whole)
  · rintro ⟨front, back⟩
    exact trimBy_of_ends front back

theorem length_trim_le (s : String) : (trim s).length ≤ s.length := by
  rw [← String.length_toList, ← String.length_toList, trim, String.toList_ofList]
  exact (isInfix_trimBy s.toList).length_le

theorem length_trim_lt {s : String} (blanks : trim s ≠ s) : (trim s).length < s.length := by
  refine Nat.lt_of_le_of_ne (length_trim_le s) fun same => blanks ?_
  rw [← String.length_toList, ← String.length_toList, trim, String.toList_ofList] at same
  rw [← String.toList_inj, trim, String.toList_ofList]
  exact (isInfix_trimBy s.toList).eq_of_length same

theorem mem_of_mem_trim {s : String} {c : Char} (member : c ∈ (trim s).toList) : c ∈ s.toList := by
  rw [trim, String.toList_ofList] at member
  exact mem_of_mem_trimBy member

/-- White space around a text is trimmed away. -/
theorem trim_append {left right : String} (front : ∀ c ∈ left.toList, isBlank c = true)
    (back : ∀ c ∈ right.toList, isBlank c = true) (s : String) :
    trim (left ++ s ++ right) = trim s := by
  rw [trim, trim, String.toList_append, String.toList_append, trimBy_append front back]

theorem trim_of_forall {s : String} (kept : ∀ c ∈ s.toList, isBlank c = false) : trim s = s := by
  rw [trim, trimBy_of_forall kept, String.ofList_toList]

/-- The text, perhaps with blanks around it. -/
def Padded (s typed : String) : Prop :=
  ∃ before after, before.toList.all isBlank = true ∧ after.toList.all isBlank = true ∧
    typed = before ++ s ++ after

theorem Padded.trim_eq {s typed : String} (padded : Padded s typed) : trim typed = trim s := by
  rcases padded with ⟨before, after, front, back, rfl⟩
  exact trim_append (List.all_eq_true.mp front) (List.all_eq_true.mp back) s

/-- The typed text is this one with blanks around it, of which it has none at its own ends. -/
structure Trimmed (s typed : String) : Prop where
  padded : Padded s typed
  front : ∀ c, s.toList.head? = some c → isBlank c = false
  back : ∀ c, s.toList.getLast? = some c → isBlank c = false

theorem trim_eq_iff {s typed : String} : trim typed = s ↔ Trimmed s typed := by
  constructor
  · rintro rfl
    rcases exists_eq_append_trimBy isBlank typed.toList with ⟨left, right, whole, blank, blank'⟩
    rcases trim_eq_self_iff.mp (trim_trim typed) with ⟨front, back⟩
    refine { padded := ⟨String.ofList left, String.ofList right, ?_, ?_, ?_⟩, front := front, back := back }
    · rwa [String.toList_ofList, List.all_eq_true]
    · rwa [String.toList_ofList, List.all_eq_true]
    · rw [← String.toList_inj, String.toList_append, String.toList_append, trim, String.toList_ofList,
        String.toList_ofList, String.toList_ofList, ← whole]
  · rintro ⟨padded, front, back⟩
    rw [padded.trim_eq]
    exact trim_eq_self_iff.mpr ⟨front, back⟩

theorem trim_eq_empty_iff {s : String} : trim s = "" ↔ ∀ c ∈ s.toList, isBlank c = true := by
  constructor
  · intro empty
    rcases (trim_eq_iff.mp empty).padded with ⟨before, after, blank, blank', rfl⟩
    intro c member
    rw [String.toList_append, String.toList_append, String.toList_empty, List.append_nil] at member
    rcases List.mem_append.mp member with first | last
    · exact List.all_eq_true.mp blank c first
    · exact List.all_eq_true.mp blank' c last
  · intro blank
    have padded : Padded "" s := ⟨s, "", List.all_eq_true.mpr blank, rfl, by simp⟩
    exact padded.trim_eq

end Text

end AuthGateway
