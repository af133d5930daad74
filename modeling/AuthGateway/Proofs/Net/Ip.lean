import AuthGateway.Net.Ip
import AuthGateway.Proofs.Text.Split
import AuthGateway.Proofs.Text.Utf8

namespace AuthGateway

namespace Net

namespace IpAddress

/-!
# The characters of written addresses

A written address consists of letters and digits, dots and colons.  So it can stand in a header, as
one entry of a list.
-/

/-- A letter or digit, a dot or a colon. -/
def isWritten (c : Char) : Bool :=
  c.isAlphanum || c = '.' || c = ':'

private theorem isWritten_of_mem_toDigits {base : Nat} (low : 1 < base) (high : base ≤ 16) (n : Nat) :
    ∀ c ∈ Nat.toDigits base n, isWritten c = true := by
  have digit : ∀ d < 16, isWritten (Nat.digitChar d) = true := by decide
  induction n using Nat.strongRecOn with
  | ind n inductionHypothesis =>
    intro c member
    rw [Nat.toDigits_eq_if low] at member
    split at member
    · rename_i small
      rw [List.mem_singleton.mp member]
      exact digit n (Nat.lt_of_lt_of_le small high)
    · rename_i large
      have positive : 0 < n := Nat.lt_of_lt_of_le (Nat.lt_of_succ_lt low) (Nat.not_lt.mp large)
      rcases List.mem_append.mp member with higher | last
      · exact inductionHypothesis (n / base) (Nat.div_lt_self positive low) c higher
      · rw [List.mem_singleton.mp last]
        exact digit (n % base) (Nat.lt_of_lt_of_le (Nat.mod_lt n (Nat.lt_of_succ_lt low)) high)

private theorem isWritten_of_mem_intercalate {mark : String} {texts : List String}
    (marks : ∀ c ∈ mark.toList, isWritten c = true)
    (inside : ∀ text ∈ texts, ∀ c ∈ text.toList, isWritten c = true) :
    ∀ c ∈ (String.intercalate mark texts).toList, isWritten c = true := by
  intro c member
  rcases Text.of_mem_intercalate member with between | ⟨text, listed, part⟩
  · exact marks c between
  · exact inside text listed c part

theorem isWritten_of_mem_v4Text (parts : List Nat) :
    ∀ c ∈ (v4Text parts).toList, isWritten c = true := by
  refine isWritten_of_mem_intercalate (List.all_eq_true.mp (by decide)) fun text listed c member => ?_
  rcases List.mem_map.mp listed with ⟨part, -, rfl⟩
  rw [Nat.toString_eq_ofList_toDigits, String.toList_ofList] at member
  exact isWritten_of_mem_toDigits (by decide) (by decide) part c member

private theorem isWritten_of_mem_groupsText (groups : List Nat) :
    ∀ c ∈ (groupsText groups).toList, isWritten c = true := by
  refine isWritten_of_mem_intercalate (List.all_eq_true.mp (by decide)) fun text listed c member => ?_
  rcases List.mem_map.mp listed with ⟨group, -, rfl⟩
  rw [String.toList_ofList] at member
  exact isWritten_of_mem_toDigits (by decide) (by decide) group c member

private theorem isWritten_of_mem_append {s t : String} (front : ∀ c ∈ s.toList, isWritten c = true)
    (back : ∀ c ∈ t.toList, isWritten c = true) : ∀ c ∈ (s ++ t).toList, isWritten c = true := by
  intro c member
  rw [String.toList_append, List.mem_append] at member
  rcases member with early | late
  · exact front c early
  · exact back c late

theorem isWritten_of_mem_v6Text (groups : List Nat) :
    ∀ c ∈ (v6Text groups).toList, isWritten c = true := by
  rw [v6Text]
  split
  split
  · exact isWritten_of_mem_groupsText groups
  · exact isWritten_of_mem_append
      (isWritten_of_mem_append (isWritten_of_mem_groupsText _) (List.all_eq_true.mp (by decide)))
      (isWritten_of_mem_groupsText _)

private theorem isWritten_of_mem_text (address : IpAddress) :
    ∀ c ∈ address.text.toList, isWritten c = true := by
  unfold text
  split
  · exact isWritten_of_mem_v4Text _
  · exact isWritten_of_mem_append (List.all_eq_true.mp (by decide)) (isWritten_of_mem_v4Text _)
  · exact isWritten_of_mem_v6Text _

/-- The characters lie between the dot and the small letters. -/
theorem range_of_mem_text (address : IpAddress) :
    ∀ c ∈ address.text.toList, 46 ≤ c.toNat ∧ c.toNat ≤ 122 := by
  intro c member
  have written := address.isWritten_of_mem_text c member
  simp only [isWritten, Bool.or_eq_true, decide_eq_true_eq] at written
  rcases written with (alphanumeric | rfl) | rfl
  · have range := Text.range_of_isAlphanum alphanumeric
    omega
  · decide
  · decide

/-- An address has four parts or eight groups. -/
def Legal : IpAddress → Prop
  | .v4 parts => parts.length = 4
  | .v6 groups => groups.length = 8

private theorem intercalate_ne_empty {mark text : String} {rest : List String} (nonempty : text ≠ "") :
    String.intercalate mark (text :: rest) ≠ "" := by
  cases rest with
  | nil =>
    rw [String.intercalate_singleton]
    exact nonempty
  | cons next more =>
    rw [String.intercalate_cons_cons]
    simp [nonempty]

private theorem v4Text_ne_empty {parts : List Nat} (nonempty : parts ≠ []) : v4Text parts ≠ "" := by
  rcases List.exists_cons_of_ne_nil nonempty with ⟨part, rest, rfl⟩
  refine intercalate_ne_empty ?_
  rw [Nat.toString_eq_ofList_toDigits]
  exact fun empty => Nat.toDigits_ne_nil (String.ofList_eq_empty_iff.mp empty)

private theorem v6Text_ne_empty {groups : List Nat} (nonempty : groups ≠ []) :
    v6Text groups ≠ "" := by
  rcases List.exists_cons_of_ne_nil nonempty with ⟨group, rest, rfl⟩
  rw [v6Text]
  split
  split
  · exact intercalate_ne_empty fun empty =>
      Nat.toDigits_ne_nil (String.ofList_eq_empty_iff.mp empty)
  · simp

/-- Something is always written. -/
theorem text_ne_empty {address : IpAddress} (legal : address.Legal) : address.text ≠ "" := by
  have inhabited : ∀ {list : List Nat} {count : Nat}, list.length = count → 0 < count → list ≠ [] :=
    fun length positive => List.ne_nil_of_length_pos (length ▸ positive)
  unfold text
  split
  · exact v4Text_ne_empty (inhabited legal (by decide))
  · simp
  · exact v6Text_ne_empty (inhabited legal (by decide))

end IpAddress

end Net

end AuthGateway
