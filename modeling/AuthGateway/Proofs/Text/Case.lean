import AuthGateway.Proofs.Text.Utf8
import AuthGateway.Text.Lowercase
import Mathlib.Data.List.Forall2

namespace AuthGateway

namespace Text

/-!
# Texts without regard to case

The case of a letter is that of the twenty-six letters: the small form of a text is a word exactly if
the text is the word with capitals in some places.
-/

/-- The text is the word, with capitals for any of its letters. -/
def InAnyCase (word s : String) : Prop :=
  List.Forall₂ (fun letter c => c = letter ∨ c = letter.toUpper) word.toList s.toList

instance (word s : String) : Decidable (InAnyCase word s) :=
  inferInstanceAs (Decidable (List.Forall₂ _ word.toList s.toList))

private theorem toLower_of_not_isUpper {c : Char} (small : c.isUpper = false) : c.toLower = c := by
  unfold Char.toLower
  exact dif_neg fun range => Bool.false_ne_true (small.symm.trans (decide_eq_true range))

private theorem toUpper_of_not_isLower {c : Char} (other : c.isLower = false) : c.toUpper = c := by
  unfold Char.toUpper
  refine dif_neg fun range => Bool.false_ne_true (other.symm.trans ?_)
  exact Bool.and_eq_true_iff.mpr ⟨decide_eq_true range.1, decide_eq_true range.2⟩

/-- A character that is no capital is the small form of itself and of its capital. -/
theorem toLower_eq_iff {c letter : Char} (small : letter.isUpper = false) :
    c.toLower = letter ↔ c = letter ∨ c = letter.toUpper := by
  constructor
  · rintro rfl
    cases capital : c.isUpper with
    | false => exact Or.inl (toLower_of_not_isUpper capital).symm
    | true =>
      have raised : ∀ n < 128, (Char.ofNat n).isUpper = true →
          Char.ofNat n = (Char.ofNat n).toLower.toUpper := by decide +kernel
      have range : 65 ≤ c.toNat ∧ c.toNat ≤ 90 := of_decide_eq_true capital
      have ascii : c.toNat < 128 := by omega
      rcases exists_ofNat_of_lt ascii with ⟨n, below, rfl⟩
      exact Or.inr (raised n below capital)
  · rintro (rfl | rfl)
    · exact toLower_of_not_isUpper small
    · cases lower : letter.isLower with
      | false => rw [toUpper_of_not_isLower lower, toLower_of_not_isUpper small]
      | true =>
        have lowered : ∀ n < 128, (Char.ofNat n).isLower = true →
            (Char.ofNat n).toUpper.toLower = Char.ofNat n := by decide +kernel
        have last : letter.toNat ≤ 122 := of_decide_eq_true (Bool.and_eq_true_iff.mp lower).2
        have ascii : letter.toNat < 128 := by omega
        rcases exists_ofNat_of_lt ascii with ⟨n, below, rfl⟩
        exact lowered n below lower

/-- The small form of a text is a word without capitals exactly if the text is that word in any case. -/
theorem lowerAscii_eq_iff {word : String} (small : ∀ c ∈ word.toList, c.isUpper = false) {s : String} :
    lowerAscii s = word ↔ InAnyCase word s := by
  rw [lowerAscii, ← String.toList_inj, String.toList_ofList, InAnyCase]
  generalize word.toList = letters at small
  induction s.toList generalizing letters with
  | nil => cases letters <;> simp
  | cons c rest inductionHypothesis =>
    cases letters with
    | nil => simp
    | cons letter more =>
      rcases List.forall_mem_cons.mp small with ⟨first, others⟩
      rw [List.map_cons, List.cons.injEq, List.forall₂_cons, toLower_eq_iff first,
        inductionHypothesis more others]

end Text

end AuthGateway
