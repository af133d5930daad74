import AuthGateway.Text.Integer

namespace AuthGateway

namespace Text

/-!
# Whole numbers are read back

The decimal text of a number of 64 bits is read as that number, so a counter that is kept as text
counts like one that is kept as a number.  What else is read as a number is a numeral, which may have a
sign and leading zeros (`integer?_eq_some_iff`).
-/

/-- A text of ASCII digits behind an optional sign, and the number that it means. -/
inductive Numeral : String → Int → Prop where
  | plain {ds : List Char} (nonempty : ds ≠ []) (digits : ∀ d ∈ ds, d.isDigit = true) :
    Numeral (String.ofList ds) (Nat.ofDigitChars 10 ds 0)
  | plus {ds : List Char} (nonempty : ds ≠ []) (digits : ∀ d ∈ ds, d.isDigit = true) :
    Numeral (String.ofList ('+' :: ds)) (Nat.ofDigitChars 10 ds 0)
  | minus {ds : List Char} (nonempty : ds ≠ []) (digits : ∀ d ∈ ds, d.isDigit = true) :
    Numeral (String.ofList ('-' :: ds)) (-(Nat.ofDigitChars 10 ds 0 : Int))

theorem digits?_eq {cs : List Char} (nonempty : cs ≠ []) (digits : ∀ c ∈ cs, c.isDigit = true) :
    digits? cs = some (Nat.ofDigitChars 10 cs 0) := by
  rw [digits?, if_pos ⟨nonempty, List.all_eq_true.mpr digits⟩, Nat.ofDigitChars_eq_foldl]
  simp only [Nat.mul_comm 10]

/-- Digits, and at least one of them, are what is read as a number. -/
theorem of_digits?_eq_some {cs : List Char} {n : Nat} (read : digits? cs = some n) :
    (cs ≠ [] ∧ ∀ c ∈ cs, c.isDigit = true) ∧ n = Nat.ofDigitChars 10 cs 0 := by
  by_cases shape : cs ≠ [] ∧ cs.all Char.isDigit = true
  · have digits := List.all_eq_true.mp shape.2
    rw [digits?_eq shape.1 digits] at read
    exact ⟨⟨shape.1, digits⟩, (Option.some.inj read).symm⟩
  · rw [digits?, if_neg shape] at read
    exact absurd read (by simp)

theorem integer?_eq_some_iff {s : String} {n : Int} : integer? s = some n ↔ Numeral s n := by
  constructor
  · intro read
    unfold integer? at read
    split at read
    · rename_i ds signed
      rcases Option.map_eq_some_iff.mp read with ⟨m, value, rfl⟩
      rcases of_digits?_eq_some value with ⟨⟨nonempty, digits⟩, rfl⟩
      rw [← String.ofList_toList (s := s), signed]
      exact .plus nonempty digits
    · rename_i ds signed
      rcases Option.map_eq_some_iff.mp read with ⟨m, value, rfl⟩
      rcases of_digits?_eq_some value with ⟨⟨nonempty, digits⟩, rfl⟩
      rw [← String.ofList_toList (s := s), signed]
      exact .minus nonempty digits
    · rcases Option.map_eq_some_iff.mp read with ⟨m, value, rfl⟩
      rcases of_digits?_eq_some value with ⟨⟨nonempty, digits⟩, rfl⟩
      have numeral := Numeral.plain nonempty digits
      rwa [String.ofList_toList] at numeral
  · intro numeral
    cases numeral with
    | @plain ds nonempty digits =>
      rw [integer?, String.toList_ofList]
      split
      · rename_i rest
        exact absurd (digits '+' List.mem_cons_self) (by decide)
      · rename_i rest
        exact absurd (digits '-' List.mem_cons_self) (by decide)
      · rw [digits?_eq nonempty digits]
        rfl
    | @plus ds nonempty digits =>
      simp only [integer?, String.toList_ofList, digits?_eq nonempty digits, Option.map_some,
        Int.ofNat_eq_natCast]
    | @minus ds nonempty digits =>
      simp only [integer?, String.toList_ofList, digits?_eq nonempty digits, Option.map_some,
        Int.ofNat_eq_natCast]

/-- A numeral means one number. -/
theorem Numeral.unique {s : String} {n k : Int} (first : Numeral s n) (second : Numeral s k) :
    n = k := by
  have read := integer?_eq_some_iff.mpr first
  rw [integer?_eq_some_iff.mpr second] at read
  exact (Option.some.inj read).symm

theorem int64?_eq_some_iff {s : String} {n : Int} :
    int64? s = some n ↔ Numeral s n ∧ int64Min ≤ n ∧ n ≤ int64Max := by
  rw [int64?, Option.filter_eq_some_iff, integer?_eq_some_iff, Bool.and_eq_true, decide_eq_true_eq,
    decide_eq_true_eq]

private theorem isDigit_of_mem_toDigits (n : Nat) : ∀ c ∈ Nat.toDigits 10 n, c.isDigit = true :=
  fun _ member => Nat.isDigit_of_mem_toDigits (by decide) (by decide) member

/-- The decimal text of a number is a numeral of it. -/
theorem numeral_toString (n : Int) : Numeral (toString n) n := by
  change Numeral n.repr n
  rw [Int.repr_eq_if]
  split
  · rename_i natural
    rw [Nat.repr_eq_ofList_toDigits]
    have value : (Nat.ofDigitChars 10 (Nat.toDigits 10 n.toNat) 0 : Int) = n := by
      rw [Nat.ofDigitChars_ten_toDigits, Int.toNat_of_nonneg natural]
    have numeral := Numeral.plain Nat.toDigits_ne_nil (isDigit_of_mem_toDigits n.toNat)
    rwa [value] at numeral
  · rename_i negative
    have text : "-" ++ (-n).toNat.repr = String.ofList ('-' :: Nat.toDigits 10 (-n).toNat) := by
      rw [String.ofList_cons, ← Nat.repr_eq_ofList_toDigits]
      rfl
    have value : -(Nat.ofDigitChars 10 (Nat.toDigits 10 (-n).toNat) 0 : Int) = n := by
      rw [Nat.ofDigitChars_ten_toDigits]
      omega
    have numeral := Numeral.minus Nat.toDigits_ne_nil (isDigit_of_mem_toDigits (-n).toNat)
    rwa [value, ← text] at numeral

/-- A number is read back from its decimal text. -/
theorem integer?_toString (n : Int) : integer? (toString n) = some n :=
  integer?_eq_some_iff.mpr (numeral_toString n)

theorem int64?_toString {n : Int} (low : int64Min ≤ n) (high : n ≤ int64Max) :
    int64? (toString n) = some n :=
  int64?_eq_some_iff.mpr ⟨numeral_toString n, low, high⟩

/-- A decimal text is a sign and digits. -/
theorem isDigit_of_mem_toString {n : Int} :
    ∀ c ∈ (toString n).toList, c.isDigit ∨ c = '-' := by
  intro c member
  change c ∈ n.repr.toList at member
  rw [Int.repr_eq_if] at member
  split at member
  · rw [Nat.toList_repr] at member
    exact Or.inl (Nat.isDigit_of_mem_toDigits (by decide) (by decide) member)
  · rw [String.toList_append, Nat.toList_repr] at member
    rcases List.mem_append.mp member with sign | digit
    · exact Or.inr (List.mem_singleton.mp sign)
    · exact Or.inl (Nat.isDigit_of_mem_toDigits (by decide) (by decide) digit)

end Text

end AuthGateway
