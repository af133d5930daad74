import AuthGateway.Json.Parser
import AuthGateway.Proofs.Text.Integer
import AuthGateway.Proofs.Text.Utf8
import Mathlib.Data.List.TakeDrop

namespace AuthGateway

namespace Json

/-!
# Whole numbers are read back

Inside a JSON text a number has no closing sign of its own: it ends where the next byte cannot go
on with it.  Behind its decimal text every whole number is read as itself, as long as such a byte
or nothing follows.
-/

open Text (Bytes)

/-- A byte that goes on with a number. -/
def isNumberByte (b : UInt8) : Bool :=
  (0x30 ≤ b && b ≤ 0x39) || b == 0x2E || b == 0x65 || b == 0x45

/-- What follows does not go on with a number. -/
def Closed (rest : Bytes) : Prop :=
  ∀ b ∈ rest.head?, isNumberByte b = false

theorem closed_cons {b : UInt8} (outside : isNumberByte b = false) (rest : Bytes) :
    Closed (b :: rest) := by
  intro c first
  rw [← Option.some.inj first]
  exact outside

/-- The bytes of decimal digits. -/
def digitBytes (n : Nat) : Bytes :=
  (Nat.toDigits 10 n).map fun c => UInt8.ofNat c.toNat

private theorem toNat_digit {c : Char} (digit : c.isDigit = true) : 48 ≤ c.toNat ∧ c.toNat ≤ 57 :=
  Char.isDigit_iff_toNat.mp digit

private theorem isDigit_of_mem_toDigits {n : Nat} {c : Char} (member : c ∈ Nat.toDigits 10 n) :
    c.isDigit = true :=
  Nat.isDigit_of_mem_toDigits (by decide) (by decide) member

theorem mem_digitBytes {n : Nat} {b : UInt8} (member : b ∈ digitBytes n) :
    0x30 ≤ b.toNat ∧ b.toNat ≤ 0x39 := by
  rcases List.mem_map.mp member with ⟨c, listed, rfl⟩
  have digit := toNat_digit (isDigit_of_mem_toDigits listed)
  rw [UInt8.toNat_ofNat_of_lt' (Nat.lt_of_le_of_lt digit.2 (by decide))]
  exact digit

theorem digitBytes_ne_nil (n : Nat) : digitBytes n ≠ [] := by
  rw [digitBytes, ne_eq, List.map_eq_nil_iff]
  exact Nat.toDigits_ne_nil

private theorem foldl_digits (cs : List Char) (digits : ∀ c ∈ cs, c.isDigit = true) (start : Nat) :
    (cs.map fun c => UInt8.ofNat c.toNat).foldl (fun n b => n * 10 + (b.toNat - 0x30)) start =
      Nat.ofDigitChars 10 cs start := by
  induction cs generalizing start with
  | nil => rfl
  | cons c rest inductionHypothesis =>
    have digit := toNat_digit (digits c List.mem_cons_self)
    rw [List.map_cons, List.foldl_cons, Nat.ofDigitChars_cons,
      inductionHypothesis (fun d member => digits d (List.mem_cons_of_mem c member)),
      UInt8.toNat_ofNat_of_lt' (Nat.lt_of_le_of_lt digit.2 (by decide)), Nat.mul_comm]
    rfl

theorem digitsValue_digitBytes (n : Nat) : digitsValue (digitBytes n) = n := by
  rw [digitsValue, digitBytes, foldl_digits _ fun c member => isDigit_of_mem_toDigits member,
    Nat.ofDigitChars_ten_toDigits]

/-- No number but zero is written with a zero in front. -/
private theorem head?_toDigits {n : Nat} (positive : 0 < n) : (Nat.toDigits 10 n).head? ≠ some '0' := by
  induction n using Nat.strongRecOn with
  | ind n inductionHypothesis =>
    by_cases single : n < 10
    · have all : ∀ m : Fin 10, 0 < m.val → (Nat.digitChar m) ≠ '0' := by decide
      rw [Nat.toDigits_of_lt_base single]
      exact fun same => all ⟨n, single⟩ positive (Option.some.inj same)
    · rw [Nat.toDigits_of_base_le (by decide) (Nat.not_lt.mp single),
        List.head?_append]
      intro same
      cases first : (Nat.toDigits 10 (n / 10)).head? with
      | none => exact Nat.toDigits_ne_nil (List.head?_eq_none_iff.mp first)
      | some c =>
        rw [first] at same
        exact inductionHypothesis (n / 10) (by omega) (by omega) (first.trans same)

private theorem digitBytes_eq_cons_zero {n : Nat} {more : Bytes}
    (digits : digitBytes n = 0x30 :: more) : more = [] := by
  rcases Nat.eq_zero_or_pos n with rfl | positive
  · exact (List.cons.inj digits).2.symm
  · refine absurd ?_ (head?_toDigits positive)
    rcases List.map_eq_cons_iff.mp digits with ⟨c, rest, whole, first, -⟩
    have digit := toNat_digit (isDigit_of_mem_toDigits (whole ▸ List.mem_cons_self))
    have code : c.toNat = 48 := by
      rw [← UInt8.toNat_ofNat_of_lt' (Nat.lt_of_le_of_lt digit.2 (by decide)), first]
      rfl
    rw [whole, List.head?_cons, ← Char.ofNat_toNat c, code]

private theorem spanDigits_digitBytes (n : Nat) {rest : Bytes} (closed : Closed rest) :
    spanDigits (digitBytes n ++ rest) = (digitBytes n, rest) := by
  have inside : ∀ b ∈ digitBytes n, (decide ((0x30 : UInt8) ≤ b) && decide (b ≤ 0x39)) = true := by
    intro b member
    have digit := mem_digitBytes member
    simp only [Bool.and_eq_true, decide_eq_true_eq, UInt8.le_iff_toNat_le]
    exact digit
  have outside : rest.takeWhile (fun b => decide ((0x30 : UInt8) ≤ b) && decide (b ≤ 0x39)) = [] ∧
      rest.dropWhile (fun b => decide ((0x30 : UInt8) ≤ b) && decide (b ≤ 0x39)) = rest := by
    cases rest with
    | nil => exact ⟨rfl, rfl⟩
    | cons b more =>
      have stop := closed b rfl
      simp only [isNumberByte, Bool.or_eq_false_iff] at stop
      have digit := stop.1.1.1
      exact ⟨by rw [List.takeWhile_cons_of_neg (by simp [digit])],
        by rw [List.dropWhile_cons_of_neg (by simp [digit])]⟩
  rw [spanDigits, List.span_eq_takeWhile_dropWhile, List.takeWhile_append_of_pos inside,
    List.dropWhile_append_of_pos inside, outside.1, outside.2, List.append_nil]

private theorem wholePart?_digitBytes (n : Nat) {rest : Bytes} (closed : Closed rest) :
    wholePart? (digitBytes n ++ rest) = some (n, rest) := by
  rw [wholePart?, spanDigits_digitBytes n closed]
  have value := digitsValue_digitBytes n
  cases digits : digitBytes n with
  | nil => exact absurd digits (digitBytes_ne_nil n)
  | cons first more =>
    rw [digits] at value
    have padded : ¬ (first = 0x30 ∧ more ≠ []) := by
      rintro ⟨rfl, longer⟩
      exact longer (digitBytes_eq_cons_zero digits)
    simp only [if_neg padded, value]

private theorem fraction?_closed {rest : Bytes} (closed : Closed rest) :
    fraction? rest = some (false, rest) := by
  unfold fraction?
  split
  · exact absurd (closed 0x2E rfl) (by decide)
  · rfl

private theorem exponent?_closed {rest : Bytes} (closed : Closed rest) :
    exponent? rest = some (false, rest) := by
  cases rest with
  | nil => rfl
  | cons b more =>
    have stop := closed b rfl
    have other : ¬ (b = 0x65 ∨ b = 0x45) := by
      rintro (rfl | rfl) <;> exact absurd stop (by decide)
    simp only [exponent?, if_neg other]

private theorem ascii_of_mem_toDigits {n : Nat} : ∀ c ∈ Nat.toDigits 10 n, c.toNat < 0x80 :=
  fun _ member => Nat.lt_of_le_of_lt (toNat_digit (isDigit_of_mem_toDigits member)).2 (by decide)

/-- The bytes of a whole number: its digits, behind a sign if it is negative. -/
theorem encode_toString (n : Int) :
    Text.encode (toString n) =
      if 0 ≤ n then digitBytes n.toNat else 0x2D :: digitBytes (-n).toNat := by
  change Text.encode n.repr = _
  rw [Int.repr_eq_if]
  split
  · rw [Text.encode_eq_flatMap, Nat.toList_repr,
      Text.flatMap_utf8EncodeChar_ascii ascii_of_mem_toDigits]
    rfl
  · rw [Text.encode_append, Text.encode_eq_flatMap (Nat.repr _), Nat.toList_repr,
      Text.flatMap_utf8EncodeChar_ascii ascii_of_mem_toDigits]
    rfl

private theorem number?_digitBytes (n : Nat) {rest : Bytes} (closed : Closed rest) :
    number? (digitBytes n ++ rest) = some (.nat n, rest) := by
  have front : ∀ more, digitBytes n ++ rest ≠ 0x2D :: more := by
    intro more same
    rcases List.append_eq_cons_iff.mp same with ⟨empty, -⟩ | ⟨others, digits, -⟩
    · exact digitBytes_ne_nil n empty
    · exact absurd (mem_digitBytes (digits ▸ List.mem_cons_self)).1 (by decide)
  unfold number?
  split
  rename_i negative bytes sign
  split at sign
  · rename_i more same
    exact absurd same (front more)
  · rcases Prod.mk.inj sign with ⟨rfl, rfl⟩
    simp only [wholePart?_digitBytes n closed, fraction?_closed closed, exponent?_closed closed,
      Option.bind_eq_bind, Option.bind_some]
    rfl

private theorem number?_negative {n : Nat} (positive : 0 < n) {rest : Bytes}
    (closed : Closed rest) :
    number? (0x2D :: (digitBytes n ++ rest)) = some (.int (-Int.ofNat n), rest) := by
  have whole : (n == 0) = false := beq_false_of_ne (Nat.ne_of_gt positive)
  simp only [number?, wholePart?_digitBytes n closed, fraction?_closed closed,
    exponent?_closed closed, Option.bind_eq_bind, Option.bind_some, whole]
  rfl

/-- A whole number is read back from its digits and its sign, up to what follows. -/
theorem number?_toString (n : Int) {rest : Bytes} (closed : Closed rest) :
    number? (Text.encode (toString n) ++ rest) = some (.int n, rest) := by
  rw [encode_toString]
  split
  · rename_i natural
    rw [number?_digitBytes n.toNat closed, Json.nat, Json.int, Int.ofNat_eq_natCast,
      Int.toNat_of_nonneg natural]
  · rename_i negative
    rw [List.cons_append, number?_negative (by omega) closed, Int.ofNat_eq_natCast,
      Int.toNat_of_nonneg (by omega), Int.neg_neg]

/-- A number begins with a digit or with its sign. -/
theorem encode_toString_eq_cons (n : Int) :
    ∃ b more, Text.encode (toString n) = b :: more ∧ (b = 0x2D ∨ 0x30 ≤ b.toNat ∧ b.toNat ≤ 0x39) := by
  rw [encode_toString]
  split
  · cases digits : digitBytes n.toNat with
    | nil => exact absurd digits (digitBytes_ne_nil _)
    | cons b more => exact ⟨b, more, rfl, Or.inr (mem_digitBytes (digits ▸ List.mem_cons_self))⟩
  · exact ⟨0x2D, _, rfl, Or.inl rfl⟩

end Json

end AuthGateway
