import AuthGateway.Json.Parser
import AuthGateway.Json.Printer
import AuthGateway.Proofs.Text.Utf8

namespace AuthGateway

namespace Json

/-!
# String literals are read back

A literal is read byte by byte, and what the reader keeps is the bytes of the text so far.  Each
character therefore adds its own bytes, whether it was written as it is, behind a backslash or by
its number, and the closing quote finds exactly the bytes of the text.
-/

open Text (Bytes)

namespace Literal

/-- A literal to which these bytes have been added. -/
def extend (l : Literal) (bytes : Bytes) : Literal :=
  { l with bytes := bytes.reverse ++ l.bytes }

theorem extend_extend (l : Literal) (front back : Bytes) :
    (l.extend front).extend back = l.extend (front ++ back) := by
  simp only [extend, List.reverse_append, List.append_assoc]

theorem push_eq_extend {l : Literal} (settled : l.pending = none) (b : UInt8) :
    l.push b = l.extend [b] := by
  simp only [push, settle, settled, extend, List.reverse_singleton, List.singleton_append]

/-- The text of a literal that holds the bytes of a text. -/
theorem finish_extend_start (s : String) : (start.extend (Text.encode s)).finish = some s := by
  have bytes : (start.extend (Text.encode s)).bytes.reverse = Text.encode s := by
    simp only [extend, start, List.append_nil, List.reverse_reverse]
  change Text.decode? (start.extend (Text.encode s)).bytes.reverse = some s
  rw [bytes, Text.decode?_encode]

end Literal

private theorem literal?_plain {l : Literal} {b : UInt8} (quote : b ≠ 0x22) (escape : b ≠ 0x5C)
    (printed : 0x20 ≤ b.toNat) (rest : Bytes) :
    literal? l (b :: rest) = literal? (l.push b) rest := by
  have control : ¬ b < 0x20 := by
    rw [UInt8.lt_iff_toNat_lt]
    exact Nat.not_lt.mpr printed
  rw [literal?.eq_def]
  simp only [quote, escape, control, if_false]

private theorem literal?_escaped {l : Literal} {letter b : UInt8} (unit : letter ≠ 0x75)
    (escaped : escapedByte? letter = some b) (rest : Bytes) :
    literal? l (0x5C :: letter :: rest) = literal? (l.push b) rest := by
  rw [literal?.eq_def]
  simp only [unit, escaped, if_false]
  rfl

private theorem literal?_unit {l : Literal} {w x y z : UInt8} {n : Nat}
    (unit : unit? w x y z = some n) (rest : Bytes) :
    literal? l (0x5C :: 0x75 :: w :: x :: y :: z :: rest) = literal? (l.pushUnit n) rest := by
  rw [literal?.eq_def]
  simp only [unit]
  rfl

/-- Bytes that need no escape are added as they are. -/
private theorem literal?_plain_append {l : Literal} (settled : l.pending = none) {bytes : Bytes}
    (plain : ∀ b ∈ bytes, b ≠ 0x22 ∧ b ≠ 0x5C ∧ 0x20 ≤ b.toNat) (rest : Bytes) :
    literal? l (bytes ++ rest) = literal? (l.extend bytes) rest := by
  induction bytes generalizing l with
  | nil => rfl
  | cons b more inductionHypothesis =>
    rcases plain b List.mem_cons_self with ⟨quote, escape, printed⟩
    rw [List.cons_append, literal?_plain quote escape printed, Literal.push_eq_extend settled,
      inductionHypothesis (l := l.extend [b]) settled
        (fun c member => plain c (List.mem_cons_of_mem b member)),
      Literal.extend_extend]
    rfl

private theorem unit?_control {n : Nat} (control : n < 0x20) :
    unit? 0x30 0x30 (UInt8.ofNat (Nat.digitChar (n / 16)).toNat)
      (UInt8.ofNat (Nat.digitChar (n % 16)).toNat) = some n := by
  have all : ∀ m : Fin 0x20, unit? 0x30 0x30 (UInt8.ofNat (Nat.digitChar (m / 16)).toNat)
      (UInt8.ofNat (Nat.digitChar (m % 16)).toNat) = some m.val := by decide
  exact all ⟨n, control⟩

private theorem pushUnit_eq_extend {l : Literal} (settled : l.pending = none) {n : Nat}
    (control : n < 0x20) :
    l.pushUnit n = l.extend (String.utf8EncodeChar (Char.ofNat n)) := by
  rw [Literal.pushUnit, if_neg (by omega), if_neg (by omega)]
  simp only [Literal.settle, settled, Literal.pushScalar, Literal.extend, Text.encode_ofList,
    List.flatMap_singleton]

private theorem literal?_letter {l : Literal} (settled : l.pending = none) {c letter : Char}
    {written b : UInt8} (bytes : ['\\', letter].flatMap String.utf8EncodeChar = [0x5C, written])
    (unit : written ≠ 0x75) (escaped : escapedByte? written = some b)
    (meant : String.utf8EncodeChar c = [b]) (rest : Bytes) :
    literal? l (['\\', letter].flatMap String.utf8EncodeChar ++ rest) =
      literal? (l.extend (String.utf8EncodeChar c)) rest := by
  rw [bytes, meant, ← Literal.push_eq_extend settled]
  exact literal?_escaped unit escaped rest

private theorem eq_ofNat_of_toNat {c : Char} {n : Nat} (code : c.toNat = n) : c = Char.ofNat n := by
  rw [← code, Char.ofNat_toNat]

private theorem literal?_control {l : Literal} (settled : l.pending = none) {c : Char}
    (control : c.toNat < 0x20) (rest : Bytes) :
    literal? l ((['\\', 'u', '0', '0', Nat.digitChar (c.toNat / 16), Nat.digitChar (c.toNat % 16)]
        : List Char).flatMap String.utf8EncodeChar ++ rest) =
      literal? (l.extend (String.utf8EncodeChar c)) rest := by
  have digit : ∀ n : Fin 16, (Nat.digitChar n).toNat < 0x80 := by decide
  have bytes : (['\\', 'u', '0', '0', Nat.digitChar (c.toNat / 16),
      Nat.digitChar (c.toNat % 16)] : List Char).flatMap String.utf8EncodeChar =
      [0x5C, 0x75, 0x30, 0x30, UInt8.ofNat (Nat.digitChar (c.toNat / 16)).toNat,
        UInt8.ofNat (Nat.digitChar (c.toNat % 16)).toNat] := by
    rw [Text.flatMap_utf8EncodeChar_ascii]
    · rfl
    · simp only [List.forall_mem_cons]
      exact ⟨by decide, by decide, by decide, by decide, digit ⟨c.toNat / 16, by omega⟩,
        digit ⟨c.toNat % 16, by omega⟩, by simp⟩
  rw [bytes]
  refine (literal?_unit (unit?_control control) rest).trans ?_
  rw [pushUnit_eq_extend settled control, Char.ofNat_toNat]

private theorem literal?_unescaped {l : Literal} (settled : l.pending = none) {c : Char}
    (quote : c ≠ '"') (escape : c ≠ '\\') (printed : ¬ c.toNat < 0x20) (rest : Bytes) :
    literal? l ([c].flatMap String.utf8EncodeChar ++ rest) =
      literal? (l.extend (String.utf8EncodeChar c)) rest := by
  rw [List.flatMap_singleton]
  refine literal?_plain_append settled ?_ rest
  intro b member
  by_cases ascii : c.toNat < 0x80
  · rw [Text.utf8EncodeChar_ascii ascii, List.mem_singleton] at member
    have value : b.toNat = c.toNat := by
      rw [member, UInt8.toNat_ofNat_of_lt' (Nat.lt_of_lt_of_le ascii (by decide))]
    refine ⟨?_, ?_, by omega⟩
    · rintro rfl
      exact quote (eq_ofNat_of_toNat value.symm)
    · rintro rfl
      exact escape (eq_ofNat_of_toNat value.symm)
  · have high := Text.high_of_mem_utf8EncodeChar (Nat.not_lt.mp ascii) member
    refine ⟨?_, ?_, by omega⟩ <;> rintro rfl <;> exact absurd high (by decide)

/-- However a character is written, the reader adds its bytes. -/
theorem literal?_escapeChar {l : Literal} (settled : l.pending = none) (c : Char) (rest : Bytes) :
    literal? l ((escapeChar c).flatMap String.utf8EncodeChar ++ rest) =
      literal? (l.extend (String.utf8EncodeChar c)) rest := by
  unfold escapeChar
  split
  · rename_i quote
    subst quote
    exact literal?_letter settled rfl (by decide) rfl rfl rest
  rename_i quote
  split
  · rename_i escape
    subst escape
    exact literal?_letter settled rfl (by decide) rfl rfl rest
  rename_i escape
  split
  · rename_i backspace
    rw [eq_ofNat_of_toNat backspace]
    exact literal?_letter settled rfl (by decide) rfl rfl rest
  split
  · rename_i feed
    rw [eq_ofNat_of_toNat feed]
    exact literal?_letter settled rfl (by decide) rfl rfl rest
  split
  · rename_i newline
    subst newline
    exact literal?_letter settled rfl (by decide) rfl rfl rest
  split
  · rename_i carriage
    subst carriage
    exact literal?_letter settled rfl (by decide) rfl rfl rest
  split
  · rename_i tab
    subst tab
    exact literal?_letter settled rfl (by decide) rfl rfl rest
  split
  · rename_i control
    exact literal?_control settled control rest
  · rename_i printed
    exact literal?_unescaped settled quote escape printed rest

/-- The characters of a text, up to the closing quote. -/
theorem literal?_escaped_append {l : Literal} (settled : l.pending = none) (cs : List Char)
    (rest : Bytes) :
    literal? l ((cs.flatMap escapeChar).flatMap String.utf8EncodeChar ++ rest) =
      literal? (l.extend (cs.flatMap String.utf8EncodeChar)) rest := by
  induction cs generalizing l with
  | nil => rfl
  | cons c more inductionHypothesis =>
    rw [List.flatMap_cons, List.flatMap_append, List.append_assoc, literal?_escapeChar settled,
      inductionHypothesis (l := l.extend (String.utf8EncodeChar c)) settled,
      Literal.extend_extend]
    rfl

/-- The bytes of a text as a literal, without the opening quote. -/
theorem literal?_start_quoted (s : String) (rest : Bytes) :
    literal? .start ((s.toList.flatMap escapeChar).flatMap String.utf8EncodeChar ++ 0x22 :: rest) =
      some (some s, rest) := by
  rw [literal?_escaped_append rfl, ← Text.encode_eq_flatMap, literal?.eq_def]
  simp only [Literal.finish_extend_start, if_true]

end Json

end AuthGateway
