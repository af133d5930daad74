import AuthGateway.Text.Percent
import AuthGateway.Proofs.Text.Utf8
import Mathlib.Data.List.Basic

namespace AuthGateway

namespace Text

namespace Percent

/-!
# What is escaped reads the same

A set of characters that spares the percent sign and the hexadecimal digits escapes nothing twice,
and what it escapes stands for the same bytes as before (`decode_encodeChars`).  In particular a
percent sign of the text does not become the start of an escape, and an escape of the text stays one.
-/

/-- What escapes are made of. -/
def marks : List Char := "%0123456789ABCDEFabcdef".toList

/-- No character of an escape is in the set. -/
def Spares (set : Char → Bool) : Prop :=
  marks.all (!set ·) = true

instance (set : Char → Bool) : Decidable (Spares set) :=
  inferInstanceAs (Decidable (_ = true))

private theorem ascii_of_mem_marks {c : Char} (mark : c ∈ marks) : c.toNat < 0x80 := by
  have ascii : marks.all (·.toNat < 0x80) = true := by decide
  exact of_decide_eq_true (List.all_eq_true.mp ascii c mark)

theorem spares_path : Spares path := by decide

theorem spares_query : Spares query := by decide

theorem spares_userinfo : Spares userinfo := by decide

section

variable {set : Char → Bool}

theorem encodeChars_append (cs ds : List Char) :
    encodeChars set (cs ++ ds) = encodeChars set cs ++ encodeChars set ds :=
  List.flatMap_append

theorem encodeChars_cons (c : Char) (cs : List Char) :
    encodeChars set (c :: cs) = encodeChar set c ++ encodeChars set cs :=
  List.flatMap_cons

theorem encodeChar_of_kept {c : Char} (outside : set c = false) (ascii : c.toNat < 0x80) :
    encodeChar set c = [c] := by
  rw [encodeChar, outside, Bool.false_or, decide_eq_false (Nat.not_le.mpr ascii)]
  rfl

theorem encodeChars_of_forall {cs : List Char} (kept : ∀ c ∈ cs, set c = false ∧ c.toNat < 0x80) :
    encodeChars set cs = cs := by
  induction cs with
  | nil => rfl
  | cons c rest inductionHypothesis =>
    rcases kept c List.mem_cons_self with ⟨outside, ascii⟩
    rw [encodeChars_cons, encodeChar_of_kept outside ascii,
      inductionHypothesis fun d member => kept d (List.mem_cons_of_mem c member)]
    rfl

private theorem mem_escape {b : UInt8} {c : Char} (member : c ∈ escape b) : c ∈ marks := by
  have digit : ∀ d < 16, (Nat.digitChar d).toUpper ∈ marks := by decide
  have high : b.toNat / 16 < 16 := Nat.div_lt_of_lt_mul b.toNat_lt
  simp only [escape, List.mem_cons, List.not_mem_nil, or_false] at member
  rcases member with rfl | rfl | rfl
  · decide
  · exact digit _ high
  · exact digit _ (Nat.mod_lt _ (by decide))

/-- What is written is kept from the text or belongs to an escape. -/
theorem kept_or_mark_of_mem_encodeChars {cs : List Char} {c : Char} (member : c ∈ encodeChars set cs) :
    (set c = false ∧ c.toNat < 0x80 ∧ c ∈ cs) ∨ c ∈ marks := by
  rcases List.mem_flatMap.mp member with ⟨d, listed, written⟩
  rw [encodeChar] at written
  split at written
  · rcases List.mem_flatMap.mp written with ⟨b, -, mark⟩
    exact Or.inr (mem_escape mark)
  · rename_i kept
    rw [List.mem_singleton] at written
    subst written
    simp only [Bool.or_eq_true, decide_eq_true_eq, not_or, Bool.not_eq_true, Nat.not_le] at kept
    exact Or.inl ⟨kept.1, kept.2, listed⟩

/-- What a component is written with: what it keeps, and percent signs. -/
theorem of_mem_encodeComponent {s : String} {c : Char} (member : c ∈ (encodeComponent s).toList) :
    c.toNat < 0x80 ∧ (component c = false ∨ c = '%') := by
  rw [encodeComponent, String.toList_ofList] at member
  rcases kept_or_mark_of_mem_encodeChars member with ⟨kept, ascii, -⟩ | mark
  · exact ⟨ascii, Or.inl kept⟩
  · have digits : marks.all (fun d => !component d || d == '%') = true := by decide
    have written := List.all_eq_true.mp digits c mark
    rw [Bool.or_eq_true, Bool.not_eq_true', beq_iff_eq] at written
    exact ⟨ascii_of_mem_marks mark, written⟩

variable (spares : Spares set)

include spares

private theorem outside_of_mem_marks {c : Char} (mark : c ∈ marks) :
    set c = false ∧ c.toNat < 0x80 := by
  have spared := List.all_eq_true.mp spares c mark
  rw [Bool.not_eq_true'] at spared
  exact ⟨spared, ascii_of_mem_marks mark⟩

/-- What is written is ASCII outside of the set, and comes from the text or an escape. -/
theorem of_mem_encodeChars {cs : List Char} {c : Char} (member : c ∈ encodeChars set cs) :
    (set c = false ∧ c.toNat < 0x80) ∧ (c ∈ cs ∨ c ∈ marks) := by
  rcases kept_or_mark_of_mem_encodeChars member with ⟨outside, ascii, listed⟩ | mark
  · exact ⟨⟨outside, ascii⟩, Or.inl listed⟩
  · exact ⟨outside_of_mem_marks spares mark, Or.inr mark⟩

/-- Nothing is escaped twice. -/
theorem encodeChars_encodeChars (cs : List Char) :
    encodeChars set (encodeChars set cs) = encodeChars set cs :=
  encodeChars_of_forall fun _ member => (of_mem_encodeChars spares member).1

end

section

variable {set : Char → Bool}

/-- The bytes that are written for a byte. -/
def escapeByte (set : Char → Bool) (b : UInt8) : Bytes :=
  if set (Char.ofNat b.toNat) || 0x80 ≤ b.toNat then (escape b).map fun c => UInt8.ofNat c.toNat
  else [b]

private theorem flatMap_escape (b : UInt8) :
    (escape b).flatMap String.utf8EncodeChar = (escape b).map fun c => UInt8.ofNat c.toNat :=
  flatMap_utf8EncodeChar_ascii fun _ member => ascii_of_mem_marks (mem_escape member)

private theorem flatMap_encodeChar (c : Char) :
    (encodeChar set c).flatMap String.utf8EncodeChar =
      (String.utf8EncodeChar c).flatMap (escapeByte set) := by
  have bytes : encode (String.ofList [c]) = String.utf8EncodeChar c := by
    rw [encode_ofList, List.flatMap_singleton]
  by_cases ascii : c.toNat < 0x80
  · have number : (UInt8.ofNat c.toNat).toNat = c.toNat :=
      UInt8.toNat_ofNat_of_lt' (Nat.lt_trans ascii (by decide))
    rw [encodeChar, bytes, utf8EncodeChar_ascii ascii, List.flatMap_singleton, List.flatMap_singleton,
      escapeByte, number, Char.ofNat_toNat]
    split
    · exact flatMap_escape _
    · rw [List.flatMap_singleton, utf8EncodeChar_ascii ascii]
  · have escaped : (set c || decide (0x80 ≤ c.toNat)) = true := by
      rw [decide_eq_true (Nat.not_lt.mp ascii), Bool.or_true]
    rw [encodeChar, if_pos escaped, bytes, List.flatMap_assoc]
    refine List.flatMap_congr fun b member => ?_
    have high : 0x80 ≤ b.toNat := high_of_mem_utf8EncodeChar (Nat.not_lt.mp ascii) member
    rw [flatMap_escape, escapeByte, decide_eq_true high, Bool.or_true, if_pos rfl]

/-- Characters are escaped byte for byte. -/
theorem encode_encodeChars (cs : List Char) :
    encode (String.ofList (encodeChars set cs)) =
      (encode (String.ofList cs)).flatMap (escapeByte set) := by
  rw [encode_ofList, encode_ofList, encodeChars, List.flatMap_assoc, List.flatMap_assoc]
  exact List.flatMap_congr fun c _ => flatMap_encodeChar c

/-- Whether the bytes begin with two hexadecimal digits. -/
private def startsWithDigits : Bytes → Bool
  | h :: l :: _ =>
    (hexDigit? (Char.ofNat h.toNat)).isSome && (hexDigit? (Char.ofNat l.toNat)).isSome
  | _ => false

theorem decode_of_ne {b : UInt8} (different : b ≠ 0x25) (rest : Bytes) :
    decode (b :: rest) = b :: decode rest := by
  rw [decode.eq_def]
  exact if_neg different

theorem decode_of_forall {bytes : Bytes} (unescaped : ∀ b ∈ bytes, b ≠ 0x25) : decode bytes = bytes := by
  induction bytes with
  | nil => rfl
  | cons b rest inductionHypothesis =>
    rcases List.forall_mem_cons.mp unescaped with ⟨different, others⟩
    rw [decode_of_ne different, inductionHypothesis others]

/-- A percent sign that no digits follow stands for itself. -/
private theorem decode_percent {rest : Bytes} (bare : startsWithDigits rest = false) :
    decode (0x25 :: rest) = 0x25 :: decode rest := by
  have alone : ∀ b : UInt8, decode [b] = [b] := by
    intro b
    by_cases percent : b = 0x25
    · subst percent
      rfl
    · exact decode_of_ne percent []
  match rest, bare with
  | [], _ => rfl
  | [b], _ =>
    rw [alone b]
    rfl
  | h :: l :: after, bare =>
    rw [decode.eq_def]
    dsimp only
    rw [if_pos rfl]
    split
    · rename_i high low first second
      rw [startsWithDigits, first, second] at bare
      exact absurd bare (by simp)
    · rfl

private theorem mem_marks_of_hexDigit? {c : Char} (digit : (hexDigit? c).isSome = true) : c ∈ marks := by
  have small : c.toNat < 103 := by
    unfold hexDigit? at digit
    split at digit
    · rename_i range
      have greatest : c.toNat ≤ 57 := range.2
      omega
    · split at digit
      · rename_i range
        have greatest : c.toNat ≤ 102 := range.2
        omega
      · split at digit
        · rename_i range
          have greatest : c.toNat ≤ 70 := range.2
          omega
        · exact absurd digit (by decide)
  have listed : ∀ n < 103, (hexDigit? (Char.ofNat n)).isSome = true → Char.ofNat n ∈ marks := by decide
  rcases exists_ofNat_of_lt small with ⟨n, below, rfl⟩
  exact listed n below digit

/-- The digits of an escape are read in capitals. -/
theorem hexDigit?_toUpper {d : Nat} (small : d < 16) :
    hexDigit? (Char.ofNat (UInt8.ofNat (Nat.digitChar d).toUpper.toNat).toNat) = some d := by
  have digits : ∀ d < 16,
      hexDigit? (Char.ofNat (UInt8.ofNat (Nat.digitChar d).toUpper.toNat).toNat) = some d := by decide
  exact digits d small

theorem decode_digits {h l : UInt8} {high low : Nat}
    (first : hexDigit? (Char.ofNat h.toNat) = some high)
    (second : hexDigit? (Char.ofNat l.toNat) = some low) (rest : Bytes) :
    decode (0x25 :: h :: l :: rest) = UInt8.ofNat (high * 16 + low) :: decode rest := by
  rw [decode.eq_def]
  dsimp only
  rw [if_pos rfl, first, second]

/-- An escape stands for its byte. -/
private theorem decode_escape (b : UInt8) (rest : Bytes) :
    decode ((escape b).map (fun c => UInt8.ofNat c.toNat) ++ rest) = b :: decode rest := by
  have high := hexDigit?_toUpper (Nat.div_lt_of_lt_mul b.toNat_lt : b.toNat / 16 < 16)
  have low := hexDigit?_toUpper (Nat.mod_lt b.toNat (by decide) : b.toNat % 16 < 16)
  have value : UInt8.ofNat (b.toNat / 16 * 16 + b.toNat % 16) = b := by
    rw [Nat.div_add_mod', UInt8.ofNat_toNat]
  have digits := decode_digits high low rest
  rwa [value] at digits

variable (spares : Spares set)

include spares

/-- The percent sign and the digits are kept. -/
private theorem escapeByte_of_mark {b : UInt8} (mark : Char.ofNat b.toNat ∈ marks) :
    escapeByte set b = [b] := by
  rcases outside_of_mem_marks spares mark with ⟨outside, ascii⟩
  rw [toNat_ofNat_byte] at ascii
  rw [escapeByte, outside, Bool.false_or, decide_eq_false (Nat.not_le.mpr ascii)]
  rfl

/-- A byte is kept unless it is escaped, behind a percent sign and in place of no digit. -/
private theorem escapeByte_cases (b : UInt8) : escapeByte set b = [b] ∨
    (hexDigit? (Char.ofNat b.toNat)).isSome = false ∧ b ≠ 0x25 ∧
      escapeByte set b = (escape b).map fun c => UInt8.ofNat c.toNat := by
  by_cases digit : (hexDigit? (Char.ofNat b.toNat)).isSome = true
  · exact Or.inl (escapeByte_of_mark spares (mem_marks_of_hexDigit? digit))
  · by_cases percent : b = 0x25
    · subst percent
      exact Or.inl (escapeByte_of_mark spares (by decide))
    · rw [escapeByte]
      split
      · exact Or.inr ⟨Bool.eq_false_iff.mpr digit, percent, rfl⟩
      · exact Or.inl rfl

/-- Digits are found where they were before. -/
private theorem startsWithDigits_flatMap (bytes : Bytes) :
    startsWithDigits (bytes.flatMap (escapeByte set)) = startsWithDigits bytes := by
  match bytes with
  | [] => rfl
  | [b] =>
    rw [List.flatMap_singleton]
    rcases escapeByte_cases spares b with kept | ⟨-, -, escaped⟩
    · rw [kept]
    · rw [escaped]
      rfl
  | h :: l :: after =>
    rw [List.flatMap_cons, List.flatMap_cons]
    rcases escapeByte_cases spares h with first | ⟨first, -, escaped⟩
    · rcases escapeByte_cases spares l with second | ⟨second, -, escaped⟩
      · rw [first, second]
        rfl
      · rw [first, escaped, startsWithDigits, second, Bool.and_false]
        exact Bool.and_false _
    · rw [escaped, startsWithDigits, first, Bool.false_and]
      rfl

private theorem decode_flatMap (bytes : Bytes) :
    decode (bytes.flatMap (escapeByte set)) = decode bytes := by
  induction length : bytes.length using Nat.strongRecOn generalizing bytes with
  | ind count inductionHypothesis =>
    cases bytes with
    | nil => rfl
    | cons b rest =>
      have later : decode (rest.flatMap (escapeByte set)) = decode rest :=
        inductionHypothesis rest.length (length ▸ Nat.lt_succ_self rest.length) rest rfl
      rw [List.flatMap_cons]
      rcases escapeByte_cases spares b with kept | ⟨-, different, escaped⟩
      · rw [kept, List.singleton_append]
        by_cases percent : b = 0x25
        · subst percent
          cases digits : startsWithDigits rest with
          | false =>
            rw [decode_percent ((startsWithDigits_flatMap spares rest).trans digits), later,
              decode_percent digits]
          | true =>
            match rest, digits with
            | h :: l :: after, digits =>
              rcases Bool.and_eq_true_iff.mp digits with ⟨high, low⟩
              rcases Option.isSome_iff_exists.mp high with ⟨first, highValue⟩
              rcases Option.isSome_iff_exists.mp low with ⟨second, lowValue⟩
              have shorter : after.length < count := by
                rw [← length]
                exact Nat.lt_add_of_pos_right (by decide : 0 < 3)
              rw [List.flatMap_cons, List.flatMap_cons,
                escapeByte_of_mark spares (mem_marks_of_hexDigit? high),
                escapeByte_of_mark spares (mem_marks_of_hexDigit? low), List.singleton_append,
                List.singleton_append, decode_digits highValue lowValue,
                inductionHypothesis after.length shorter after rfl, decode_digits highValue lowValue]
        · rw [decode_of_ne percent, later, decode_of_ne percent]
      · rw [escaped, decode_escape, later, decode_of_ne different]

/-- Escaped characters stand for the same bytes. -/
theorem decode_encodeChars (cs : List Char) :
    decode (encode (String.ofList (encodeChars set cs))) = decode (encode (String.ofList cs)) := by
  rw [encode_encodeChars, decode_flatMap spares]

end

end Percent

end Text

end AuthGateway
