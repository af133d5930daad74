import AuthGateway.Text.Bytes

namespace AuthGateway

namespace Text

/-!
# Texts and their UTF-8 bytes

`decode?` undoes `encode` and accepts nothing else, so distinct texts have distinct bytes.  The
bytes of a text are those of its characters one after the other: a character below 128 is one
byte of the same number, and every other character has bytes of 128 and more only.  A reader that
looks for an ASCII byte therefore never finds it inside another character.
-/

theorem encode_append (s t : String) : encode (s ++ t) = encode s ++ encode t := by
  simp only [encode, String.toByteArray_append, ByteArray.data_append, Array.toList_append]

theorem encode_ofList (cs : List Char) :
    encode (String.ofList cs) = cs.flatMap String.utf8EncodeChar := by
  simp [encode, List.utf8Encode]

/-- The bytes of a text, character by character. -/
theorem encode_eq_flatMap (s : String) : encode s = s.toList.flatMap String.utf8EncodeChar := by
  have bytes := encode_ofList s.toList
  rwa [String.ofList_toList] at bytes

theorem decode?_encode (s : String) : decode? (encode s) = some s := by
  have same : (⟨(encode s).toArray⟩ : ByteArray) = s.toByteArray := by
    simp only [encode, Array.toArray_toList]
  simp only [decode?, String.fromUTF8?, same]
  rw [dif_pos s.isValidUTF8]
  rfl

theorem encode_injective {s t : String} (same : encode s = encode t) : s = t := by
  have read := decode?_encode s
  rw [same, decode?_encode t] at read
  exact (Option.some.inj read).symm

theorem utf8EncodeChar_ascii {c : Char} (ascii : c.toNat < 0x80) :
    String.utf8EncodeChar c = [UInt8.ofNat c.toNat] := by
  have small : c.val.toNat ≤ 127 := Nat.le_of_lt_succ ascii
  simp only [String.utf8EncodeChar, if_pos small]
  rfl

/-- No byte of a character from 128 on is an ASCII byte. -/
theorem high_of_mem_utf8EncodeChar {c : Char} (high : 0x80 ≤ c.toNat) {b : UInt8}
    (member : b ∈ String.utf8EncodeChar c) : 0x80 ≤ b.toNat := by
  have large : ¬ c.val.toNat ≤ 127 := Nat.not_le.mpr high
  simp only [String.utf8EncodeChar, if_neg large] at member
  split at member
  · simp only [List.mem_cons, List.not_mem_nil, or_false] at member
    rcases member with rfl | rfl <;> rw [UInt8.toNat_ofNat'] <;> omega
  · split at member
    · simp only [List.mem_cons, List.not_mem_nil, or_false] at member
      rcases member with rfl | rfl | rfl <;> rw [UInt8.toNat_ofNat'] <;> omega
    · simp only [List.mem_cons, List.not_mem_nil, or_false] at member
      rcases member with rfl | rfl | rfl | rfl <;> rw [UInt8.toNat_ofNat'] <;> omega

/-- Every byte is the number of a character. -/
theorem toNat_ofNat_byte (b : UInt8) : (Char.ofNat b.toNat).toNat = b.toNat := by
  have valid : b.toNat.isValidChar := Or.inl (Nat.lt_trans b.toNat_lt (by decide))
  rw [Char.ofNat, dif_pos valid]
  rfl

/-- A character below a bound is one of those that are counted up to it. -/
theorem exists_ofNat_of_lt {c : Char} {bound : Nat} (small : c.toNat < bound) :
    ∃ n < bound, c = Char.ofNat n :=
  ⟨c.toNat, small, (Char.ofNat_toNat c).symm⟩

/-- Letters and digits of ASCII lie between the digits and the small letters. -/
theorem range_of_isAlphanum {c : Char} (alphanumeric : c.isAlphanum = true) :
    48 ≤ c.toNat ∧ c.toNat ≤ 122 := by
  rcases Bool.or_eq_true_iff.mp alphanumeric with letter | digit
  · rcases Bool.or_eq_true_iff.mp letter with upper | lower
    · have range : 65 ≤ c.toNat ∧ c.toNat ≤ 90 := of_decide_eq_true upper
      omega
    · rcases Bool.and_eq_true_iff.mp lower with ⟨low, high⟩
      have least : 97 ≤ c.toNat := of_decide_eq_true low
      have greatest : c.toNat ≤ 122 := of_decide_eq_true high
      omega
  · have range : 48 ≤ c.toNat ∧ c.toNat ≤ 57 := Char.isDigit_iff_toNat.mp digit
    omega

/-- A text of ASCII characters has one byte for each of them. -/
theorem flatMap_utf8EncodeChar_ascii {cs : List Char} (ascii : ∀ c ∈ cs, c.toNat < 0x80) :
    cs.flatMap String.utf8EncodeChar = cs.map fun c => UInt8.ofNat c.toNat := by
  induction cs with
  | nil => rfl
  | cons c rest inductionHypothesis =>
    rw [List.flatMap_cons, utf8EncodeChar_ascii (ascii c List.mem_cons_self),
      inductionHypothesis fun d member => ascii d (List.mem_cons_of_mem c member)]
    rfl

theorem encode_ascii {s : String} (ascii : ∀ c ∈ s.toList, c.toNat < 0x80) :
    encode s = s.toList.map fun c => UInt8.ofNat c.toNat := by
  rw [encode_eq_flatMap, flatMap_utf8EncodeChar_ascii ascii]

theorem encode_replicate {c : Char} (ascii : c.toNat < 0x80) (count : Nat) :
    encode (String.ofList (List.replicate count c)) = List.replicate count (UInt8.ofNat c.toNat) := by
  rw [encode_ascii, String.toList_ofList, List.map_replicate]
  intro d member
  rw [String.toList_ofList] at member
  rw [List.eq_of_mem_replicate member]
  exact ascii

/-- Bytes that are written for ASCII characters read as these, one by one. -/
theorem latin1_encode {s : String} (ascii : ∀ c ∈ s.toList, c.toNat < 0x80) : latin1 (encode s) = s := by
  have same : ∀ c ∈ s.toList, Char.ofNat (UInt8.ofNat c.toNat).toNat = c := by
    intro c member
    rw [UInt8.toNat_ofNat_of_lt' (Nat.lt_trans (ascii c member) (by decide)), Char.ofNat_toNat]
  rw [latin1, encode_ascii ascii, List.map_map]
  exact (congrArg String.ofList ((List.map_congr_left same).trans (List.map_id _))).trans
    String.ofList_toList

/-- Bytes below 128 are those of the characters as which they read. -/
theorem encode_latin1 {bytes : Bytes} (ascii : ∀ b ∈ bytes, b.toNat < 0x80) :
    encode (latin1 bytes) = bytes := by
  have chars : (latin1 bytes).toList = bytes.map fun b => Char.ofNat b.toNat := String.toList_ofList
  rw [encode_ascii, chars, List.map_map]
  · refine (List.map_congr_left fun b _ => ?_).trans (List.map_id bytes)
    change UInt8.ofNat (Char.ofNat b.toNat).toNat = b
    rw [toNat_ofNat_byte, UInt8.ofNat_toNat]
  · intro c member
    rw [chars] at member
    rcases List.mem_map.mp member with ⟨b, listed, rfl⟩
    rw [toNat_ofNat_byte]
    exact ascii b listed

theorem latin1_append (xs ys : Bytes) : latin1 (xs ++ ys) = latin1 xs ++ latin1 ys := by
  rw [latin1, List.map_append, String.ofList_append]
  rfl

/-- An ASCII byte is in a text just where its character is. -/
theorem ofNat_mem_encode_iff {s : String} {c : Char} (ascii : c.toNat < 0x80) :
    UInt8.ofNat c.toNat ∈ encode s ↔ c ∈ s.toList := by
  rw [encode_eq_flatMap]
  constructor
  · intro member
    rcases List.mem_flatMap.mp member with ⟨d, listed, written⟩
    have small : (UInt8.ofNat c.toNat).toNat = c.toNat :=
      UInt8.toNat_ofNat_of_lt' (Nat.lt_trans ascii (by decide))
    by_cases low : d.toNat < 0x80
    · rw [utf8EncodeChar_ascii low, List.mem_singleton] at written
      have numbers := congrArg UInt8.toNat written
      rw [small, UInt8.toNat_ofNat_of_lt' (Nat.lt_trans low (by decide))] at numbers
      rwa [Char.toNat_inj.mp numbers]
    · have high := high_of_mem_utf8EncodeChar (Nat.not_lt.mp low) written
      rw [small] at high
      exact absurd ascii (Nat.not_lt.mpr high)
  · intro member
    refine List.mem_flatMap.mpr ⟨c, member, ?_⟩
    rw [utf8EncodeChar_ascii ascii]
    exact List.mem_singleton_self _

/-- The bytes of ASCII characters contain an ASCII byte only if they contain its character. -/
theorem mem_toList_of_mem_encode {s : String} (ascii : ∀ c ∈ s.toList, c.toNat < 0x80) {b : UInt8}
    (member : b ∈ encode s) : Char.ofNat b.toNat ∈ s.toList := by
  rw [encode_ascii ascii] at member
  rcases List.mem_map.mp member with ⟨c, listed, rfl⟩
  have bound := ascii c listed
  rw [UInt8.toNat_ofNat_of_lt' (Nat.lt_of_lt_of_le bound (by decide)), Char.ofNat_toNat]
  exact listed

end Text

end AuthGateway
