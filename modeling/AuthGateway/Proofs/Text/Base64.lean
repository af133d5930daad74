import AuthGateway.Text.Base64
import Mathlib.Data.List.Nodup

namespace AuthGateway

namespace Text

namespace Base64

/-!
# Base64 has one written form

A form with sixty-four distinct digits, none of them the filling sign, reads back what it writes
(`decodeChars_encodeChars`) and reads nothing else (`encodeChars_of_decodeChars`).  The second half
is what the strictness about padding and unused bits is for: two texts that are read as the same
bytes are the same text.
-/

/-- The alphabet has a character for every six bits, and the filling sign is none of them. -/
structure Form.Proper (form : Form) : Prop where
  length : form.alphabet.length = 64
  distinct : form.alphabet.Nodup
  unfilled : '=' ∉ form.alphabet

theorem urlSafe_proper : urlSafe.Proper where
  length := by decide
  distinct := by decide +kernel
  unfilled := by decide

theorem standard_proper : standard.Proper where
  length := by decide
  distinct := by decide +kernel
  unfilled := by decide

namespace Form

variable {form : Form}

private theorem char_eq_getElem {n : Nat} (inside : n < form.alphabet.length) :
    form.char n = form.alphabet[n] := by
  rw [char, List.getD_eq_getElem?_getD, List.getElem?_eq_getElem inside]
  rfl

theorem char_mem (proper : form.Proper) {n : Nat} (small : n < 64) :
    form.char n ∈ form.alphabet := by
  rw [char_eq_getElem (proper.length ▸ small)]
  exact List.getElem_mem _

theorem value?_char (proper : form.Proper) {n : Nat} (small : n < 64) :
    form.value? (form.char n) = some n := by
  have inside : n < form.alphabet.length := proper.length ▸ small
  refine List.idxOf?_eq_some_iff.mpr ⟨inside, (char_eq_getElem inside).symm, ?_⟩
  intro earlier before same
  rw [char_eq_getElem inside] at same
  exact absurd ((proper.distinct.getElem_inj_iff).mp same) (Nat.ne_of_lt before)

theorem char_of_value? (proper : form.Proper) {c : Char} {n : Nat} (value : form.value? c = some n) :
    n < 64 ∧ form.char n = c := by
  rcases List.idxOf?_eq_some_iff.mp value with ⟨inside, same, -⟩
  exact ⟨proper.length ▸ inside, (char_eq_getElem inside).trans same⟩

private theorem lastOne?_char (proper : form.Proper) (x : UInt8) :
    form.lastOne? (form.char (x.toNat * 16 / 64)) (form.char (x.toNat * 16 % 64)) = some [x] := by
  have bound := x.toNat_lt
  simp only [lastOne?, value?_char proper (show x.toNat * 16 / 64 < 64 by omega),
    value?_char proper (Nat.mod_lt (x.toNat * 16) (show 0 < 64 by decide)), Option.bind_eq_bind,
    Option.bind_some]
  rw [if_pos (by omega), show (x.toNat * 16 / 64 * 64 + x.toNat * 16 % 64) / 16 = x.toNat by omega,
    UInt8.ofNat_toNat]

private theorem toNat_ofNat {n : Nat} (small : n < 256) : (UInt8.ofNat n).toNat = n :=
  UInt8.toNat_ofNat_of_lt' small

private theorem of_lastOne? (proper : form.Proper) {a b : Char} {bytes : Bytes}
    (read : form.lastOne? a b = some bytes) :
    ∃ x : UInt8, bytes = [x] ∧ form.char (x.toNat * 16 / 64) = a
      ∧ form.char (x.toNat * 16 % 64) = b := by
  simp only [lastOne?, Option.bind_eq_bind, Option.bind_eq_some_iff] at read
  rcases read with ⟨p, first, q, second, whole⟩
  rcases char_of_value? proper first with ⟨_, rfl⟩
  rcases char_of_value? proper second with ⟨_, rfl⟩
  split at whole
  · refine ⟨_, (Option.some.inj whole).symm, ?_, ?_⟩ <;>
      exact congrArg form.char (by rw [toNat_ofNat (by omega)]; omega)
  · exact absurd whole (by simp)

private theorem lastTwo?_char (proper : form.Proper) (x y : UInt8) :
    form.lastTwo? (form.char ((x.toNat * 256 + y.toNat) * 4 / 4096))
      (form.char ((x.toNat * 256 + y.toNat) * 4 / 64 % 64))
      (form.char ((x.toNat * 256 + y.toNat) * 4 % 64)) = some [x, y] := by
  have first := x.toNat_lt
  have second := y.toNat_lt
  generalize whole : (x.toNat * 256 + y.toNat) * 4 = n
  simp only [lastTwo?, value?_char proper (show n / 4096 < 64 by omega),
    value?_char proper (Nat.mod_lt _ (show 0 < 64 by decide)), Option.bind_eq_bind,
    Option.bind_some]
  rw [if_pos (by omega),
    show ((n / 4096 * 64 + n / 64 % 64) * 64 + n % 64) / 1024 = x.toNat by omega,
    show ((n / 4096 * 64 + n / 64 % 64) * 64 + n % 64) / 4 % 256 = y.toNat by omega,
    UInt8.ofNat_toNat, UInt8.ofNat_toNat]

private theorem of_lastTwo? (proper : form.Proper) {a b c : Char} {bytes : Bytes}
    (read : form.lastTwo? a b c = some bytes) :
    ∃ x y : UInt8, bytes = [x, y] ∧ form.char ((x.toNat * 256 + y.toNat) * 4 / 4096) = a
      ∧ form.char ((x.toNat * 256 + y.toNat) * 4 / 64 % 64) = b
      ∧ form.char ((x.toNat * 256 + y.toNat) * 4 % 64) = c := by
  simp only [lastTwo?, Option.bind_eq_bind, Option.bind_eq_some_iff] at read
  rcases read with ⟨p, first, q, second, r, third, whole⟩
  rcases char_of_value? proper first with ⟨_, rfl⟩
  rcases char_of_value? proper second with ⟨_, rfl⟩
  rcases char_of_value? proper third with ⟨_, rfl⟩
  split at whole
  · refine ⟨_, _, (Option.some.inj whole).symm, ?_, ?_, ?_⟩ <;>
      exact congrArg form.char
        (by rw [toNat_ofNat (by omega), toNat_ofNat (by omega)]; omega)
  · exact absurd whole (by simp)

private theorem group?_char (proper : form.Proper) (x y z : UInt8) :
    form.group? (form.char (((x.toNat * 256 + y.toNat) * 256 + z.toNat) / 262144))
      (form.char (((x.toNat * 256 + y.toNat) * 256 + z.toNat) / 4096 % 64))
      (form.char (((x.toNat * 256 + y.toNat) * 256 + z.toNat) / 64 % 64))
      (form.char (((x.toNat * 256 + y.toNat) * 256 + z.toNat) % 64)) = some [x, y, z] := by
  have first := x.toNat_lt
  have second := y.toNat_lt
  have third := z.toNat_lt
  generalize whole : (x.toNat * 256 + y.toNat) * 256 + z.toNat = n
  have same : ((n / 262144 * 64 + n / 4096 % 64) * 64 + n / 64 % 64) * 64 + n % 64 = n := by omega
  simp only [group?, value?_char proper (show n / 262144 < 64 by omega),
    value?_char proper (Nat.mod_lt _ (show 0 < 64 by decide)), Option.bind_eq_bind,
    Option.bind_some, same]
  rw [show n / 65536 = x.toNat by omega, show n / 256 % 256 = y.toNat by omega,
    show n % 256 = z.toNat by omega, UInt8.ofNat_toNat, UInt8.ofNat_toNat, UInt8.ofNat_toNat]

private theorem of_group? (proper : form.Proper) {a b c d : Char} {bytes : Bytes}
    (read : form.group? a b c d = some bytes) :
    ∃ x y z : UInt8, bytes = [x, y, z]
      ∧ form.char (((x.toNat * 256 + y.toNat) * 256 + z.toNat) / 262144) = a
      ∧ form.char (((x.toNat * 256 + y.toNat) * 256 + z.toNat) / 4096 % 64) = b
      ∧ form.char (((x.toNat * 256 + y.toNat) * 256 + z.toNat) / 64 % 64) = c
      ∧ form.char (((x.toNat * 256 + y.toNat) * 256 + z.toNat) % 64) = d := by
  simp only [group?, Option.bind_eq_bind, Option.bind_eq_some_iff] at read
  rcases read with ⟨p, first, q, second, r, third, s, fourth, whole⟩
  rcases char_of_value? proper first with ⟨_, rfl⟩
  rcases char_of_value? proper second with ⟨_, rfl⟩
  rcases char_of_value? proper third with ⟨_, rfl⟩
  rcases char_of_value? proper fourth with ⟨_, rfl⟩
  refine ⟨_, _, _, (Option.some.inj whole).symm, ?_, ?_, ?_, ?_⟩ <;>
    exact congrArg form.char
      (by rw [toNat_ofNat (by omega), toNat_ofNat (by omega), toNat_ofNat (by omega)]; omega)

theorem char_ne_fill (proper : form.Proper) {n : Nat} (small : n < 64) : form.char n ≠ '=' :=
  fun same => proper.unfilled (same ▸ char_mem proper small)

/-- A form reads back what it writes. -/
theorem decodeChars_encodeChars (proper : form.Proper) (bytes : Bytes) :
    form.decodeChars (form.encodeChars bytes) = some bytes := by
  fun_induction form.encodeChars bytes with
  | case1 => rfl
  | case2 a n =>
    have last := lastOne?_char proper a
    unfold fill
    split
    · rename_i padded
      simp only [List.replicate, decodeChars, padded, and_self, if_true]
      exact last
    · rename_i bare
      simp only [decodeChars, if_neg bare]
      exact last
  | case3 a b n =>
    have last := lastTwo?_char proper a b
    have unfilled := char_ne_fill proper (Nat.mod_lt n (show 0 < 64 by decide))
    unfold fill
    split
    · rename_i padded
      simp only [List.replicate, decodeChars, padded, and_self, if_true,
        if_neg unfilled]
      exact last
    · rename_i bare
      simp only [decodeChars, if_neg bare]
      exact last
  | case4 a b c rest n inductionHypothesis =>
    have group := group?_char proper a b c
    have unfilled := char_ne_fill proper (Nat.mod_lt n (show 0 < 64 by decide))
    rw [decodeChars, if_neg (fun closed => unfilled closed.2.1), inductionHypothesis]
    simp only [n, group, Option.bind_eq_bind, Option.bind_some]
    rfl

/-- A form reads nothing but what it writes. -/
theorem encodeChars_of_decodeChars (proper : form.Proper) {cs : List Char} {bytes : Bytes}
    (read : form.decodeChars cs = some bytes) : form.encodeChars bytes = cs := by
  fun_induction form.decodeChars cs generalizing bytes with
  | case1 =>
    rw [← Option.some.inj read]
    rfl
  | case2 => exact absurd read (by simp)
  | case3 => exact absurd read (by simp)
  | case4 a b bare =>
    rcases of_lastOne? proper read with ⟨x, rfl, rfl, rfl⟩
    simp only [encodeChars, fill, if_neg bare]
  | case5 => exact absurd read (by simp)
  | case6 a b c bare =>
    rcases of_lastTwo? proper read with ⟨x, y, rfl, rfl, rfl, rfl⟩
    simp only [encodeChars, fill, if_neg bare]
  | case7 a b d rest closed =>
    rcases of_lastOne? proper read with ⟨x, rfl, rfl, rfl⟩
    simp only [encodeChars, fill, if_pos closed.1, List.replicate, closed.2.1, closed.2.2]
  | case8 a b c d rest closed =>
    rcases of_lastTwo? proper read with ⟨x, y, rfl, rfl, rfl, rfl⟩
    simp only [encodeChars, fill, if_pos closed.1, List.replicate, closed.2.1, closed.2.2]
  | case9 a b c d rest inside inductionHypothesis =>
    simp only [Option.bind_eq_bind, Option.bind_eq_some_iff] at read
    rcases read with ⟨head, group, tail, after, whole⟩
    rcases of_group? proper group with ⟨x, y, z, rfl, rfl, rfl, rfl, rfl⟩
    rw [← Option.some.inj whole]
    simp only [List.cons_append, List.nil_append, encodeChars, inductionHypothesis after]

/-- Without filling, only characters of the alphabet are written. -/
theorem mem_alphabet_of_mem_encodeChars (proper : form.Proper) (bare : form.padded = false)
    (bytes : Bytes) : ∀ c ∈ form.encodeChars bytes, c ∈ form.alphabet := by
  have small : ∀ n, n % 64 < 64 := fun n => Nat.mod_lt n (by decide)
  fun_induction form.encodeChars bytes with
  | case1 => exact fun c member => absurd member List.not_mem_nil
  | case2 a n =>
    have bound := a.toNat_lt
    simp only [fill, bare, Bool.false_eq_true, if_false, List.forall_mem_cons]
    exact ⟨char_mem proper (by omega), char_mem proper (small n), by simp⟩
  | case3 a b n =>
    have first := a.toNat_lt
    have second := b.toNat_lt
    simp only [fill, bare, Bool.false_eq_true, if_false, List.forall_mem_cons]
    exact ⟨char_mem proper (by omega), char_mem proper (small _), char_mem proper (small n), by simp⟩
  | case4 a b c rest n inductionHypothesis =>
    have first := a.toNat_lt
    have second := b.toNat_lt
    have third := c.toNat_lt
    simp only [List.forall_mem_cons]
    exact ⟨char_mem proper (by omega), char_mem proper (small _), char_mem proper (small _),
      char_mem proper (small n), inductionHypothesis⟩

end Form

/-- A text of a form spells these bytes exactly if it is what the form writes for them. -/
theorem decode?_eq_some_iff {form : Form} (proper : form.Proper) {s : String} {bytes : Bytes} :
    decode? form s = some bytes ↔ s = encode form bytes := by
  constructor
  · intro read
    rw [encode, Form.encodeChars_of_decodeChars proper read, String.ofList_toList]
  · rintro rfl
    rw [decode?, encode, String.toList_ofList, Form.decodeChars_encodeChars proper]

theorem decode?_encode {form : Form} (proper : form.Proper) (bytes : Bytes) :
    decode? form (encode form bytes) = some bytes :=
  (decode?_eq_some_iff proper).mpr rfl

/-- The web-safe form writes letters, digits, hyphens and low lines. -/
theorem isToken_of_mem_encode_urlSafe (bytes : Bytes) :
    ∀ c ∈ (encode urlSafe bytes).toList, c.isAlphanum ∨ c = '-' ∨ c = '_' := by
  intro c member
  rw [encode, String.toList_ofList] at member
  have listed := Form.mem_alphabet_of_mem_encodeChars urlSafe_proper rfl bytes c member
  have all : (urlSafe.alphabet.all fun d => d.isAlphanum || d == '-' || d == '_') = true := by decide
  have written := List.all_eq_true.mp all c listed
  rw [Bool.or_eq_true, Bool.or_eq_true, beq_iff_eq, beq_iff_eq, or_assoc] at written
  exact written

end Base64

end Text

end AuthGateway
