import AuthGateway.Text.Bytes

namespace AuthGateway

namespace Text

/-!
# Bytes as hexadecimal digits

Each byte is written as two digits and read back from them, so different bytes have different texts.
-/

private theorem hexDigit?_digitChar : ∀ n < 16, hexDigit? (Nat.digitChar n) = some n := by
  decide

theorem unhex?_hex (bytes : Bytes) : unhex? (hex bytes) = some bytes := by
  rw [unhex?, hex, String.toList_ofList]
  induction bytes with
  | nil => rfl
  | cons b rest inductionHypothesis =>
    have high : b.toNat / 16 < 16 := Nat.div_lt_of_lt_mul b.toNat_lt
    have whole : b.toNat / 16 * 16 + b.toNat % 16 = b.toNat := Nat.div_add_mod' b.toNat 16
    rw [List.flatMap_cons, List.cons_append, List.cons_append, List.nil_append, unhexChars,
      hexDigit?_digitChar _ high, hexDigit?_digitChar _ (Nat.mod_lt _ (by decide)),
      inductionHypothesis]
    simp only [Option.bind_eq_bind, Option.bind_some, whole, UInt8.ofNat_toNat]
    rfl

theorem hex_injective {bytes bytes' : Bytes} (same : hex bytes = hex bytes') : bytes = bytes' := by
  have read := unhex?_hex bytes
  rw [same, unhex?_hex] at read
  exact (Option.some.inj read).symm

theorem of_mem_hex {bytes : Bytes} {c : Char} (member : c ∈ (hex bytes).toList) :
    ∃ n < 16, c = Nat.digitChar n := by
  rw [hex, String.toList_ofList] at member
  rcases List.mem_flatMap.mp member with ⟨b, -, digit⟩
  simp only [List.mem_cons, List.not_mem_nil, or_false] at digit
  rcases digit with rfl | rfl
  · exact ⟨_, Nat.div_lt_of_lt_mul b.toNat_lt, rfl⟩
  · exact ⟨_, Nat.mod_lt _ (by decide), rfl⟩

end Text

end AuthGateway
