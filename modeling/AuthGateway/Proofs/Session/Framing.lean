import AuthGateway.Proofs.Text.Base64
import AuthGateway.Proofs.Text.Blank
import AuthGateway.Proofs.Text.Integer
import AuthGateway.Proofs.Text.Split
import AuthGateway.Proofs.Text.Utf8
import AuthGateway.Session.Cookie

namespace AuthGateway

/-!
# How a token is framed

A bar closes the second of issue and the hidden record, and neither of them holds one.  So a token
has exactly one written form, although its signature may hold any number of bars, and what is
signed spells out its three parts although the name of the cookie may hold some.
-/

open Text (Bytes)

namespace Token

/-- Neither of the closed parts holds a bar. -/
def Bare (token : Token) : Prop :=
  bar ∉ token.issued ∧ bar ∉ token.sealedText

theorem ofBytes?_eq_some_iff {raw : Bytes} {token : Token} :
    ofBytes? raw = some token ↔ token.Bare ∧ raw = token.bytes := by
  unfold ofBytes?
  constructor
  · intro found
    split at found
    · rename_i issued sealedText signature parts
      rcases Text.splitAtMost_two_eq_iff.mp parts with ⟨first, second, whole⟩
      rw [← Option.some.inj found]
      exact ⟨⟨first, second⟩, whole⟩
    · exact absurd found (by simp)
  · rintro ⟨⟨first, second⟩, whole⟩
    have parts : Text.splitAtMost bar 2 raw = [token.issued, token.sealedText, token.signature] :=
      Text.splitAtMost_two_eq_iff.mpr ⟨first, second, whole⟩
    rw [parts]

/-- A text spells one token at most, and all that may vary is the white space around it. -/
theorem parse?_eq_some_iff {s : String} {token : Token} :
    parse? s = some token ↔ token.Bare ∧ Text.trim s = token.text := by
  rw [parse?, Option.bind_eq_some_iff]
  constructor
  · rintro ⟨raw, read, cut⟩
    rcases ofBytes?_eq_some_iff.mp cut with ⟨bare, rfl⟩
    exact ⟨bare, (Text.Base64.decode?_eq_some_iff Text.Base64.urlSafe_proper).mp read⟩
  · rintro ⟨bare, written⟩
    exact ⟨token.bytes, (Text.Base64.decode?_eq_some_iff Text.Base64.urlSafe_proper).mpr written,
      ofBytes?_eq_some_iff.mpr ⟨bare, rfl⟩⟩

/-- The characters of web-safe Base64 lie before the bar and after the blanks of ASCII. -/
theorem range_of_mem_encode (bytes : Bytes) :
    ∀ c ∈ (Text.Base64.encode Text.Base64.urlSafe bytes).toList, 45 ≤ c.toNat ∧ c.toNat ≤ 122 := by
  intro c member
  rcases Text.Base64.isToken_of_mem_encode_urlSafe bytes c member with alphanumeric | rfl | rfl
  · exact ⟨Nat.le_trans (by decide) (Text.range_of_isAlphanum alphanumeric).1,
      (Text.range_of_isAlphanum alphanumeric).2⟩
  · decide
  · decide

/-- A text of characters before the bar has no bar in its bytes. -/
theorem bar_not_mem_encode {s : String} (before : ∀ c ∈ s.toList, c.toNat < 0x7C) :
    bar ∉ Text.encode s := by
  intro member
  have ascii : ∀ c ∈ s.toList, c.toNat < 0x80 := fun c listed => Nat.lt_trans (before c listed) (by decide)
  exact absurd (before _ (Text.mem_toList_of_mem_encode ascii member)) (by decide)

theorem trim_text (token : Token) : Text.trim token.text = token.text := by
  refine Text.trim_of_forall fun c member => ?_
  have range := range_of_mem_encode token.bytes c member
  simp only [Text.isBlank, Bool.or_eq_false_iff, Bool.and_eq_false_iff, decide_eq_false_iff_not,
    beq_eq_false_iff_ne]
  omega

/-- A token is read back from its text. -/
theorem parse?_text {token : Token} (bare : token.Bare) : parse? token.text = some token :=
  parse?_eq_some_iff.mpr ⟨bare, token.trim_text⟩

/-- What is signed tells name, second of issue and hidden record apart. -/
theorem signedBytes_injective {name issued sealedText name' issued' sealedText' : Bytes}
    (bare : bar ∉ issued ∧ bar ∉ sealedText) (bare' : bar ∉ issued' ∧ bar ∉ sealedText')
    (same : signedBytes name issued sealedText = signedBytes name' issued' sealedText') :
    name = name' ∧ issued = issued' ∧ sealedText = sealedText' := by
  -- The name may hold bars, so the parts are cut off from behind.
  have regrouped : (name ++ bar :: issued) ++ bar :: sealedText =
      (name' ++ bar :: issued') ++ bar :: sealedText' := by
    simpa only [signedBytes, List.append_assoc, List.cons_append] using same
  rcases Text.eq_of_append_last bare.2 bare'.2 regrouped with ⟨fronts, sealedTexts⟩
  rcases Text.eq_of_append_last bare.1 bare'.1 fronts with ⟨names, issues⟩
  exact ⟨names, issues, sealedTexts⟩

end Token

end AuthGateway
