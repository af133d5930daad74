import AuthGateway.Proofs.Crypto.Sha256
import AuthGateway.Proofs.Session.Cookie

namespace AuthGateway

/-!
# Changed tokens need a signature of their own

An accepted text is the one written form of a token whose signature is the keyed digest of its
name, second of issue and hidden record (`decode_authentic`).  These three are spelled out in what
is digested, so whoever changes an issued token, or brings it under another name, must know the
digest of a text that was never signed for them.
-/

open Text (Bytes)

namespace SessionCookie

variable (cookie : SessionCookie)

/-- The second of issue is a number of 64 bits, no part runs into the next, and the signature is
the whole keyed digest. -/
structure Authentic (token : Token) : Prop where
  second : ∃ text n, Text.decode? token.issued = some text ∧ Text.int64? text = some n
  hidden : ∃ text, Text.decode? token.sealedText = some text
  bare : token.Bare
  signed : token.signature = Crypto.Sha256.hmac cookie.hashKey
    (Token.signedBytes (Text.encode cookie.name) token.issued token.sealedText)
  whole : token.signature.length = 32

theorem authentic_of_accept? {now : Int} {token : Token} {info : Session} (bare : token.Bare)
    (accepted : cookie.accept? now token = some info) : cookie.Authentic token := by
  rw [accept?, Option.bind_eq_bind, Option.bind_eq_some_iff] at accepted
  rcases accepted with ⟨text, second, accepted⟩
  split at accepted
  · exact absurd accepted (by simp)
  · rename_i signed
    rw [Option.bind_eq_bind, Option.bind_eq_some_iff] at accepted
    rcases accepted with ⟨issued, number, accepted⟩
    split at accepted
    · exact absurd accepted (by simp)
    · rw [Option.bind_eq_bind, Option.bind_eq_some_iff] at accepted
      rcases accepted with ⟨record, revealed, -⟩
      rw [reveal?, Option.bind_eq_bind, Option.bind_eq_some_iff] at revealed
      rcases revealed with ⟨hidden, readable, -⟩
      have signature := not_not.mp signed
      exact {
        second := ⟨text, issued, second, number⟩
        hidden := ⟨hidden, readable⟩
        bare := bare
        signed := signature
        whole := signature ▸ Crypto.Sha256.length_hmac cookie.hashKey _ }

/-- A text is read only if it is, white space around it aside, the written form of an authentic
token. -/
theorem authentic_of_decode {now : Int} {text : String} {info : Session}
    (read : cookie.decode now text = .ok info) :
    ∃ token, Token.parse? text = some token ∧ Text.trim text = token.text ∧
      cookie.Authentic token := by
  rw [decode] at read
  split at read
  · rename_i found accepted
    rcases Option.bind_eq_some_iff.mp accepted with ⟨token, parsed, taken⟩
    rcases Token.parse?_eq_some_iff.mp parsed with ⟨bare, written⟩
    exact ⟨token, parsed, written, cookie.authentic_of_accept? bare taken⟩
  · exact absurd read (by simp)

theorem decode_eq_ok_or_invalidToken (now : Int) (text : String) :
    (∃ info, cookie.decode now text = .ok info) ∨ cookie.decode now text = .error .invalidToken := by
  rw [decode]
  split
  · rename_i info _
    exact Or.inl ⟨info, rfl⟩
  · exact Or.inr rfl

/-- The signature of an authentic token is a function of what it signs. -/
theorem Authentic.text_eq {cookie : SessionCookie} {first second : Token}
    (one : cookie.Authentic first) (two : cookie.Authentic second)
    (issued : first.issued = second.issued) (hidden : first.sealedText = second.sealedText) :
    first.text = second.text := by
  have signature : first.signature = second.signature := by
    rw [one.signed, two.signed, issued, hidden]
  rw [Token.text, Token.bytes, issued, hidden, signature]
  rfl

/-- An authentic token that signs what an issued token signs is that token, under that name. -/
theorem Authentic.eq_issue {cookie other : SessionCookie} (sameKey : other.hashKey = cookie.hashKey)
    {token : Token} (authentic : other.Authentic token) {issued : Int} {nonce : Bytes} {info : Session}
    (sameMessage : Token.signedBytes (Text.encode other.name) token.issued token.sealedText =
      Token.signedBytes (Text.encode cookie.name) (cookie.issue issued nonce info).issued
        (cookie.issue issued nonce info).sealedText) :
    token.text = cookie.encode issued nonce info ∧ other.name = cookie.name := by
  rcases Token.signedBytes_injective authentic.bare (cookie.bare_issue issued nonce info) sameMessage
    with ⟨names, seconds, records⟩
  have signature : token.signature = (cookie.issue issued nonce info).signature := by
    rw [authentic.signed, sameKey, sameMessage]
    rfl
  refine ⟨?_, Text.encode_injective names⟩
  rw [encode, Token.text, Token.bytes, seconds, records, signature]
  rfl

/-- A text is read or refused in one way, it is read only as the written form of an authentic token,
and two such texts with the same second of issue and the same hidden record are the same text.  A text
that is accepted in place of an issued one, changed or under another name, carries the keyed digest
of something that was not signed for the issued one. -/
theorem decode_authentic :
    (∀ now text, (∃ info, cookie.decode now text = .ok info) ∨
      cookie.decode now text = .error .invalidToken) ∧
    (∀ now text info, cookie.decode now text = .ok info →
      ∃ token, Token.parse? text = some token ∧ Text.trim text = token.text ∧
        cookie.Authentic token) ∧
    (∀ now now' text text' info info' token token',
      cookie.decode now text = .ok info → cookie.decode now' text' = .ok info' →
      Token.parse? text = some token → Token.parse? text' = some token' →
      token.issued = token'.issued → token.sealedText = token'.sealedText →
      Text.trim text = Text.trim text') ∧
    (∀ (name name' : String) (issued sealedText issued' sealedText' : Bytes),
      Token.bar ∉ issued ∧ Token.bar ∉ sealedText → Token.bar ∉ issued' ∧ Token.bar ∉ sealedText' →
      Token.signedBytes (Text.encode name) issued sealedText =
        Token.signedBytes (Text.encode name') issued' sealedText' →
      name = name' ∧ issued = issued' ∧ sealedText = sealedText') ∧
    ∀ other : SessionCookie, other.hashKey = cookie.hashKey →
      ∀ issued nonce info now text found, other.decode now text = .ok found →
        Text.trim text ≠ cookie.encode issued nonce info ∨ other.name ≠ cookie.name →
        ∃ token, Token.parse? text = some token ∧
          token.signature = Crypto.Sha256.hmac cookie.hashKey
            (Token.signedBytes (Text.encode other.name) token.issued token.sealedText) ∧
          Token.signedBytes (Text.encode other.name) token.issued token.sealedText ≠
            Token.signedBytes (Text.encode cookie.name) (cookie.issue issued nonce info).issued
              (cookie.issue issued nonce info).sealedText := by
  refine ⟨cookie.decode_eq_ok_or_invalidToken, fun now text info => cookie.authentic_of_decode,
    ?_, ?_, ?_⟩
  · intro now now' text text' info info' token token' read read' parsed parsed' seconds records
    rcases cookie.authentic_of_decode read with ⟨first, found, written, authentic⟩
    rcases cookie.authentic_of_decode read' with ⟨second, found', written', authentic'⟩
    have same : first = token := Option.some.inj (found.symm.trans parsed)
    have same' : second = token' := Option.some.inj (found'.symm.trans parsed')
    subst same same'
    rw [written, written', authentic.text_eq authentic' seconds records]
  · intro name name' issued sealedText issued' sealedText' bare bare' same
    rcases Token.signedBytes_injective bare bare' same with ⟨names, seconds, records⟩
    exact ⟨Text.encode_injective names, seconds, records⟩
  · intro other sameKey issued nonce info now text found read changed
    rcases other.authentic_of_decode read with ⟨token, parsed, written, authentic⟩
    refine ⟨token, parsed, sameKey ▸ authentic.signed, fun sameMessage => ?_⟩
    rcases authentic.eq_issue sameKey sameMessage with ⟨sameText, sameName⟩
    rcases changed with otherText | otherName
    · exact otherText (written.trans sameText)
    · exact otherName sameName

/-- A token of the second after is such a text. -/
theorem decode_authentic_hourly :
    let nonce : Bytes := List.replicate 12 7
    let first := hourly.issue 1700000000 nonce Session.empty
    let second := hourly.encode 1700000001 nonce Session.empty
    hourly.decode 1700000002 second = .ok Session.empty ∧ Text.trim second ≠ first.text ∧
      ∃ token, Token.parse? second = some token ∧ hourly.Authentic token ∧
        Token.signedBytes (Text.encode hourly.name) token.issued token.sealedText ≠
          Token.signedBytes (Text.encode hourly.name) first.issued first.sealedText := by
  intro nonce first second
  have read : hourly.decode 1700000002 second = .ok Session.empty :=
    hourly.decode_encode_eq (show Text.int64Min ≤ 1700000001 by decide)
      (show 1700000001 ≤ Text.int64Max by decide) (show nonce.length = _ from rfl) Session.empty
      1700000002
  have later : Text.trim second ≠ first.text := by
    intro same
    have parsed := Token.parse?_text (hourly.bare_issue 1700000000 nonce Session.empty)
    have parsed' := Token.parse?_text (hourly.bare_issue 1700000001 nonce Session.empty)
    have texts : second = first.text := (Token.trim_text _).symm.trans same
    rw [show (hourly.issue 1700000001 nonce Session.empty).text = first.text from texts, parsed] at parsed'
    have seconds := congrArg Token.issued (Option.some.inj parsed')
    exact absurd (Text.encode_injective seconds) (by decide)
  rcases hourly.decode_authentic with ⟨-, accepted, -, -, forged⟩
  rcases accepted 1700000002 second Session.empty read with ⟨token, parsed, -, authentic⟩
  rcases forged hourly rfl 1700000000 nonce Session.empty 1700000002 second Session.empty read
    (Or.inl later) with ⟨token', parsed', -, different⟩
  have same : token = token' := Option.some.inj (parsed.symm.trans parsed')
  exact ⟨read, later, token, parsed, authentic, same ▸ different⟩

end SessionCookie

end AuthGateway
