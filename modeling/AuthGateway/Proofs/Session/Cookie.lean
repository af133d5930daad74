import AuthGateway.Proofs.Crypto.Gcm
import AuthGateway.Proofs.Session.Framing
import AuthGateway.Proofs.Session.Record

namespace AuthGateway

/-!
# A session comes back from its cookie

A token that was issued for a record is read as that record while it is not too old, and is
refused from then on (`decode_encode`).  The record passes through its JSON text, the cipher, two
layers of Base64 and the frame with the signature; each layer undoes itself for every input, so
nothing is asked of the record, of the name of the cookie or of its keys.
-/

open Text (Bytes)

namespace SessionCookie

variable (cookie : SessionCookie)

private theorem bar_not_mem_second (second : Int) : Token.bar ∉ Text.encode (toString second) := by
  refine Token.bar_not_mem_encode fun c member => ?_
  rcases Text.isDigit_of_mem_toString c member with digit | rfl
  · have range := Char.isDigit_iff_toNat.mp digit
    change 48 ≤ c.toNat ∧ c.toNat ≤ 57 at range
    omega
  · decide

private theorem bar_not_mem_hide (nonce plaintext : Bytes) :
    Token.bar ∉ cookie.hide nonce plaintext :=
  Token.bar_not_mem_encode fun c member =>
    Nat.lt_of_le_of_lt (Token.range_of_mem_encode _ c member).2 (by decide)

/-- The second of issue is digits and a sign, and the hidden record is Base64. -/
theorem bare_issue (now : Int) (nonce : Bytes) (info : Session) : (cookie.issue now nonce info).Bare :=
  ⟨bar_not_mem_second now, bar_not_mem_hide cookie nonce (plaintext info)⟩

/-- The nonce travels in front of what it hides. -/
theorem reveal?_hide {nonce : Bytes} (length : nonce.length = Crypto.Gcm.nonceLength)
    (plaintext : Bytes) : cookie.reveal? (cookie.hide nonce plaintext) = some plaintext := by
  have longer : ¬ (nonce ++ Crypto.Gcm.encrypt cookie.blockKey nonce plaintext).length ≤
      Crypto.Gcm.nonceLength := by
    rw [List.length_append, Crypto.Gcm.length_encrypt, length]
    have positive : 0 < Crypto.Gcm.tagLength := by decide
    omega
  simp only [reveal?, hide, Text.decode?_encode, Text.Base64.decode?_encode Text.Base64.urlSafe_proper,
    Option.bind_eq_bind, Option.bind_some, if_neg longer]
  rw [← length, List.take_left, List.drop_left, Crypto.Gcm.decrypt?_encrypt]

/-- An issued token is accepted unless it is too old. -/
theorem accept?_issue {issued : Int} (low : Text.int64Min ≤ issued) (high : issued ≤ Text.int64Max)
    {nonce : Bytes} (length : nonce.length = Crypto.Gcm.nonceLength) (info : Session) (now : Int) :
    cookie.accept? now (cookie.issue issued nonce info) =
      if cookie.isStale now issued then none else some info := by
  simp only [accept?, issue, Text.decode?_encode, Option.bind_eq_bind, Option.bind_some, ne_eq,
    not_true, if_false, Text.int64?_toString low high, cookie.reveal?_hide length, plaintext,
    Session.parse?_encode_compact]

theorem decode_encode_eq {issued : Int} (low : Text.int64Min ≤ issued) (high : issued ≤ Text.int64Max)
    {nonce : Bytes} (length : nonce.length = Crypto.Gcm.nonceLength) (info : Session) (now : Int) :
    cookie.decode now (cookie.encode issued nonce info) =
      if cookie.isStale now issued then .error .invalidToken else .ok info := by
  rw [decode, encode, Token.parse?_text (cookie.bare_issue issued nonce info), Option.bind_some,
    cookie.accept?_issue low high length]
  cases cookie.isStale now issued with
  | true => rfl
  | false => rfl

theorem isStale_eq_false_iff {now issued : Int} :
    cookie.isStale now issued = false ↔ cookie.maxAge ≤ 0 ∨ now - issued ≤ cookie.maxAge := by
  simp only [isStale, Bool.and_eq_false_iff, decide_eq_false_iff_not, gt_iff_lt]
  omega

/-- A token that is too old stays too old. -/
theorem isStale_mono {now later issued : Int} (after : now ≤ later)
    (stale : cookie.isStale now issued = true) : cookie.isStale later issued = true := by
  simp only [isStale, Bool.and_eq_true, decide_eq_true_eq, gt_iff_lt] at stale ⊢
  omega

/-- An issued token is read as the record it was issued for up to the last second of its age, and
never again after that. -/
theorem decode_encode {issued : Int} (low : Text.int64Min ≤ issued) (high : issued ≤ Text.int64Max)
    {nonce : Bytes} (length : nonce.length = Crypto.Gcm.nonceLength) (info : Session) :
    (∀ now, cookie.decode now (cookie.encode issued nonce info) =
      if cookie.maxAge ≤ 0 ∨ now - issued ≤ cookie.maxAge then .ok info else .error .invalidToken) ∧
    ∀ now later, now ≤ later →
      cookie.decode now (cookie.encode issued nonce info) = .error .invalidToken →
      cookie.decode later (cookie.encode issued nonce info) = .error .invalidToken := by
  have read := cookie.decode_encode_eq low high length info
  constructor
  · intro now
    rw [read]
    by_cases fresh : cookie.isStale now issued = false
    · rw [fresh, if_pos (cookie.isStale_eq_false_iff.mp fresh), if_neg Bool.false_ne_true]
    · rw [if_neg fun young => fresh (cookie.isStale_eq_false_iff.mpr young),
        if_pos (Bool.of_not_eq_false fresh)]
  · intro now later after refused
    rw [read] at refused ⊢
    split at refused
    · rename_i stale
      rw [if_pos (cookie.isStale_mono after stale)]
    · exact absurd refused (by simp)

/-- A cookie that lasts an hour. -/
def hourly : SessionCookie where
  name := "_gateway"
  domain := none
  maxAge := 3600
  hashKey := List.replicate 64 0x5A
  blockKey := List.replicate 32 0xA5

/-- A record with marks of JSON in its texts, whose login was in a leap second. -/
def zoe : Session where
  userType := "ldap"
  username := "Zoë@home"
  account := "zoë"
  uuid := "6f1b\\"
  name := "Zoë \"Z\" Ünal\n"
  groups := .ofList ["ops", "Büro, Haus 2"]
  loginHost := "wiki.home:8443"
  createdAt := {
    date := { year := 2016, month := 12, day := 31 }
    time := { second := 86399, nano := 1500000000 }
    date_legal := by decide
    time_legal := by decide }

theorem decode_encode_hourly :
    let nonce : Bytes := List.replicate 12 7
    hourly.decode 1700003600 (hourly.encode 1700000000 nonce zoe) = .ok zoe ∧
    hourly.decode 1700003601 (hourly.encode 1700000000 nonce zoe) = .error .invalidToken := by
  have read := hourly.decode_encode (show Text.int64Min ≤ 1700000000 by decide)
    (show 1700000000 ≤ Text.int64Max by decide) (show (List.replicate 12 7).length = _ from rfl) zoe
  exact ⟨read.1 1700003600, read.1 1700003601⟩

end SessionCookie

end AuthGateway
