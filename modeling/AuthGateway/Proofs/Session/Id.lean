import AuthGateway.Proofs.Provider.Known
import AuthGateway.Proofs.Session.Record
import AuthGateway.Proofs.Store.Keys
import AuthGateway.Proofs.Text.Hex
import AuthGateway.Proofs.Text.Utf8

namespace AuthGateway

/-!
# Which sessions share a marker

What is digested into the id of a session is its kind of user, its account, its identifier and the
instant of its login, each closed by a zero byte.  Only the account may hold zeros itself, so the first
part is found from the front and the last two from behind, and whatever is left is the account.  Two
sessions then share their marker only if they come from one login, or if two different runs of bytes have
one digest (`Session.shares_marker_iff`).

That the other parts hold no zeros is not checked where an id is made.  It is so for all users whom the
provider of a configuration knows.
-/

open Crypto (Sha256.digest)

namespace Crypto.Uuid

/-- An identifier is written with hexadecimal digits and dashes. -/
theorem of_mem_ofName {space : Text.Bytes} {name : String} {c : Char}
    (member : c ∈ (ofName space name).toList) : c = '-' ∨ ∃ n < 16, c = Nat.digitChar n := by
  rw [ofName] at member
  rcases Text.of_mem_intercalate member with dash | ⟨group, listed, digit⟩
  · exact Or.inl (List.mem_singleton.mp dash)
  · simp only [List.mem_cons, List.not_mem_nil, or_false] at listed
    rcases listed with rfl | rfl | rfl | rfl | rfl
    all_goals exact Or.inr (Text.of_mem_hex digit)

theorem zero_not_mem_ofName (space : Text.Bytes) (name : String) :
    '\x00' ∉ (ofName space name).toList := by
  have digits : ∀ n < 16, '\x00' ≠ Nat.digitChar n := by decide
  intro member
  rcases of_mem_ofName member with dash | ⟨n, small, digit⟩
  · exact absurd dash (by decide)
  · exact digits n small digit

end Crypto.Uuid

namespace Session

/-- Nothing but the account holds a zero. -/
structure Framed (s : Session) : Prop where
  userType : '\x00' ∉ s.userType.toList
  uuid : '\x00' ∉ s.uuid.toList

/-- The sessions have one user and began at one instant. -/
structure SameLogin (s t : Session) : Prop where
  userType : s.userType = t.userType
  account : s.account = t.account
  uuid : s.uuid = t.uuid
  createdAt : s.createdAt = t.createdAt

theorem SameLogin.idBytes_eq {s t : Session} (same : s.SameLogin t) : s.idBytes = t.idBytes := by
  simp only [idBytes, idParts, same.userType, same.account, same.uuid, same.createdAt]

theorem zero_not_mem_instant (t : Time.Timestamp) :
    '\x00' ∉ (Time.Rfc3339.format .nine .letter t).toList := by
  intro member
  rcases Time.Rfc3339.of_mem_format member with digit | mark
  · exact absurd digit (by decide)
  · exact absurd mark (by decide)

theorem instant_injective {t t' : Time.Timestamp}
    (same : Time.Rfc3339.format .nine .letter t = Time.Rfc3339.format .nine .letter t') : t = t' := by
  have shown : Time.Rfc3339.Fraction.nine ≠ .none := by decide
  have read := Time.Rfc3339.parse?_format shown .letter t
  rw [same, Time.Rfc3339.parse?_format shown] at read
  exact (Option.some.inj read).symm

theorem zero_not_mem_encode {s : String} (clean : '\x00' ∉ s.toList) :
    (0 : UInt8) ∉ Text.encode s := by
  have ascii : '\x00'.toNat < 0x80 := by decide
  exact fun member => clean ((Text.ofNat_mem_encode_iff ascii).mp member)

/-- The parts that are digested are found again. -/
theorem sameLogin_of_idBytes {s t : Session} (framed : s.Framed) (framed' : t.Framed)
    (same : s.idBytes = t.idBytes) : s.SameLogin t := by
  have parts : ∀ s : Session, s.idBytes = Text.encode s.userType ++ 0 :: (((Text.encode s.account ++
      0 :: Text.encode s.uuid) ++ 0 :: Text.encode (Time.Rfc3339.format .nine .letter s.createdAt)) ++
        0 :: []) := by
    intro s
    simp only [idBytes, idParts, List.flatMap_cons, List.flatMap_nil, List.append_assoc,
      List.cons_append, List.nil_append]
  rw [parts, parts] at same
  rcases Text.eq_of_append_first (zero_not_mem_encode framed.userType)
    (zero_not_mem_encode framed'.userType) same with ⟨types, rest⟩
  rcases Text.eq_of_append_last List.not_mem_nil List.not_mem_nil rest with ⟨closed, -⟩
  rcases Text.eq_of_append_last (zero_not_mem_encode (zero_not_mem_instant s.createdAt))
    (zero_not_mem_encode (zero_not_mem_instant t.createdAt)) closed with ⟨users, instants⟩
  rcases Text.eq_of_append_last (zero_not_mem_encode framed.uuid) (zero_not_mem_encode framed'.uuid)
    users with ⟨accounts, identifiers⟩
  exact {
    userType := Text.encode_injective types
    account := Text.encode_injective accounts
    uuid := Text.encode_injective identifiers
    createdAt := instant_injective (Text.encode_injective instants) }

end Session

theorem Identity.Known.framed {user : Identity} (known : user.Known) (username loginHost : String)
    (now : Time.Timestamp) : (Session.ofIdentity user username loginHost now).Framed := by
  have local_clean : '\x00' ∉ LocalUser.userType.toList := by decide
  have directory_clean : '\x00' ∉ Directory.Source.userType.toList := by decide
  cases known with
  | listed user =>
    exact { userType := local_clean, uuid := Crypto.Uuid.zero_not_mem_ofName _ _ }
  | entry source asked entry =>
    exact { userType := directory_clean, uuid := Crypto.Uuid.zero_not_mem_ofName _ _ }

namespace Session

/-- Two sessions of which nothing but the account holds a zero have the same bytes to digest just where
they come from one login.  They share a marker in this case, else only if different bytes have one digest.
Name, groups and host of the login never matter.  The sessions of all users whom a configuration lets in
are such sessions. -/
theorem shares_marker_iff {s t : Session} (framed : s.Framed) (framed' : t.Framed) :
    (s.idBytes = t.idBytes ↔ s.SameLogin t) ∧
    (Marker.key s.id = Marker.key t.id ↔ s.SameLogin t ∨
      (s.idBytes ≠ t.idBytes ∧ Sha256.digest s.idBytes = Sha256.digest t.idBytes)) ∧
    (∀ username name groups loginHost,
      let renamed := { s with username, name, groups, loginHost }
      renamed.idBytes = s.idBytes ∧ Marker.key renamed.id = Marker.key s.id) ∧
    (∀ c service p, Provider.ofConfig c service = .ok p → ∀ question account user,
      (p.answer question account).ending = .value user → ∀ username loginHost now,
        (ofIdentity user username loginHost now).Framed) := by
  have bytes : s.idBytes = t.idBytes ↔ s.SameLogin t :=
    ⟨sameLogin_of_idBytes framed framed', SameLogin.idBytes_eq⟩
  refine ⟨bytes, ?_, fun _ _ _ _ => ⟨rfl, rfl⟩, ?_⟩
  · constructor
    · intro shared
      have digests := Text.hex_injective (Marker.key_injective shared)
      by_cases same : s.idBytes = t.idBytes
      · exact Or.inl (bytes.mp same)
      · exact Or.inr ⟨same, digests⟩
    · rintro (same | ⟨-, digests⟩)
      · rw [id, id, same.idBytes_eq]
      · rw [id, id, digests]
  · intro c service p made question account user answered username loginHost now
    exact (Provider.known_of_answer (Provider.isOwn_of_ofConfig made) answered).framed _ _ _

/-- The zeros of this account are written like those that close a part. -/
def zeroInside : Session :=
  { empty with userType := "local", account := "a\x00b", uuid := "c" }

def zeroBehind : Session :=
  { empty with userType := "local", account := "a\x00b\x00c", uuid := "" }

theorem shares_marker_iff_zeros :
    zeroInside.Framed ∧ zeroBehind.Framed ∧ zeroInside.idBytes ≠ zeroBehind.idBytes ∧
      (Marker.key zeroInside.id = Marker.key zeroBehind.id ↔
        Sha256.digest zeroInside.idBytes = Sha256.digest zeroBehind.idBytes) := by
  have framed : zeroInside.Framed := { userType := by decide, uuid := by decide }
  have framed' : zeroBehind.Framed := { userType := by decide, uuid := by decide }
  have different : ¬ zeroInside.SameLogin zeroBehind := fun same => absurd same.uuid (by decide)
  rcases shares_marker_iff framed framed' with ⟨bytes, marker, -⟩
  have apart : zeroInside.idBytes ≠ zeroBehind.idBytes := fun same => different (bytes.mp same)
  refine ⟨framed, framed', apart, marker.trans ?_⟩
  exact ⟨fun shared => (shared.resolve_left different).2, fun digests => Or.inr ⟨apart, digests⟩⟩

end Session

end AuthGateway
