import AuthGateway.Net.Url.Parser
import AuthGateway.Proofs.Net.Ip
import AuthGateway.Proofs.Net.Path

namespace AuthGateway

namespace Net

/-!
# Where the authority of an address ends

The authority of a written address ends at the first slash, question mark or number sign.  In an
address that has been read, none of its parts holds one of them: a user part is escaped, a name holds
no character that a domain must not hold, and numbers have none.  So the authority is read back from
the text as it was written, whatever path and query follow (`Url.authorityOf_text`).
-/

private theorem Idna.isForbidden_of_toAscii? {bytes : Text.Bytes} {domain : String}
    (read : Idna.toAscii? bytes = some domain) : ∀ c ∈ domain.toList, Idna.isForbidden c = false := by
  unfold Idna.toAscii? at read
  simp only [Option.bind_eq_bind, Option.bind_eq_some_iff, Option.bind_none] at read
  rcases read with ⟨text, -, ascii, -, made⟩
  split at made
  · exact absurd made (by simp)
  · rename_i clean
    rw [← Option.some.inj made, String.toList_ofList]
    exact fun c member => Bool.eq_false_iff.mpr fun bad =>
      clean (List.any_eq_true.mpr ⟨c, member, bad⟩)

namespace Url

/-- No character of the text ends an authority. -/
def IsInner (s : String) : Prop :=
  s.toList.all (!isAuthorityEnd ·) = true

instance (s : String) : Decidable (IsInner s) :=
  inferInstanceAs (Decidable (_ = true))

theorem isInner_iff {s : String} : IsInner s ↔ ∀ c ∈ s.toList, isAuthorityEnd c = false := by
  simp only [IsInner, List.all_eq_true, Bool.not_eq_true']

theorem IsInner.append {s t : String} (front : IsInner s) (back : IsInner t) : IsInner (s ++ t) := by
  rw [IsInner, String.toList_append, List.all_append, Bool.and_eq_true]
  exact ⟨front, back⟩

/-- A class of characters without the four marks holds none of them. -/
private theorem isInner_of_class (set : Char → Bool) (clear : "/\\?#".toList.all (!set ·) = true)
    {s : String} (inside : ∀ c ∈ s.toList, set c = true) : IsInner s := by
  rw [isInner_iff]
  intro c member
  rw [← Bool.not_eq_true]
  intro ends
  have mark : c ∈ "/\\?#".toList := by
    simp only [isAuthorityEnd, Bool.or_eq_true, decide_eq_true_eq] at ends
    rcases ends with ((rfl | rfl) | rfl) | rfl
    · decide
    · decide
    · decide
    · decide
  have outside := List.all_eq_true.mp clear c mark
  rw [inside c member] at outside
  exact absurd outside Bool.false_ne_true

private theorem isInner_of_isWritten {s : String}
    (written : ∀ c ∈ s.toList, IpAddress.isWritten c = true) : IsInner s :=
  isInner_of_class IpAddress.isWritten (by decide) written

private theorem isInner_of_host? {chars : List Char} {host : Host} (read : host? chars = .ok host) :
    IsInner host.text := by
  unfold host? at read
  split at read
  · exact absurd read (by simp)
  · split at read
    · split at read
      · rw [← Except.ok.inj read]
        have groups := isInner_of_isWritten (IpAddress.isWritten_of_mem_v6Text ‹List Nat›)
        exact ((by decide : IsInner "[").append groups).append (by decide : IsInner "]")
      · exact absurd read (by simp)
    · exact absurd read (by simp)
  · split at read
    · exact absurd read (by simp)
    · rename_i domain found
      split at read
      · exact absurd read (by simp)
      · split at read
        · split at read
          · rw [← Except.ok.inj read]
            exact isInner_of_isWritten (IpAddress.isWritten_of_mem_v4Text _)
          · exact absurd read (by simp)
        · rw [← Except.ok.inj read]
          refine isInner_of_class (!Idna.isForbidden ·) (by decide) fun c member => ?_
          rw [Idna.isForbidden_of_toAscii? found c member]
          rfl

private theorem isInner_encodeChars (cs : List Char) :
    IsInner (String.ofList (Text.Percent.encodeChars Text.Percent.userinfo cs)) := by
  refine isInner_of_class (!Text.Percent.userinfo ·) (by decide) fun c member => ?_
  rw [String.toList_ofList] at member
  rw [(Text.Percent.of_mem_encodeChars Text.Percent.spares_userinfo member).1.1]
  rfl

/-- What is known of an address that has been read. -/
structure Legible (u : Url) : Prop where
  settled : ∀ segment ∈ u.segments, Settled segment.toList
  userinfo : IsInner u.userinfo
  host : IsInner u.host.text

private theorem isInner_userinfo {cs : List Char} {u : Url}
    (read : credentials cs = (u.username, u.password)) : IsInner u.userinfo := by
  have named : ∀ name password : String, IsInner name → IsInner password →
      IsInner (name ++ ":" ++ password ++ "@") := fun name password first second =>
    ((first.append (by decide)).append second).append (by decide)
  have alone : ∀ name : String, IsInner name → IsInner (if name = "" then "" else name ++ "@") := by
    intro name first
    split
    · decide
    · exact first.append (by decide)
  unfold credentials at read
  dsimp only at read
  rw [userinfo]
  split at read
  · rcases Prod.mk.inj read with ⟨username, password⟩
    rw [← username, ← password]
    split
    · rename_i given
      split at given
      · exact absurd given (by simp)
      · rw [← Option.some.inj given]
        exact named _ _ (isInner_encodeChars _) (isInner_encodeChars _)
    · exact alone _ (isInner_encodeChars _)
  · rcases Prod.mk.inj read with ⟨username, password⟩
    rw [← username, ← password]
    exact alone _ (isInner_encodeChars _)

private theorem legible_of_parseRest {scheme : Scheme} {cs : List Char} {u : Url}
    (read : parseRest scheme cs = .ok u) : u.Legible := by
  have legible : ∀ {user chars path : List Char},
      credentials user = (u.username, u.password) → host? chars = .ok u.host →
        segmentsOf path = u.segments → u.Legible := by
    intro user chars path given found cut
    exact {
      settled := fun segment member => settled_segmentsOf path segment (cut ▸ member)
      userinfo := isInner_userinfo given
      host := isInner_of_host? found }
  unfold parseRest at read
  simp only [bind, Except.bind, pure, Except.pure] at read
  split at read
  · exact absurd read (by simp)
  · rename_i host found
    split at read
    · split at read
      · exact absurd read (by simp)
      · have made := Except.ok.inj read
        subst made
        exact legible rfl found rfl
    · have made := Except.ok.inj read
      subst made
      exact legible rfl found rfl

theorem legible_of_parse {scheme : Scheme} {rest : String} {u : Url}
    (read : parse scheme rest = .ok u) : u.Legible :=
  legible_of_parseRest read

/-- The authority as it is written. -/
def authority (u : Url) : String :=
  u.userinfo ++ u.host.text ++
    match u.service with
    | some service => ":" ++ toString service
    | none => ""

/-- What a text says between its scheme and the first slash, question mark or number sign. -/
def authorityOf (s : String) : String :=
  String.ofList (((s.toList.dropWhile (· ≠ ':')).drop 3).takeWhile (!isAuthorityEnd ·))

/-- The authority of an address is what its text says, whatever its path and its query are. -/
theorem authorityOf_text {u : Url} (userinfo : IsInner u.userinfo) (host : IsInner u.host.text)
    (nonempty : u.segments ≠ []) : authorityOf u.text = u.authority := by
  have service : IsInner (match u.service with
      | some service => ":" ++ toString service
      | none => "") := by
    split
    · rename_i number _
      have digits := isInner_of_isWritten (IpAddress.isWritten_of_mem_v4Text [number])
      rw [IpAddress.v4Text, List.map_singleton, String.intercalate_singleton] at digits
      exact (by decide : IsInner ":").append digits
    · decide
  have inner : ∀ c ∈ u.authority.toList, (!isAuthorityEnd c) = true := by
    intro c member
    rw [isInner_iff.mp ((userinfo.append host).append service) c member]
    rfl
  rcases List.exists_cons_of_ne_nil nonempty with ⟨first, others, segments⟩
  have path : ∃ tail, u.path.toList = '/' :: tail := by
    rw [toList_path, segments]
    exact ⟨_, rfl⟩
  rcases path with ⟨tail, path⟩
  have written : ∃ more, u.text.toList =
      u.scheme.text.toList ++ ':' :: '/' :: '/' :: (u.authority.toList ++ '/' :: more) := by
    simp only [text, authority, String.toList_append, path, List.append_assoc, List.cons_append]
    exact ⟨_, rfl⟩
  rcases written with ⟨more, written⟩
  have behind : (u.text.toList.dropWhile (· ≠ ':')).drop 3 = u.authority.toList ++ '/' :: more := by
    rw [written]
    cases u.scheme with
    | http => rfl
    | https => rfl
  rw [authorityOf, behind, List.takeWhile_append_of_pos inner, List.takeWhile_cons_of_neg (by decide),
    List.append_nil, String.ofList_toList]

end Url

end Net

end AuthGateway
