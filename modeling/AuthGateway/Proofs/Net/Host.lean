import AuthGateway.Net.Url.Parser
import AuthGateway.Proofs.Text.Percent
import AuthGateway.Proofs.Text.Split
import AuthGateway.Proofs.Text.Utf8
import AuthGateway.Text.Lowercase

namespace AuthGateway

namespace Net

/-!
# The host that an address is written with

Behind the scheme of an address stand slashes, perhaps a user with an at sign, the host, perhaps a colon
with the number of a service, and then a path, a query or a fragment.  The host that is read is the one
that is written there (`Url.writesHost_of_parse`).  A host of letters alone is a name, in small letters
(`Url.host?_of_letters`).
-/

namespace Url

/-- The characters of an address that count: no blanks at its end, and no line breaks or tabs. -/
def counted (cs : List Char) : List Char :=
  (cs.reverse.dropWhile (·.toNat ≤ 0x20)).reverse.filter (!isIgnored ·)

theorem parse_eq (scheme : Scheme) (behind : String) :
    parse scheme behind = parseRest scheme ((counted behind.toList).dropWhile isSlash) :=
  rfl

/-- Visible characters count, whatever stands behind them. -/
theorem counted_append {front : List Char} (visible : ∀ c ∈ front, 0x20 < c.toNat) (back : List Char) :
    counted (front ++ back) = front ++ counted back := by
  have last : front.reverse.dropWhile (·.toNat ≤ 0x20) = front.reverse := by
    cases parts : front.reverse with
    | nil => rfl
    | cons c rest =>
      have member : c ∈ front := List.mem_reverse.mp (parts ▸ List.mem_cons_self)
      exact List.dropWhile_cons_of_neg fun blank =>
        Nat.not_le.mpr (visible c member) (of_decide_eq_true blank)
  have kept : front.filter (!isIgnored ·) = front := by
    rw [List.filter_eq_self]
    intro c member
    have large := visible c member
    rw [Bool.not_eq_true']
    refine Bool.eq_false_iff.mpr fun ignored => ?_
    simp only [isIgnored, Bool.or_eq_true, decide_eq_true_eq] at ignored
    rcases ignored with (rfl | rfl) | rfl <;> exact absurd large (by decide)
  rw [counted, List.reverse_append, List.dropWhile_append, last]
  split
  · rename_i empty
    have blank : back.reverse.dropWhile (·.toNat ≤ 0x20) = [] := List.isEmpty_iff.mp empty
    rw [List.reverse_reverse, counted, blank, kept]
    exact (List.append_nil front).symm
  · rw [List.reverse_append, List.reverse_reverse, List.filter_append, kept, counted]

/-- Whether a bracket is open behind the characters. -/
def bracketed (inside : Bool) : List Char → Bool
  | [] => inside
  | c :: rest => bracketed (if c = '[' then true else if c = ']' then false else inside) rest

/-- The parts of an address behind its scheme. -/
structure Parts (slashes user host service rest : List Char) : Prop where
  slashed : ∀ c ∈ slashes, isSlash c = true
  signed : user = [] ∨ ∃ name, user = name ++ ['@']
  numbered : service = [] ∨ bracketed false host = false ∧ ∃ number, service = ':' :: number
  /-- A colon of the host itself is one in brackets. -/
  colons : ∀ front back, host = front ++ ':' :: back → bracketed false front = true
  unsigned : '@' ∉ host ++ service
  inner : ∀ c ∈ user ++ (host ++ service), isAuthorityEnd c = false
  ended : ∀ c, rest.head? = some c → isAuthorityEnd c = true

/-- What stands behind the scheme of an address is written with this host. -/
def WritesHost (behind : String) (host : List Char) : Prop :=
  ∃ slashes user service rest,
    counted behind.toList = slashes ++ (user ++ (host ++ service) ++ rest) ∧
      Parts slashes user host service rest

/-- A split at a colon outside of brackets. -/
private theorem splitService_spec {cs : List Char} :
    ∀ {inside : Bool} {host : List Char} {number : Option (List Char)},
    splitService inside cs = (host, number) →
      cs = host ++ (number.map (':' :: ·)).getD [] ∧
      (number.isSome = true → bracketed inside host = false) ∧
      ∀ front back, host = front ++ ':' :: back → bracketed inside front = true := by
  induction cs with
  | nil =>
    intro inside host number split
    rcases Prod.mk.inj split with ⟨rfl, rfl⟩
    exact ⟨rfl, fun some => absurd some (by simp), fun front back whole => absurd whole (by simp)⟩
  | cons c rest inductionHypothesis =>
    intro inside host number split
    rw [splitService] at split
    split at split
    · rename_i outside
      rcases Prod.mk.inj split with ⟨rfl, rfl⟩
      refine ⟨?_, fun _ => Bool.eq_false_iff.mpr outside.2, fun front back whole => absurd whole (by simp)⟩
      rw [outside.1]
      rfl
    · rename_i inner
      dsimp only at split
      generalize further : splitService _ rest = found at split
      rcases found with ⟨more, number'⟩
      rcases Prod.mk.inj split with ⟨rfl, rfl⟩
      rcases inductionHypothesis further with ⟨whole, closed, colons⟩
      refine ⟨congrArg (c :: ·) whole, closed, fun front back cut => ?_⟩
      cases front with
      | nil =>
        have colon : c = ':' := (List.cons.inj cut).1
        exact Decidable.not_not.mp fun outside => inner ⟨colon, outside⟩
      | cons first others =>
        rcases List.cons.inj cut with ⟨rfl, later⟩
        exact colons others back later

/-- A user part ends at the last at sign, if there is one. -/
private theorem user_spec (authority : List Char) :
    ∃ user, authority = user ++ ((Text.splitLast? '@' authority).getD ([], authority)).2 ∧
      (user = [] ∨ ∃ name, user = name ++ ['@']) ∧
      '@' ∉ ((Text.splitLast? '@' authority).getD ([], authority)).2 := by
  cases cut : Text.splitLast? '@' authority with
  | some parts =>
    rcases parts with ⟨name, behind⟩
    rcases Text.splitLast?_eq_some_iff.mp cut with ⟨unsigned, whole⟩
    refine ⟨name ++ ['@'], ?_, Or.inr ⟨name, rfl⟩, unsigned⟩
    rw [whole, List.append_assoc, List.singleton_append]
    rfl
  | none =>
    exact ⟨[], rfl, Or.inl rfl, Text.splitLast?_eq_none_iff.mp cut⟩

/-- The host is read before the last colon outside of brackets, behind the last at sign. -/
private theorem host?_of_parseRest {scheme : Scheme} {cs : List Char} {u : Url}
    (read : parseRest scheme cs = .ok u) :
    let authority := cs.takeWhile (!isAuthorityEnd ·)
    let behind := ((Text.splitLast? '@' authority).getD ([], authority)).2
    u.scheme = scheme ∧ host? (splitService false behind).1 = .ok u.host := by
  intro authority behind
  simp only [parseRest, bind, Except.bind, pure, Except.pure] at read
  split at read
  · exact absurd read (by simp)
  · rename_i named reads
    split at read
    · split at read
      · exact absurd read (by simp)
      · rw [← Except.ok.inj read]
        exact ⟨rfl, reads⟩
    · rw [← Except.ok.inj read]
      exact ⟨rfl, reads⟩

/-- The host that is read stands where a host is written. -/
private theorem host_of_parseRest {scheme : Scheme} {cs : List Char} {u : Url}
    (read : parseRest scheme cs = .ok u) :
    u.scheme = scheme ∧ ∃ user host service rest, cs = user ++ (host ++ service) ++ rest ∧
      (∀ slashes, (∀ c ∈ slashes, isSlash c = true) → Parts slashes user host service rest) ∧
      host? host = .ok u.host := by
  have inner : ∀ c ∈ cs.takeWhile (!isAuthorityEnd ·), isAuthorityEnd c = false := fun c member =>
    Bool.not_eq_true' _ ▸ List.all_eq_true.mp List.all_takeWhile c member
  have ended : ∀ c, (cs.dropWhile (!isAuthorityEnd ·)).head? = some c → isAuthorityEnd c = true := by
    intro c first
    have kept := List.head?_dropWhile_not (!isAuthorityEnd ·) cs
    rw [first] at kept
    simpa using kept
  have whole : cs = cs.takeWhile (!isAuthorityEnd ·) ++ cs.dropWhile (!isAuthorityEnd ·) :=
    List.takeWhile_append_dropWhile.symm
  rcases host?_of_parseRest read with ⟨same, found⟩
  rcases user_spec (cs.takeWhile (!isAuthorityEnd ·)) with ⟨user, front, signed, unsigned⟩
  generalize split : splitService false _ = pieces at found
  rcases pieces with ⟨host, number⟩
  rcases splitService_spec split with ⟨joined, closed, colons⟩
  rw [joined] at front unsigned
  rw [front] at inner whole
  refine ⟨same, user, host, _, _, whole, fun slashes slashed => ?_, found⟩
  exact {
    slashed := slashed
    signed := signed
    numbered := by
      cases number with
      | none => exact Or.inl rfl
      | some digits => exact Or.inr ⟨closed rfl, digits, rfl⟩
    colons := colons
    unsigned := unsigned
    inner := inner
    ended := ended }

/-- An address that is read has the scheme that it is read with, and the host that is written. -/
theorem writesHost_of_parse {scheme : Scheme} {behind : String} {u : Url}
    (read : parse scheme behind = .ok u) :
    u.scheme = scheme ∧ ∃ host, WritesHost behind host ∧ host? host = .ok u.host := by
  have slashed : ∀ c ∈ (counted behind.toList).takeWhile isSlash, isSlash c = true :=
    fun c member => List.all_eq_true.mp List.all_takeWhile c member
  rcases host_of_parseRest read with ⟨same, user, host, service, rest, whole, parts, found⟩
  refine ⟨same, host, ⟨_, user, service, rest, ?_, parts _ slashed⟩, found⟩
  rw [← whole]
  exact List.takeWhile_append_dropWhile.symm

private theorem splitService_colon {name : List Char} (plain : ∀ c ∈ name, c ≠ ':' ∧ c ≠ '[') :
    splitService false (name ++ [':']) = (name, some []) := by
  induction name with
  | nil => rfl
  | cons c rest inductionHypothesis =>
    rcases List.forall_mem_cons.mp plain with ⟨⟨colon, bracket⟩, others⟩
    have inside : (if c = '[' then true else if c = ']' then false else false) = false := by
      rw [if_neg bracket, ite_self]
    rw [List.cons_append, splitService, if_neg fun outside => colon outside.1]
    dsimp only
    rw [inside, inductionHypothesis others]

/-- A name that a colon and a slash follow is the whole authority, with an empty service. -/
theorem parseRest_colon {scheme : Scheme} {name : List Char}
    (plain : ∀ c ∈ name, isAuthorityEnd c = false ∧ c ≠ '@' ∧ c ≠ ':' ∧ c ≠ '[') (rest : List Char) :
    (parseRest scheme (name ++ ':' :: '/' :: rest)).map (fun u => (u.scheme, u.host, u.service)) =
      (host? name).map fun host => (scheme, host, none) := by
  have inner : ∀ c ∈ name ++ [':'], (!isAuthorityEnd c) = true := by
    intro c member
    rcases List.mem_append.mp member with named | colon
    · rw [(plain c named).1]
      rfl
    · rw [List.mem_singleton.mp colon]
      rfl
  have authority : (name ++ ':' :: '/' :: rest).takeWhile (!isAuthorityEnd ·) = name ++ [':'] := by
    rw [← List.singleton_append, ← List.append_assoc, List.takeWhile_append_of_pos inner,
      List.takeWhile_cons_of_neg (by decide), List.append_nil]
  have unsigned : Text.splitLast? '@' (name ++ [':']) = none := by
    refine Text.splitLast?_eq_none_iff.mpr fun member => ?_
    rcases List.mem_append.mp member with named | colon
    · exact (plain '@' named).2.1 rfl
    · exact absurd (List.mem_singleton.mp colon) (by decide)
  have split : splitService false (name ++ [':']) = (name, some []) :=
    splitService_colon fun c member => (plain c member).2.2
  unfold parseRest
  dsimp only
  rw [authority, unsigned]
  simp only [Option.getD_none, split, bind, Except.bind, pure, Except.pure]
  cases host? name <;> rfl

/-! ### Names of letters -/

/-- What a letter is not. -/
private structure Letter (c : Char) : Prop where
  plain : Idna.isPlain c = true
  legal : Idna.isForbidden c = false
  marks : c ∉ ".-[".toList
  digit : c.isDigit = false
  number : (Text.hexDigit? c).filter (· < 10) = none
  unescaped : UInt8.ofNat c.toNat ≠ 0x25

private theorem lt_of_isAlpha {c : Char} (alpha : c.isAlpha = true) : c.toNat < 123 := by
  have range := Text.range_of_isAlphanum (Bool.or_eq_true_iff.mpr (Or.inl alpha))
  omega

private theorem letter_of_isAlpha {c : Char} (alpha : c.isAlpha = true) : Letter c := by
  have spelled : ∀ n < 123, (Char.ofNat n).isAlpha = true →
      Idna.isPlain (Char.ofNat n) = true ∧ Idna.isForbidden (Char.ofNat n) = false ∧
        Char.ofNat n ∉ ".-[".toList ∧ (Char.ofNat n).isDigit = false ∧
        (Text.hexDigit? (Char.ofNat n)).filter (· < 10) = none ∧
        UInt8.ofNat (Char.ofNat n).toNat ≠ 0x25 := by decide +kernel
  rcases Text.exists_ofNat_of_lt (lt_of_isAlpha alpha) with ⟨n, small, rfl⟩
  rcases spelled n small alpha with ⟨plain, legal, marks, digit, number, unescaped⟩
  exact ⟨plain, legal, marks, digit, number, unescaped⟩

private theorem isAlpha_toLower {c : Char} (alpha : c.isAlpha = true) : c.toLower.isAlpha = true := by
  have spelled : ∀ n < 123, (Char.ofNat n).isAlpha = true → (Char.ofNat n).toLower.isAlpha = true := by
    decide +kernel
  rcases Text.exists_ofNat_of_lt (lt_of_isAlpha alpha) with ⟨n, small, rfl⟩
  exact spelled n small alpha

/-- Letters are no number. -/
private theorem endsInNumber_of_letters {cs : List Char} (letters : ∀ c ∈ cs, c.isAlpha = true)
    (given : cs ≠ []) : endsInNumber cs = false := by
  have whole : Text.splitAll '.' cs = [cs] := Text.splitAll_of_not_mem fun dot =>
    (letter_of_isAlpha (letters '.' dot)).marks (by decide)
  cases cs with
  | nil => exact absurd rfl given
  | cons c rest =>
    have letter := letter_of_isAlpha (letters c List.mem_cons_self)
    have zero : c ≠ '0' := fun same => absurd (same ▸ letter.digit) (by decide)
    have unread : ipv4Number? (c :: rest) = none := by
      unfold ipv4Number?
      dsimp only
      split
      · rfl
      · rename_i same
        exact absurd (List.cons.inj same).1 zero
      · rename_i same
        exact absurd (List.cons.inj same).1 zero
      · rename_i same
        exact absurd (List.cons.inj same).1 zero
      · rw [List.foldlM_cons, letter.number]
        rfl
    unfold endsInNumber
    rw [whole]
    change ((_ && (c :: rest).all Char.isDigit) || (ipv4Number? (c :: rest)).isSome) = false
    rw [unread, List.all_cons, letter.digit, Bool.false_and, Bool.and_false]
    rfl

section

variable {name : String} (letters : ∀ c ∈ name.toList, c.isAlpha = true)

include letters

private theorem toAscii?_of_letters : Idna.toAscii? (Text.encode name) = some (Text.lowerAscii name) := by
  have whole : Text.splitAll '.' name.toList = [name.toList] := Text.splitAll_of_not_mem fun dot =>
    (letter_of_isAlpha (letters '.' dot)).marks (by decide)
  have lowered : ∀ c ∈ name.toList.map Char.toLower, c.isAlpha = true := by
    intro c member
    rcases List.mem_map.mp member with ⟨d, listed, rfl⟩
    exact isAlpha_toLower (letters d listed)
  have unannounced : Idna.isAnnounced name.toList = false := by
    refine Bool.eq_false_iff.mpr fun announced => ?_
    have dash : '-' ∈ name.toList.map Char.toLower :=
      (List.isPrefixOf_iff_prefix.mp announced).subset (by decide)
    exact (letter_of_isAlpha (lowered '-' dash)).marks (by decide)
  have domain : Idna.domain? name.toList = some (name.toList.map Char.toLower) := by
    have plain : name.toList.all Idna.isPlain = true :=
      List.all_eq_true.mpr fun c member => (letter_of_isAlpha (letters c member)).plain
    rw [Idna.domain?, Idna.isPlainDomain, whole, plain, List.any_cons, List.any_nil, unannounced]
    rfl
  have legal : ¬ (name.toList.map Char.toLower).any Idna.isForbidden = true := by
    rw [List.any_eq_true]
    rintro ⟨c, member, forbidden⟩
    rw [(letter_of_isAlpha (lowered c member)).legal] at forbidden
    exact absurd forbidden (by decide)
  simp only [Idna.toAscii?, Text.decode?_encode, Option.bind_eq_bind, Option.bind_some, domain, if_neg legal]
  rfl

/-- A host of letters alone is a name, and its case does not matter. -/
theorem host?_of_letters (given : name ≠ "") :
    host? name.toList = .ok (.domain (Text.lowerAscii name)) := by
  have ascii : ∀ c ∈ name.toList, c.toNat < 0x80 := fun c member =>
    of_decide_eq_true (letter_of_isAlpha (letters c member)).plain
  have unescaped : ∀ b ∈ Text.encode name, b ≠ 0x25 := by
    intro b member
    rw [Text.encode_ascii ascii] at member
    rcases List.mem_map.mp member with ⟨c, listed, rfl⟩
    exact (letter_of_isAlpha (letters c listed)).unescaped
  have lowered : ∀ c ∈ (Text.lowerAscii name).toList, c.isAlpha = true := by
    rw [Text.lowerAscii, String.toList_ofList]
    intro c member
    rcases List.mem_map.mp member with ⟨d, listed, rfl⟩
    exact isAlpha_toLower (letters d listed)
  have nonempty : name.toList ≠ [] := fun empty => given (String.toList_inj.mp empty)
  have filled : (Text.lowerAscii name).toList ≠ [] := by
    rw [Text.lowerAscii, String.toList_ofList]
    exact fun empty => nonempty (List.map_eq_nil_iff.mp empty)
  unfold host?
  split
  · rename_i empty
    exact absurd empty nonempty
  · rename_i bracket
    exact absurd (bracket ▸ List.mem_cons_self : '[' ∈ name.toList) fun member =>
      (letter_of_isAlpha (letters '[' member)).marks (by decide)
  · rw [String.ofList_toList, Text.Percent.decode_of_forall unescaped, toAscii?_of_letters letters]
    dsimp only
    rw [if_neg fun empty => filled (String.toList_inj.mpr empty), endsInNumber_of_letters lowered filled]
    rfl

end

end Url

end Net

end AuthGateway
