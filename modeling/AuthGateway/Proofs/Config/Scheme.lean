import AuthGateway.Net.Uri
import AuthGateway.Proofs.Config.Checks
import AuthGateway.Proofs.Net.Host

namespace AuthGateway

/-!
# The scheme of an address

An address that begins with a scheme is read with this scheme, and with the host that is written behind
it, where the scheme is `http` or `https` in small letters.  In any other spelling it is taken for a host:
the address behind `HTTPS://` is forgotten but for its path, and plain HTTP leads to a host `https`
(`BackendConfig.host_of_scheme`).
-/

open Net (Url)

/-- A letter, and then letters, digits, and the three marks that a scheme may hold. -/
structure IsScheme (s : String) : Prop where
  letter : ∃ c rest, s.toList = c :: rest ∧ c.isAlpha = true
  chars : ∀ c ∈ s.toList, Net.Uri.isSchemeChar c = true

/-- What a character of a scheme is not. -/
private structure SchemeChar (c : Char) : Prop where
  visible : 0x20 < c.toNat
  inner : Url.isAuthorityEnd c = false
  marks : c ∉ "@:[/\\".toList

private theorem schemeChar_of_isSchemeChar {c : Char} (legal : Net.Uri.isSchemeChar c = true) :
    SchemeChar c := by
  have spelled : ∀ n < 123, Net.Uri.isSchemeChar (Char.ofNat n) = true →
      0x20 < (Char.ofNat n).toNat ∧ Url.isAuthorityEnd (Char.ofNat n) = false ∧
        Char.ofNat n ∉ "@:[/\\".toList := by decide +kernel
  have small : c.toNat < 123 := by
    unfold Net.Uri.isSchemeChar at legal
    simp only [Bool.or_eq_true, beq_iff_eq] at legal
    rcases legal with ((alphanumeric | rfl) | rfl) | rfl
    · have range := Text.range_of_isAlphanum alphanumeric
      omega
    · decide
    · decide
    · decide
  rcases Text.exists_ofNat_of_lt small with ⟨n, bound, rfl⟩
  rcases spelled n bound legal with ⟨visible, inner, marks⟩
  exact ⟨visible, inner, marks⟩

theorem splitScheme_http (behind : String) :
    splitScheme ("http" ++ "://" ++ behind) = (.http, "//" ++ behind) := by
  have chars : ("http" ++ "://" ++ behind).toList = "http://".toList ++ behind.toList := by
    rw [String.toList_append]
    rfl
  have starts : "http://".toList.isPrefixOf ("http" ++ "://" ++ behind).toList = true := by
    rw [chars]
    exact List.isPrefixOf_iff_prefix.mpr (List.prefix_append _ _)
  have rest : ("http" ++ "://" ++ behind).toList.drop "http:".toList.length = ("//" ++ behind).toList := by
    rw [chars, String.toList_append]
    rfl
  unfold splitScheme
  dsimp only
  rw [if_pos starts, rest, String.ofList_toList]

theorem splitScheme_https (behind : String) :
    splitScheme ("https" ++ "://" ++ behind) = (.https, "//" ++ behind) := by
  have chars : ("https" ++ "://" ++ behind).toList = "https://".toList ++ behind.toList := by
    rw [String.toList_append]
    rfl
  have other : ¬ "http://".toList.isPrefixOf ("https" ++ "://" ++ behind).toList = true := by
    rw [chars]
    exact Bool.eq_false_iff.mp rfl
  have starts : "https://".toList.isPrefixOf ("https" ++ "://" ++ behind).toList = true := by
    rw [chars]
    exact List.isPrefixOf_iff_prefix.mpr (List.prefix_append _ _)
  have rest : ("https" ++ "://" ++ behind).toList.drop "https:".toList.length = ("//" ++ behind).toList := by
    rw [chars, String.toList_append]
    rfl
  unfold splitScheme
  dsimp only
  rw [if_neg other, if_pos starts, rest, String.ofList_toList]

section

variable {scheme : String} (legal : IsScheme scheme) (behind : String)

include legal

/-- The first colon of the address ends its scheme. -/
private theorem eq_of_starts (name : String) (clean : ':' ∉ name.toList)
    (starts : (name.toList ++ "://".toList).isPrefixOf (scheme ++ "://" ++ behind).toList = true) :
    scheme = name := by
  have colonless : ':' ∉ scheme.toList := fun colon =>
    (schemeChar_of_isSchemeChar (legal.chars ':' colon)).marks (by decide)
  have chars : (scheme ++ "://" ++ behind).toList = scheme.toList ++ ':' :: ("//".toList ++ behind.toList) := by
    rw [String.toList_append, String.toList_append, List.append_assoc]
    rfl
  rcases List.isPrefixOf_iff_prefix.mp starts with ⟨rest, whole⟩
  have cut : name.toList ++ ':' :: ("//".toList ++ rest) =
      scheme.toList ++ ':' :: ("//".toList ++ behind.toList) := by
    rw [← chars, ← whole, List.append_assoc]
    rfl
  have parts := (Text.splitOnce?_append clean).symm.trans
    ((congrArg (Text.splitOnce? ':') cut).trans (Text.splitOnce?_append colonless))
  exact String.toList_inj.mp (Prod.mk.inj (Option.some.inj parts)).1.symm

theorem splitScheme_of_ne (plain : scheme ≠ "http") (secure : scheme ≠ "https") :
    splitScheme (scheme ++ "://" ++ behind) = (.http, "//" ++ (scheme ++ "://" ++ behind)) := by
  have http : ¬ "http://".toList.isPrefixOf (scheme ++ "://" ++ behind).toList = true :=
    fun starts => plain (eq_of_starts legal behind "http" (by decide) starts)
  have https : ¬ "https://".toList.isPrefixOf (scheme ++ "://" ++ behind).toList = true :=
    fun starts => secure (eq_of_starts legal behind "https" (by decide) starts)
  unfold splitScheme
  dsimp only
  rw [if_neg http, if_neg https]

/-- Behind the slashes that are put in front stands the scheme. -/
private theorem counted_of_scheme :
    (Url.counted ("//" ++ (scheme ++ "://" ++ behind)).toList).dropWhile Url.isSlash =
      scheme.toList ++ ':' :: '/' :: ('/' :: Url.counted behind.toList) := by
  have chars : ∀ c ∈ scheme.toList, SchemeChar c := fun c member =>
    schemeChar_of_isSchemeChar (legal.chars c member)
  have front : ("//" ++ (scheme ++ "://" ++ behind)).toList =
      ("//".toList ++ scheme.toList ++ "://".toList) ++ behind.toList := by
    simp only [String.toList_append, List.append_assoc]
  have visible : ∀ c ∈ "//".toList ++ scheme.toList ++ "://".toList, 0x20 < c.toNat := by
    have marks : ("//".toList ++ "://".toList).all (fun c => 0x20 < c.toNat) = true := by decide
    intro c member
    rcases List.mem_append.mp member with early | mark
    · rcases List.mem_append.mp early with mark | named
      · exact of_decide_eq_true (List.all_eq_true.mp marks c (List.mem_append_left _ mark))
      · exact (chars c named).visible
    · exact of_decide_eq_true (List.all_eq_true.mp marks c (List.mem_append_right _ mark))
  rcases legal.letter with ⟨c, rest, spelled, -⟩
  have kept : ¬ Url.isSlash c = true := by
    have marks := (chars c (spelled ▸ List.mem_cons_self)).marks
    intro slash
    rcases Bool.or_eq_true_iff.mp slash with same | same
    · exact marks (of_decide_eq_true same ▸ by decide)
    · exact marks (of_decide_eq_true same ▸ by decide)
  rw [front, Url.counted_append visible, List.append_assoc, List.append_assoc,
    List.dropWhile_append_of_pos (List.all_eq_true.mp (by decide)), spelled]
  exact List.dropWhile_cons_of_neg kept

/-- In another spelling, the scheme stands where a host is read. -/
theorem parseAddress_of_ne (plain : scheme ≠ "http") (secure : scheme ≠ "https") :
    (parseAddress (scheme ++ "://" ++ behind)).map (fun u => (u.scheme, u.host, u.service)) =
      (Url.host? scheme.toList).map fun host => (.http, host, none) := by
  rw [parseAddress, splitScheme_of_ne legal behind plain secure]
  dsimp only
  rw [Url.parse_eq, counted_of_scheme legal behind]
  refine Url.parseRest_colon (fun c member => ?_) _
  have spelled : SchemeChar c := schemeChar_of_isSchemeChar (legal.chars c member)
  have marks := spelled.marks
  refine ⟨spelled.inner, ?_, ?_, ?_⟩
  · exact fun same => marks (same ▸ by decide)
  · exact fun same => marks (same ▸ by decide)
  · exact fun same => marks (same ▸ by decide)

end

namespace BackendConfig

private theorem address_ne_empty {b : BackendConfig} {scheme behind : String}
    (written : b.address = scheme ++ "://" ++ behind) : b.address ≠ "" := by
  rw [written]
  intro empty
  have chars := congrArg String.toList empty
  rw [String.toList_append, String.toList_append] at chars
  exact absurd (List.append_eq_nil_iff.mp (List.append_eq_nil_iff.mp chars).1).2 (by decide)

section

variable {b : BackendConfig} {scheme behind : String} (legal : IsScheme scheme)
  (written : b.address = scheme ++ "://" ++ behind)

include legal written

theorem host_of_other_scheme (plain : scheme ≠ "http") (secure : scheme ≠ "https") {backend : Backend}
    (made : b.toBackend = .ok backend) :
    backend.address.scheme = .http ∧ backend.address.service = none ∧
      Url.host? scheme.toList = .ok backend.address.host := by
  have hosted := parseAddress_of_ne legal behind plain secure
  rw [← written, (makes_of_toBackend made).address] at hosted
  cases found : Url.host? scheme.toList with
  | error e =>
    rw [found] at hosted
    exact absurd hosted (by simp [Except.map])
  | ok host =>
    rw [found] at hosted
    rcases Prod.mk.inj (Except.ok.inj hosted) with ⟨same, others⟩
    rcases Prod.mk.inj others with ⟨name, service⟩
    exact ⟨same, service, congrArg Except.ok name.symm⟩

/-- A scheme of letters makes a host that is never refused. -/
theorem exists_backend_of_letters (plain : scheme ≠ "http") (secure : scheme ≠ "https")
    (letters : ∀ c ∈ scheme.toList, c.isAlpha = true) (named : b.host ≠ "")
    (rules : ∀ rule ∈ b.headers, rule.Acceptable) :
    ∃ backend, b.toBackend = .ok backend ∧ backend.address.scheme = .http ∧
      backend.address.host = .domain (Text.lowerAscii scheme) := by
  have spelled : scheme ≠ "" := by
    rcases legal.letter with ⟨c, rest, chars, -⟩
    rintro rfl
    exact absurd chars (by simp)
  have hosted := parseAddress_of_ne legal behind plain secure
  rw [Url.host?_of_letters letters spelled, ← written] at hosted
  cases read : parseAddress b.address with
  | error e =>
    rw [read] at hosted
    exact absurd hosted (by simp [Except.map])
  | ok url =>
    have acceptable : b.Acceptable := {
      host := named
      address := address_ne_empty written
      read := ⟨url, read⟩
      rules := rules }
    rcases b.runs_toBackend.exists_ok_of_passes (passes_checks_iff.mpr acceptable) with
      ⟨backend, made, makes⟩
    have address : url = backend.address := Except.ok.inj (read.symm.trans makes.address)
    rw [read, address] at hosted
    rcases Prod.mk.inj (Except.ok.inj hosted) with ⟨same, others⟩
    exact ⟨backend, made, same, (Prod.mk.inj others).1⟩

end

/-- An address keeps its scheme and its host where the scheme is `http` or `https` as it stands.  Any other
scheme is itself the host of an address of plain HTTP, and one of letters is never refused. -/
theorem host_of_scheme {b : BackendConfig} {scheme behind : String} (legal : IsScheme scheme)
    (written : b.address = scheme ++ "://" ++ behind) :
    (scheme = "http" ∨ scheme = "https" → ∀ backend, b.toBackend = .ok backend →
      backend.address.scheme.text = scheme ∧
      ∃ host, Url.WritesHost ("//" ++ behind) host ∧ Url.host? host = .ok backend.address.host) ∧
    (scheme ≠ "http" → scheme ≠ "https" →
      (∀ backend, b.toBackend = .ok backend →
        backend.address.scheme = .http ∧ backend.address.service = none ∧
        Url.host? scheme.toList = .ok backend.address.host) ∧
      ((∀ c ∈ scheme.toList, c.isAlpha = true) → b.host ≠ "" →
        (∀ rule ∈ b.headers, rule.Acceptable) →
        ∃ backend, b.toBackend = .ok backend ∧ backend.address.scheme = .http ∧
          backend.address.host = .domain (Text.lowerAscii scheme))) := by
  constructor
  · intro known backend made
    have read := (makes_of_toBackend made).address
    rw [written, parseAddress] at read
    rcases known with rfl | rfl
    · rw [splitScheme_http] at read
      rcases Url.writesHost_of_parse read with ⟨same, hosted⟩
      exact ⟨congrArg Net.Scheme.text same, hosted⟩
    · rw [splitScheme_https] at read
      rcases Url.writesHost_of_parse read with ⟨same, hosted⟩
      exact ⟨congrArg Net.Scheme.text same, hosted⟩
  · intro plain secure
    exact ⟨fun _ made => host_of_other_scheme legal written plain secure made,
      exists_backend_of_letters legal written plain secure⟩

/-- A service whose address has a scheme. -/
def schemed (address : String) : BackendConfig where
  host := "wiki.home"
  address := address
  privilege := .internal
  groups := []
  users := []
  headers := []

theorem host_of_https :
    IsScheme "https" ∧ (schemed "https://[::1]:9000/base").address = "https" ++ "://" ++ "[::1]:9000/base" ∧
      ∃ backend, (schemed "https://[::1]:9000/base").toBackend = .ok backend ∧
        backend.address.scheme.text = "https" ∧
        ∃ host, Url.WritesHost "//[::1]:9000/base" host ∧ Url.host? host = .ok backend.address.host := by
  have legal : IsScheme "https" :=
    ⟨⟨'h', "ttps".toList, rfl, by decide⟩, List.all_eq_true.mp (by decide)⟩
  have written : (schemed "https://[::1]:9000/base").address = "https" ++ "://" ++ "[::1]:9000/base" := rfl
  refine ⟨legal, written, _, rfl, ?_⟩
  exact (host_of_scheme legal written).1 (Or.inr rfl) _ rfl

/-- In capitals, the scheme is the host, which plain HTTP leads to. -/
theorem host_of_capital_https :
    IsScheme "HTTPS" ∧ (schemed "HTTPS://wiki.internal/base").address = "HTTPS" ++ "://" ++ "wiki.internal/base" ∧
      ∃ backend, (schemed "HTTPS://wiki.internal/base").toBackend = .ok backend ∧
        backend.address.scheme.text ≠ Text.lowerAscii "HTTPS" ∧
        backend.address.host = .domain "https" := by
  have legal : IsScheme "HTTPS" :=
    ⟨⟨'H', "TTPS".toList, rfl, by decide⟩, List.all_eq_true.mp (by decide)⟩
  have written : (schemed "HTTPS://wiki.internal/base").address = "HTTPS" ++ "://" ++ "wiki.internal/base" :=
    rfl
  rcases exists_backend_of_letters legal written (by decide) (by decide)
    (List.all_eq_true.mp (by decide)) (by decide) (fun rule listed => absurd listed List.not_mem_nil) with
    ⟨backend, made, plain, host⟩
  refine ⟨legal, written, backend, made, ?_, host⟩
  rw [plain]
  decide

end BackendConfig

end AuthGateway
