import AuthGateway.Config.Validation
import AuthGateway.Gateway.Outbound
import AuthGateway.Proofs.Net.Authority
import AuthGateway.Proofs.Net.Trail

namespace AuthGateway

/-!
# The address at a backend

A request is sent to the scheme, the authority and below the path of its backend.  What the client
writes can change neither scheme nor authority, and a path without segments of dots is only escaped
(`Outbound.address_joined`).

Segments of dots are resolved once the paths are joined, not before.  So a request leaves the path of
its backend if its own path leaves more segments than it enters (`Outbound.within_address_iff`).
-/

open Net (Uri Url)

namespace Net.Uri

private theorem path_of_pathAndQuery? {cs : List Char} {path : String} {query : Option String}
    (read : pathAndQuery? cs = some (path, query)) :
    path = String.ofList ((cs.takeWhile (· ≠ '#')).takeWhile (· ≠ '?')) := by
  unfold pathAndQuery? at read
  dsimp only at read
  split at read
  · exact absurd read (by simp)
  · split at read
    · exact (Prod.mk.inj (Option.some.inj read)).1.symm
    · split at read
      · exact (Prod.mk.inj (Option.some.inj read)).1.symm
      · exact absurd read (by simp)

/-- Behind an authority there is no path, or one that starts with a slash. -/
private theorem path_of_authorityEnd (cs : List Char) :
    let path := (((cs.dropWhile (!isAuthorityEnd ·)).takeWhile (· ≠ '#')).takeWhile (· ≠ '?'))
    path = [] ∨ ∃ rest, path = '/' :: rest := by
  cases behind : cs.dropWhile (!isAuthorityEnd ·) with
  | nil => exact Or.inl rfl
  | cons c rest =>
    have ends : isAuthorityEnd c = true := by
      have first := List.head?_dropWhile_not (!isAuthorityEnd ·) cs
      rw [behind, List.head?_cons] at first
      simpa only [Bool.not_eq_false'] using first
    simp only [isAuthorityEnd, Bool.or_eq_true, beq_iff_eq] at ends
    rcases ends with (rfl | rfl) | rfl
    · exact Or.inr ⟨_, rfl⟩
    · exact Or.inl rfl
    · exact Or.inl rfl

/-- A target has no path, the star, or a path that starts with a slash. -/
theorem path_of_parse? {target : String} {uri : Uri} (read : parse? target = some uri) :
    uri.path = "" ∨ uri.path = "*" ∨ ∃ rest, uri.path.toList = '/' :: rest := by
  unfold parse? at read
  split at read
  · exact absurd read (by simp)
  · split at read
    · exact absurd read (by simp)
    · rw [← Option.some.inj read]
      exact Or.inr (Or.inl rfl)
    · rcases Option.map_eq_some_iff.mp read with ⟨⟨path, query⟩, parts, rfl⟩
      rw [path_of_pathAndQuery? parts, String.toList_ofList]
      exact Or.inr (Or.inr ⟨_, rfl⟩)
    · split at read
      · split at read
        · exact absurd read (by simp)
        · rename_i rest _ _
          rcases Option.bind_eq_some_iff.mp read with ⟨authority, -, others⟩
          rcases Option.bind_eq_some_iff.mp others with ⟨⟨path, query⟩, parts, made⟩
          rw [← Option.some.inj made, path_of_pathAndQuery? parts]
          dsimp only
          rcases path_of_authorityEnd rest with nothing | ⟨more, slash⟩
          · rw [nothing]
            exact Or.inr (Or.inr ⟨[], rfl⟩)
          · rw [slash, if_neg (by simp), String.toList_ofList]
            exact Or.inr (Or.inr ⟨more, rfl⟩)
      · rcases Option.map_eq_some_iff.mp read with ⟨authority, -, rfl⟩
        exact Or.inl rfl

end Net.Uri

theorem BackendConfig.legible_of_toBackend {config : BackendConfig} {backend : Backend}
    (made : config.toBackend = .ok backend) : backend.address.Legible := by
  unfold toBackend at made
  split at made
  · exact absurd made (by simp)
  · split at made
    · exact absurd made (by simp)
    · rename_i address read
      split at made
      · exact absurd made (by simp)
      · rw [← Except.ok.inj made]
        rw [parseAddress] at read
        exact Url.legible_of_parse read

namespace Outbound

open Net.Url (Settled pathChars pieces resolve stem Trail)
open Text.Percent (encodeChars)

/-- The segments of a base without the slashes at its end. -/
def root (base : Url) : List (List Char) :=
  stem (base.segments.map String.toList)

variable {base : Url} {uri : Uri}

private theorem segments_eq (base : Url) (uri : Uri) : (address base uri).segments =
    Net.Url.segmentsOf (trimSlashes base.path ++ uri.path).toList := by
  rw [address, Url.withQuery, Url.withPath]

private theorem toList_segments {segments : List (List Char)} :
    (segments.map String.ofList).map String.toList = segments := by
  rw [List.map_map]
  exact (List.map_congr_left fun segment _ => String.toList_ofList).trans (List.map_id segments)

section

variable (settled : ∀ segment ∈ base.segments, Settled segment.toList)

include settled

private theorem settled_root : ∀ segment ∈ root base, Settled segment := by
  intro segment member
  rcases List.mem_map.mp (Net.Url.mem_of_mem_stem member) with ⟨text, listed, rfl⟩
  exact settled text listed

private theorem toList_trimSlashes : (trimSlashes base.path).toList = pathChars (root base) := by
  have free : ∀ segment ∈ base.segments.map String.toList, '/' ∉ segment := by
    intro segment member
    rcases List.mem_map.mp member with ⟨text, listed, rfl⟩
    exact (settled text listed).slash_not_mem
  rw [trimSlashes, String.toList_ofList, Net.Url.toList_path]
  exact Net.Url.pathChars_stem free

/-- Behind a slash the path of the target is resolved from the segments of the base. -/
private theorem segments_address {rest : List Char} (path : uri.path.toList = '/' :: rest) :
    (address base uri).segments.map String.toList = resolve (root base) (pieces rest) := by
  have joined : (trimSlashes base.path ++ uri.path).toList = pathChars (root base) ++ '/' :: rest := by
    rw [String.toList_append, toList_trimSlashes settled, path]
  rw [segments_eq, joined, Net.Url.segmentsOf_pathChars (settled_root settled), toList_segments]

end

/-- The path of the address is that of the base without the slashes at its end, and nothing follows
or something behind a slash. -/
def Within (base address : Url) : Prop :=
  ∃ rest, address.path.toList = (trimSlashes base.path).toList ++ rest ∧ Net.Url.Opens rest

section

variable (settled : ∀ segment ∈ base.segments, Settled segment.toList)

include settled

private theorem within_iff : Within base (address base uri) ↔
    root base <+: (address base uri).segments.map String.toList := by
  have free : ∀ segment ∈ (address base uri).segments.map String.toList, '/' ∉ segment := by
    intro segment member
    rcases List.mem_map.mp member with ⟨text, listed, rfl⟩
    rw [segments_eq] at listed
    exact (Net.Url.settled_segmentsOf _ text listed).slash_not_mem
  rw [Within, toList_trimSlashes settled, Net.Url.toList_path]
  exact Net.Url.prefix_iff_pathChars free fun segment member =>
    (settled_root settled segment member).slash_not_mem

/-- Without a slash the target goes on in the last segment of the base. -/
private theorem segments_address_of_concat {before : List (List Char)} {last behind : List Char}
    (parts : root base = before ++ [last]) (path : uri.path.toList = behind)
    (free : ∀ c ∈ behind, Net.Url.isSlash c = false) :
    (address base uri).segments.map String.toList =
      Net.Url.finish before (encodeChars Text.Percent.path (last ++ behind)) := by
  have joined : (trimSlashes base.path ++ uri.path).toList =
      pathChars before ++ '/' :: (last ++ behind) := by
    rw [String.toList_append, toList_trimSlashes settled, path, parts, pathChars, List.flatMap_append,
      List.flatMap_singleton, List.append_assoc]
    rfl
  have kept := settled_root settled
  rw [parts] at kept
  have single : pieces (last ++ behind) = [last ++ behind] := by
    refine Net.Url.pieces_of_forall fun c member => ?_
    rcases List.mem_append.mp member with early | late
    · exact (kept last (List.mem_append_right before List.mem_cons_self)).slashFree c early
    · exact free c late
  rw [segments_eq, joined,
    Net.Url.segmentsOf_pathChars fun segment member => kept segment (List.mem_append_left [last] member),
    toList_segments, single]
  rfl

private theorem within_of_empty (path : uri.path = "") : Within base (address base uri) := by
  rw [within_iff settled]
  rcases List.eq_nil_or_concat (root base) with empty | ⟨before, last, parts⟩
  · rw [empty]
    exact List.nil_prefix
  · rw [List.concat_eq_append] at parts
    have kept : Settled last :=
      settled_root settled last (parts ▸ List.mem_append_right before List.mem_cons_self)
    rw [segments_address_of_concat settled parts (congrArg String.toList path)
      fun c member => absurd member List.not_mem_nil, parts]
    change before ++ [last] <+: Net.Url.finish before (encodeChars Text.Percent.path (last ++ []))
    have same : Net.Url.finish before (encodeChars Text.Percent.path (last ++ [])) = before ++ [last] := by
      rw [List.append_nil, kept.written, kept.finish_eq]
    exact same ▸ List.prefix_rfl

omit settled in
/-- A star makes dots of nothing. -/
private theorem settled_append_star {segment : List Char} (kept : Settled segment) :
    Settled (segment ++ ['*']) := by
  have other : ∀ word : List Char, word.getLast? ≠ some '*' →
      (segment ++ ['*']).map Char.toLower ≠ word := by
    rintro word ends rfl
    rw [List.map_append, List.map_singleton, List.getLast?_concat] at ends
    exact ends rfl
  constructor
  case slashFree =>
    intro c member
    rcases List.mem_append.mp member with early | late
    · exact kept.slashFree c early
    · rw [List.mem_singleton.mp late]
      rfl
  case notSingle =>
    rw [Net.Url.isSingleDot, decide_eq_false (other _ (by decide)), decide_eq_false (other _ (by decide))]
    rfl
  case notDouble =>
    have words : ∀ word ∈ ["..", ".%2e", "%2e.", "%2e%2e"], word.toList.getLast? ≠ some '*' := by decide
    rw [← Bool.not_eq_true, Net.Url.isDoubleDot]
    intro dots
    refine other _ (words _ (List.contains_iff_mem.mp dots)) ?_
    rw [String.toList_ofList]
  case written =>
    rw [Text.Percent.encodeChars_append, kept.written]
    rfl

private theorem within_star_iff (path : uri.path = "*") :
    Within base (address base uri) ↔ root base = [] := by
  rw [within_iff settled]
  rcases List.eq_nil_or_concat (root base) with empty | ⟨before, last, parts⟩
  · rw [empty]
    exact iff_of_true List.nil_prefix rfl
  · rw [List.concat_eq_append] at parts
    have kept : Settled last :=
      settled_root settled last (parts ▸ List.mem_append_right before List.mem_cons_self)
    have star : Settled (last ++ ['*']) := settled_append_star kept
    have free : ∀ c ∈ ['*'], Net.Url.isSlash c = false := List.forall_mem_singleton.mpr rfl
    rw [segments_address_of_concat settled parts (congrArg String.toList path) free, parts]
    change before ++ [last] <+: Net.Url.finish before (encodeChars Text.Percent.path (last ++ ['*'])) ↔ _
    rw [star.written, star.finish_eq, List.prefix_append_right_inj]
    refine iff_of_false (fun within => ?_) (by simp)
    have same : last = last ++ ['*'] := (List.cons.inj (within.eq_of_length rfl)).1
    exact absurd (congrArg List.length same) (by simp)

end

variable {config : BackendConfig} {backend : Backend}

/-- The path of a request leads from the path of its backend where its own trail does: by so many
segments back, and then into those that it has entered.  So it stays within the path of the backend
just when it enters again what it has left there, and in particular if it leaves nothing.  A target
without a path stays within it, and the star leaves it unless the backend has none. -/
theorem within_address_iff (made : config.toBackend = .ok backend) {target : String}
    (read : Uri.parse? target = some uri) :
    let base := backend.address
    (uri.path = "" ∨ uri.path = "*" ∨ ∃ rest, uri.path.toList = '/' :: rest) ∧
    (uri.path = "" → Within base (address base uri)) ∧
    (uri.path = "*" → (Within base (address base uri) ↔ root base = [])) ∧
    ∀ rest, uri.path.toList = '/' :: rest →
      let trail := Trail.ofChars rest
      (address base uri).segments.map String.toList = trail.kept (root base) ++ trail.entered ∧
      (Within base (address base uri) ↔
        (root base).drop (trail.kept (root base)).length <+: trail.entered) ∧
      (trail.left = 0 → Within base (address base uri)) := by
  intro base
  have settled := (BackendConfig.legible_of_toBackend made).settled
  refine ⟨Net.Uri.path_of_parse? read, within_of_empty settled, within_star_iff settled, ?_⟩
  intro rest path trail
  have led : (address base uri).segments.map String.toList = trail.reach (root base) := by
    rw [segments_address settled path, Net.Url.resolve_pieces]
  have within : Within base (address base uri) ↔
      (root base).drop (trail.kept (root base)).length <+: trail.entered := by
    rw [within_iff settled, led]
    exact Net.Url.prefix_reach_iff (root base) trail
  refine ⟨led, within, fun stays => within.mpr ?_⟩
  have kept : trail.kept (root base) = root base := by
    rw [Trail.kept, stays]
    rfl
  rw [kept, List.drop_length]
  exact List.nil_prefix

/-- A backend below a path of its host. -/
def appConfig : BackendConfig where
  host := "app.example.com"
  address := "http://[::1]:8080/app/"
  privilege := .internal
  groups := []
  users := []
  headers := []

def appBackend : Backend where
  host := "app.example.com"
  address := {
    scheme := .http
    username := ""
    password := none
    host := .ipv6 [0, 0, 0, 0, 0, 0, 0, 1]
    service := some 8080
    segments := ["app", ""]
    query := none
    fragment := none }
  privilege := .internal
  groups := .empty
  users := .empty
  edits := []

theorem toBackend_appConfig : appConfig.toBackend = .ok appBackend := by decide +kernel

/-- A target of a path alone. -/
def pathTarget (path : String) : Uri where
  scheme := none
  authority := none
  path := path
  query := none

theorem within_address_iff_detour :
    Uri.parse? "/a/../../app/b" = some (pathTarget "/a/../../app/b") ∧
      Within appBackend.address (address appBackend.address (pathTarget "/a/../../app/b")) := by
  have read : Uri.parse? "/a/../../app/b" = some (pathTarget "/a/../../app/b") := by decide +kernel
  rcases within_address_iff toBackend_appConfig read with ⟨-, -, -, leads⟩
  rcases leads "a/../../app/b".toList (by decide +kernel) with ⟨-, within, -⟩
  exact ⟨read, within.mpr (by decide +kernel)⟩

theorem not_within_address_dots :
    appConfig.toBackend = .ok appBackend ∧
      Uri.parse? "/../admin" = some (pathTarget "/../admin") ∧
      (address appBackend.address (pathTarget "/../admin")).path = "/admin" ∧
      ¬ Within appBackend.address (address appBackend.address (pathTarget "/../admin")) := by
  refine ⟨toBackend_appConfig, by decide +kernel, by decide +kernel, ?_⟩
  rintro ⟨rest, whole, -⟩
  have inside : (trimSlashes appBackend.address.path).toList <+:
      (address appBackend.address (pathTarget "/../admin")).path.toList := ⟨rest, whole.symm⟩
  exact absurd inside (by decide +kernel)

/-- What a segment of a path stands for is one dot or two. -/
def StandsForDots (segment : List Char) : Prop :=
  Text.Percent.decode (Text.encode (String.ofList segment)) ∈ [Text.encode ".", Text.encode ".."]

instance (segment : List Char) : Decidable (StandsForDots segment) :=
  inferInstanceAs (Decidable (_ ∈ _))

/-- Every part before the path is that of the base. -/
private theorem parts_address (legible : base.Legible) (uri : Uri) :
    (address base uri).scheme = base.scheme ∧ (address base uri).username = base.username ∧
      (address base uri).password = base.password ∧ (address base uri).host = base.host ∧
      (address base uri).service = base.service ∧
      Net.Url.authorityOf (address base uri).text = base.authority := by
  have written : address base uri = { base with
      segments := (address base uri).segments
      query := (address base uri).query } := by
    rw [address, Url.withQuery, Url.withPath]
  have nonempty : (address base uri).segments ≠ [] := by
    rw [segments_eq]
    exact Net.Url.segmentsOf_ne_nil _
  generalize (address base uri).segments = segments at written nonempty
  generalize (address base uri).query = query at written
  rw [written]
  exact ⟨rfl, rfl, rfl, rfl, rfl,
    Net.Url.authorityOf_text legible.userinfo legible.host nonempty⟩

private theorem query_address (base : Url) (uri : Uri) :
    (address base uri).query.isSome = uri.query.isSome ∧
      ∀ query ∈ uri.query, ∃ written ∈ (address base uri).query,
        written = String.ofList (encodeChars Text.Percent.query query.toList) ∧
        Text.Percent.decode (Text.encode written) = Text.Percent.decode (Text.encode query) := by
  have shown : (address base uri).query = uri.query.map fun query =>
      String.ofList (encodeChars Text.Percent.query query.toList) := by
    rw [address, Url.withQuery]
  rw [shown]
  refine ⟨Option.isSome_map, fun query given => ⟨_, Option.mem_map_of_mem _ given, rfl, ?_⟩⟩
  rw [Text.Percent.decode_encodeChars Text.Percent.spares_query, String.ofList_toList]

private theorem path_address (settled : ∀ segment ∈ base.segments, Settled segment.toList)
    {rest : List Char} (path : uri.path.toList = '/' :: rest) (plain : '\\' ∉ rest)
    (clear : ∀ segment ∈ Text.splitAll '/' rest, ¬ StandsForDots segment) :
    (address base uri).path =
        trimSlashes base.path ++ String.ofList (encodeChars Text.Percent.path uri.path.toList) ∧
      Text.Percent.decode (Text.encode (address base uri).path) =
        Text.Percent.decode (Text.encode (trimSlashes base.path ++ uri.path)) := by
  have entered : ∀ segment ∈ Text.splitAll '/' rest,
      Net.Url.isSingleDot (encodeChars Text.Percent.path segment) = false ∧
        Net.Url.isDoubleDot (encodeChars Text.Percent.path segment) = false := by
    intro segment member
    have other := clear segment member
    rw [StandsForDots, ← Text.Percent.decode_encodeChars Text.Percent.spares_path] at other
    constructor
    · rw [← Bool.not_eq_true]
      exact fun dot => other (by rw [Net.Url.decode_of_isSingleDot dot]; exact List.mem_cons_self)
    · rw [← Bool.not_eq_true]
      exact fun dots => other
        (by rw [Net.Url.decode_of_isDoubleDot dots]; exact List.mem_cons_of_mem _ List.mem_cons_self)
  have joined : (address base uri).path.toList =
      pathChars (root base) ++ encodeChars Text.Percent.path ('/' :: rest) := by
    rw [Net.Url.toList_path, segments_address settled path, Net.Url.pieces_eq_splitAll plain,
      Net.Url.resolve_of_forall entered, pathChars, List.flatMap_append]
    exact congrArg (pathChars (root base) ++ ·) (Net.Url.pathChars_splitAll rest)
  have whole : (address base uri).path =
      String.ofList (encodeChars Text.Percent.path (trimSlashes base.path ++ uri.path).toList) := by
    rw [String.toList_append, toList_trimSlashes settled, Text.Percent.encodeChars_append, path,
      Net.Url.encodeChars_pathChars (settled_root settled), ← joined, String.ofList_toList]
  constructor
  · rw [← String.toList_inj, joined, String.toList_append, toList_trimSlashes settled,
      String.toList_ofList, path]
  · rw [whole, Text.Percent.decode_encodeChars Text.Percent.spares_path, String.ofList_toList]

/-- A request is sent to the scheme and the authority of its backend, in the text of the address too.
Its query is sent on, escaped.  So is its path, behind that of the backend, if it starts with a slash
and has no backslash and no segment that stands for dots. -/
theorem address_joined (made : config.toBackend = .ok backend) (uri : Uri) :
    let base := backend.address
    let result := address base uri
    (result.scheme = base.scheme ∧ result.username = base.username ∧ result.password = base.password ∧
      result.host = base.host ∧ result.service = base.service ∧
      Net.Url.authorityOf result.text = base.authority) ∧
    (result.query.isSome = uri.query.isSome ∧ ∀ query ∈ uri.query, ∃ written ∈ result.query,
      written = String.ofList (encodeChars Text.Percent.query query.toList) ∧
      Text.Percent.decode (Text.encode written) = Text.Percent.decode (Text.encode query)) ∧
    ∀ rest, uri.path.toList = '/' :: rest → '\\' ∉ rest →
      (∀ segment ∈ Text.splitAll '/' rest, ¬ StandsForDots segment) →
        result.path =
          trimSlashes base.path ++ String.ofList (encodeChars Text.Percent.path uri.path.toList) ∧
        Text.Percent.decode (Text.encode result.path) =
          Text.Percent.decode (Text.encode (trimSlashes base.path ++ uri.path)) := by
  intro base result
  have legible := BackendConfig.legible_of_toBackend made
  exact ⟨parts_address legible uri, query_address base uri, fun rest =>
    path_address legible.settled⟩

/-- A target that names another host, and whose path starts with two slashes. -/
def foreignTarget : Uri where
  scheme := some "https"
  authority := some "other.example"
  path := "//x/%41\"y"
  query := some "next='//z'"

theorem address_joined_foreignTarget :
    Uri.parse? "https://other.example//x/%41\"y?next='//z'" = some foreignTarget ∧
      (address appBackend.address foreignTarget).host = .ipv6 [0, 0, 0, 0, 0, 0, 0, 1] ∧
      Net.Url.authorityOf (address appBackend.address foreignTarget).text = "[::1]:8080" ∧
      (address appBackend.address foreignTarget).path = "/app//x/%41%22y" := by
  have plain : ∀ segment ∈ Text.splitAll '/' "/x/%41\"y".toList, ¬ StandsForDots segment := by
    decide +kernel
  rcases address_joined toBackend_appConfig foreignTarget with ⟨⟨-, -, -, host, -, authority⟩, -, joins⟩
  rcases joins "/x/%41\"y".toList (by decide +kernel) (by decide +kernel) plain with ⟨path, -⟩
  refine ⟨by decide +kernel, host, authority.trans (by decide +kernel), path.trans (by decide +kernel)⟩

end Outbound

end AuthGateway
