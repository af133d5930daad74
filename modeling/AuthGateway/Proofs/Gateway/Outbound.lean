import AuthGateway.Gateway.Inbound
import AuthGateway.Gateway.Outbound
import AuthGateway.Proofs.Net.Header
import AuthGateway.Proofs.Net.HeaderMap
import AuthGateway.Proofs.Net.Ip
import AuthGateway.Proofs.Text.Blank
import AuthGateway.Proofs.Text.Split

namespace AuthGateway

/-!
# The headers that a backend gets

Whatever a client has sent, the headers that are sent on are known name by name
(`Outbound.headers_by_name`).  The last rule of the backend for a name decides.  Without a rule the
identity is that of the gateway, the client ends the list of hops, the headers of the connection are
gone, and all others are those of the client.

The edits are made one after the other on the whole map.  Each of them is seen through the values of
one name, so that their order matters only where two of them name the same header.
-/

open Net (HeaderMap HeaderName HeaderValue IpAddress SocketAddress)

namespace Inbound

/-- One entry of a list in a header. -/
structure IsEntry (entry : String) : Prop where
  shown : ∀ c ∈ entry.toList, Net.isShown c = true
  single : ',' ∉ entry.toList
  trimmed : Text.trim entry = entry

private theorem isEntry_text (address : IpAddress) : IsEntry address.text where
  shown := by
    intro c member
    have range := address.range_of_mem_text c member
    simp only [Net.isShown, Bool.or_eq_true, Bool.and_eq_true, decide_eq_true_eq]
    omega
  single := fun member => absurd (address.range_of_mem_text _ member) (by decide)
  trimmed := by
    refine Text.trim_of_forall fun c member => ?_
    have range := address.range_of_mem_text c member
    simp only [Text.isBlank, Bool.or_eq_false_iff, Bool.and_eq_false_iff, decide_eq_false_iff_not,
      beq_eq_false_iff_ne]
    omega

private theorem isEntry_namedClient (headers : HeaderMap) (name : HeaderName) :
    IsEntry (namedClient headers name) := by
  unfold namedClient
  split
  · rename_i value read
    rcases List.exists_cons_of_ne_nil (Text.splitAll_ne_nil ',' value.toList) with ⟨first, rest, cut⟩
    have part : first ∈ Text.splitAll ',' value.toList := cut ▸ List.mem_cons_self
    rcases Text.of_mem_splitAll part with ⟨single, inside⟩
    have kept : ∀ c ∈ (Text.trim (String.ofList first)).toList, c ∈ first := by
      intro c member
      have listed := Text.mem_of_mem_trim member
      rwa [String.toList_ofList] at listed
    rw [Text.parts, cut, List.map_cons, List.headD_cons]
    exact {
      shown := fun c member => HeaderMap.isShown_of_text? read c (inside c (kept c member))
      single := fun member => single (kept _ member)
      trimmed := Text.trim_trim _ }
  · exact { shown := by simp, single := by simp, trimmed := rfl }

/-- The address of a client is one entry, however it is found. -/
theorem isEntry_clientIp (headers : HeaderMap) (header : Option HeaderName)
    (remote : Option SocketAddress) : IsEntry (clientIp headers header remote) := by
  have dash : IsEntry "-" :=
    { shown := List.all_eq_true.mp (by decide), single := by decide, trimmed := by decide }
  have far : IsEntry (clientIp headers none remote) := by
    cases remote with
    | some address => exact isEntry_text address.ip
    | none => exact dash
  cases header with
  | none => exact far
  | some name =>
    unfold clientIp
    dsimp only
    split
    · exact isEntry_namedClient headers name
    · exact far

end Inbound

/-- A rule replaces the values of its header and leaves all other headers alone. -/
theorem HeaderEdit.getAll_apply (headers : HeaderMap) (rule : HeaderEdit) (name : HeaderName) :
    (HeaderEdit.apply headers rule).getAll name =
      if rule.name = name then rule.value.toList else headers.getAll name := by
  unfold apply
  split
  · rename_i value given
    rw [HeaderMap.getAll_insert, given]
    rfl
  · rename_i removed
    rw [HeaderMap.getAll_remove, removed]
    rfl

namespace Backend

/-- The last rule of a backend for a header, if it has one. -/
def ruleFor? (b : Backend) (name : HeaderName) : Option HeaderEdit :=
  b.edits.reverse.find? (·.name = name)

/-- Of several rules for one header the last one decides. -/
theorem getAll_applyEdits (b : Backend) (headers : HeaderMap) (name : HeaderName) :
    (b.applyEdits headers).getAll name =
      match b.ruleFor? name with
      | some rule => rule.value.toList
      | none => headers.getAll name := by
  rw [applyEdits, ruleFor?]
  induction b.edits generalizing headers with
  | nil => rfl
  | cons rule rest inductionHypothesis =>
    rw [List.foldl_cons, inductionHypothesis, List.reverse_cons, List.find?_append]
    cases rest.reverse.find? (·.name = name) with
    | some later => rfl
    | none =>
      rw [HeaderEdit.getAll_apply, Option.none_or, List.find?_singleton]
      by_cases named : rule.name = name
      · simp only [named, decide_true, if_true]
      · simp only [named, decide_false, if_false, Bool.false_eq_true]

/-- Without a rule for a header all of them leave it alone. -/
theorem getAll_applyEdits_of_unruled {b : Backend} {name : HeaderName} (unruled : b.ruleFor? name = none)
    (headers : HeaderMap) : (b.applyEdits headers).getAll name = headers.getAll name := by
  rw [getAll_applyEdits, unruled]

end Backend

namespace Outbound

variable {headers : HeaderMap} {clientIp : String} {name : HeaderName} {upgrade : Bool}

/-- A header that is never passed on: it belongs to the connection, or is made anew. -/
def IsDropped (upgrade : Bool) (name : HeaderName) : Prop :=
  name = .host ∨ name = .contentLength ∨
    name ∈ connectionHeaders ∧ ¬ (upgrade = true ∧ (name = .connection ∨ name = .upgrade))

instance (upgrade : Bool) (name : HeaderName) : Decidable (IsDropped upgrade name) :=
  inferInstanceAs (Decidable (_ ∨ _))

private theorem mem_removedHeaders_iff : name ∈ removedHeaders upgrade ↔
    name ∈ connectionHeaders ∧ ¬ (upgrade = true ∧ (name = .connection ∨ name = .upgrade)) := by
  cases upgrade with
  | false => simp [removedHeaders]
  | true => simp [removedHeaders]

private theorem getAll_strip (headers : HeaderMap) :
    (IsDropped upgrade name →
      (strip upgrade ((headers.remove .host).remove .contentLength)).getAll name = []) ∧
    (¬ IsDropped upgrade name →
      (strip upgrade ((headers.remove .host).remove .contentLength)).getAll name =
        headers.getAll name) := by
  rw [strip, HeaderMap.getAll_foldl_remove, HeaderMap.getAll_remove, HeaderMap.getAll_remove,
    IsDropped, ← mem_removedHeaders_iff]
  constructor
  · intro dropped
    split
    · rfl
    · rename_i kept
      rcases dropped with rfl | rfl | removed
      · rw [if_neg (by decide), if_pos rfl]
      · rw [if_pos rfl]
      · exact absurd removed kept
  · intro kept
    rw [if_neg fun removed => kept (Or.inr (Or.inr removed)),
      if_neg fun length => kept (Or.inr (Or.inl length.symm)),
      if_neg fun host => kept (Or.inl host.symm)]

section

variable (entry : Inbound.IsEntry clientIp)

include entry

private theorem isShown_of_mem_hops : ∀ c ∈ (hops headers clientIp).toList, Net.isShown c = true := by
  unfold hops
  split
  · rename_i previous read
    split
    · exact entry.shown
    · intro c member
      rw [String.toList_append, String.toList_append, List.append_assoc, List.mem_append,
        List.mem_append] at member
      rcases member with early | between | late
      · exact HeaderMap.isShown_of_text? read c early
      · exact List.all_eq_true.mp (by decide : ", ".toList.all Net.isShown = true) c between
      · exact entry.shown c late
  · exact entry.shown

/-- The last hop is the client: a comma comes before it, or nothing. -/
private theorem getLast?_hops :
    ((Text.parts ',' (hops headers clientIp)).getLast?).map Text.trim = some clientIp := by
  have alone : ∀ s : String, ',' ∉ s.toList → Text.parts ',' s = [s] := by
    intro s single
    rw [Text.parts, Text.splitAll_of_not_mem single, List.map_singleton, String.ofList_toList]
  have ends : ∀ previous : String,
      ((Text.parts ',' (previous ++ ", " ++ clientIp)).getLast?).map Text.trim = some clientIp := by
    intro previous
    have cut : (previous ++ ", " ++ clientIp).toList =
        previous.toList ++ ',' :: (" " ++ clientIp).toList := by
      simp only [String.toList_append, List.append_assoc]
      rfl
    have spaced : ',' ∉ (" " ++ clientIp).toList := by
      rw [String.toList_append, List.mem_append]
      exact not_or.mpr ⟨by decide, entry.single⟩
    have blank : Text.trim (" " ++ clientIp) = Text.trim clientIp := by
      have trimmed := Text.trim_append
        (List.all_eq_true.mp (by decide : " ".toList.all Text.isBlank = true))
        (List.all_eq_true.mp (by decide : "".toList.all Text.isBlank = true)) clientIp
      rwa [String.append_empty] at trimmed
    rw [Text.parts, cut, Text.splitAll_append_cons, Text.splitAll_of_not_mem spaced, List.map_append,
      List.map_singleton, List.getLast?_concat, Option.map_some, String.ofList_toList, blank,
      entry.trimmed]
  unfold hops
  split
  · split
    · rw [alone clientIp entry.single, List.getLast?_singleton, Option.map_some, entry.trimmed]
    · exact ends _
  · rw [alone clientIp entry.single, List.getLast?_singleton, Option.map_some, entry.trimmed]

/-- The hops are legal, so that they are one value whatever hops the request names. -/
private theorem exists_getAll_addHops (headers : HeaderMap) : ∃ value,
    (addHops headers clientIp).getAll .xForwardedFor = [value] ∧
      value.text? = some (hops headers clientIp) := by
  have shown : ∀ c ∈ (hops headers clientIp).toList, Net.isShown c = true := isShown_of_mem_hops entry
  rcases Option.isSome_iff_exists.mp (HeaderValue.isSome_ofText?_of_isShown shown) with ⟨value, made⟩
  refine ⟨value, ?_, ?_⟩
  · rw [addHops, made]
    exact HeaderMap.getAll_insert_self headers .xForwardedFor value
  · rw [HeaderValue.eq_ofVisible_of_ofText? made]
    exact HeaderValue.text?_ofVisible shown

end

private theorem getAll_addHops_of_ne (different : name ≠ .xForwardedFor) (headers : HeaderMap) :
    (addHops headers clientIp).getAll name = headers.getAll name := by
  unfold addHops
  split
  · exact HeaderMap.getAll_insert_of_ne headers different _
  · rfl

/-- What the gateway itself says goes into three headers. -/
private theorem getAll_identity_of_other (other : name ∉ [accountHeader, hostHeader, .xForwardedFor])
    (headers : HeaderMap) (host account : HeaderValue) :
    (((addHops headers clientIp).insert hostHeader host).insert accountHeader account).getAll name =
      headers.getAll name := by
  simp only [List.mem_cons, List.not_mem_nil, or_false, not_or] at other
  rw [HeaderMap.getAll_insert_of_ne _ other.1, HeaderMap.getAll_insert_of_ne _ other.2.1,
    getAll_addHops_of_ne other.2.2]

/-- None of them is dropped. -/
private theorem other_of_isDropped (dropped : IsDropped upgrade name) :
    name ∉ [accountHeader, hostHeader, .xForwardedFor] := by
  have apart : ∀ name ∈ .host :: .contentLength :: connectionHeaders,
      name ∉ [accountHeader, hostHeader, .xForwardedFor] := by decide
  rcases dropped with rfl | rfl | ⟨member, -⟩
  · exact apart _ List.mem_cons_self
  · exact apart _ (List.mem_cons_of_mem _ List.mem_cons_self)
  · exact apart name (List.mem_cons_of_mem _ (List.mem_cons_of_mem _ member))

/-- The headers that are sent on, name by name. -/
structure Named (inbound : HeaderMap) (backend : Backend) (sender : Sender) (upgrade : Bool)
    (out : HeaderMap) : Prop where
  /-- The last rule for a header says its only value, or that it is absent. -/
  ruled : ∀ name rule, backend.ruleFor? name = some rule → out.getAll name = rule.value.toList
  account : backend.ruleFor? accountHeader = none →
    ∃ value, out.getAll accountHeader = [value] ∧ value.bytes = Text.encode sender.account
  host : backend.ruleFor? hostHeader = none →
    ∃ value, out.getAll hostHeader = [value] ∧ value.bytes = Text.encode backend.host
  hops : backend.ruleFor? .xForwardedFor = none → ∃ value text,
    out.getAll .xForwardedFor = [value] ∧ value.text? = some text ∧
      ((Text.parts ',' text).getLast?).map Text.trim = some sender.clientIp
  dropped : ∀ name, backend.ruleFor? name = none → IsDropped upgrade name → out.getAll name = []
  passed : ∀ name, backend.ruleFor? name = none → ¬ IsDropped upgrade name →
    name ∉ [accountHeader, hostHeader, .xForwardedFor] → out.getAll name = inbound.getAll name

/-- The headers are made from those of the client by the identity and the rules. -/
private theorem headers_eq_ok_iff {inbound : HeaderMap} {backend : Backend} {sender : Sender}
    {out : HeaderMap} : Outbound.headers inbound backend sender upgrade = .ok out ↔
      ∃ host account, HeaderValue.ofText? backend.host = some host ∧
        HeaderValue.ofText? sender.account = some account ∧
        backend.applyEdits
          (((addHops (strip upgrade ((inbound.remove .host).remove .contentLength))
            sender.clientIp).insert hostHeader host).insert accountHeader account) = out := by
  unfold Outbound.headers
  cases HeaderValue.ofText? backend.host with
  | none => simp
  | some host =>
    cases HeaderValue.ofText? sender.account with
    | none => simp
    | some account => simp

private theorem exists_error_iff {inbound : HeaderMap} {backend : Backend} {sender : Sender} :
    (∃ e, Outbound.headers inbound backend sender upgrade = .error e) ↔
      HeaderValue.ofText? backend.host = none ∨ HeaderValue.ofText? sender.account = none := by
  unfold Outbound.headers
  cases HeaderValue.ofText? backend.host with
  | none => simp
  | some host =>
    cases HeaderValue.ofText? sender.account with
    | none => simp
    | some account => simp

/-- Without a rule for them the hops are one line, made from those of the client. -/
theorem exists_getAll_of_headers {inbound : HeaderMap} {backend : Backend} {sender : Sender}
    (entry : Inbound.IsEntry sender.clientIp) (free : backend.ruleFor? .xForwardedFor = none)
    {out : HeaderMap} (made : Outbound.headers inbound backend sender upgrade = .ok out) :
    ∃ value, out.getAll .xForwardedFor = [value] ∧
      value.text? = some (hops inbound sender.clientIp) := by
  rcases headers_eq_ok_iff.mp made with ⟨host, account, -, -, rfl⟩
  have passed : ¬ IsDropped upgrade .xForwardedFor := fun dropped =>
    other_of_isDropped dropped (by decide)
  have kept := (getAll_strip inbound).2 passed
  have same : hops (strip upgrade ((inbound.remove .host).remove .contentLength)) sender.clientIp =
      hops inbound sender.clientIp := by
    simp only [hops, HeaderMap.text?, HeaderMap.get?, kept]
  rw [Backend.getAll_applyEdits_of_unruled free, HeaderMap.getAll_insert_of_ne _ (by decide),
    HeaderMap.getAll_insert_of_ne _ (by decide), ← same]
  exact exists_getAll_addHops entry _

theorem named_of_headers {inbound : HeaderMap} {backend : Backend} {sender : Sender}
    (entry : Inbound.IsEntry sender.clientIp) {out : HeaderMap}
    (made : Outbound.headers inbound backend sender upgrade = .ok out) :
    Named inbound backend sender upgrade out := by
  rcases headers_eq_ok_iff.mp made with ⟨host, account, hostValue, accountValue, rfl⟩
  constructor
  case ruled =>
    intro name rule found
    rw [Backend.getAll_applyEdits, found]
  case account =>
    intro free
    refine ⟨account, ?_, HeaderValue.ofText?_eq_some_iff.mp accountValue⟩
    rw [Backend.getAll_applyEdits_of_unruled free, HeaderMap.getAll_insert_self]
  case host =>
    intro free
    refine ⟨host, ?_, HeaderValue.ofText?_eq_some_iff.mp hostValue⟩
    rw [Backend.getAll_applyEdits_of_unruled free, HeaderMap.getAll_insert_of_ne _ (by decide),
      HeaderMap.getAll_insert_self]
  case hops =>
    intro free
    rcases exists_getAll_of_headers entry free made with ⟨value, only, text⟩
    exact ⟨value, _, only, text, getLast?_hops entry⟩
  case dropped =>
    intro name free dropped
    rw [Backend.getAll_applyEdits_of_unruled free, getAll_identity_of_other (other_of_isDropped dropped)]
    exact (getAll_strip inbound).1 dropped
  case passed =>
    intro name free kept other
    rw [Backend.getAll_applyEdits_of_unruled free, getAll_identity_of_other other]
    exact (getAll_strip inbound).2 kept

/-- Values of the same bytes are the same. -/
private theorem eq_of_named {name : HeaderName} {bytes : Text.Bytes} {out out' : HeaderMap}
    (first : ∃ value, out.getAll name = [value] ∧ value.bytes = bytes)
    (second : ∃ value, out'.getAll name = [value] ∧ value.bytes = bytes) :
    out.getAll name = out'.getAll name := by
  rcases first with ⟨⟨_, legal⟩, found, rfl⟩
  rcases second with ⟨⟨_, legal'⟩, found', rfl⟩
  rw [found, found']

/-- The headers that are sent on for an account can be made unless the host or the account holds a
control.  They are those of `Named`, and the identity in them does not depend on the headers of the
client. -/
theorem headers_by_name (inbound : HeaderMap) (backend : Backend) (account : String)
    (seen : HeaderMap) (header : Option HeaderName) (remote : Option SocketAddress) (upgrade : Bool) :
    let sender : Sender := { account, clientIp := Inbound.clientIp seen header remote }
    ((∃ e, Outbound.headers inbound backend sender upgrade = .error e) ↔
      ∃ b ∈ Text.encode backend.host ++ Text.encode account, Net.isFieldByte b = false) ∧
    (∀ out, Outbound.headers inbound backend sender upgrade = .ok out →
      Named inbound backend sender upgrade out) ∧
    ∀ other out out', Outbound.headers inbound backend sender upgrade = .ok out →
      Outbound.headers other backend sender upgrade = .ok out' →
        ∀ name ∈ [accountHeader, hostHeader], out.getAll name = out'.getAll name := by
  intro sender
  have entry : Inbound.IsEntry sender.clientIp := Inbound.isEntry_clientIp seen header remote
  refine ⟨?_, fun out => named_of_headers entry, ?_⟩
  · rw [exists_error_iff, HeaderValue.ofText?_eq_none_iff, HeaderValue.ofText?_eq_none_iff]
    simp only [List.mem_append, or_and_right, exists_or]
    rfl
  · intro other out out' made made' name listed
    have named := named_of_headers entry made
    have named' := named_of_headers entry made'
    cases ruled : backend.ruleFor? name with
    | some rule => rw [named.ruled name rule ruled, named'.ruled name rule ruled]
    | none =>
      simp only [List.mem_cons, List.not_mem_nil, or_false] at listed
      rcases listed with rfl | rfl
      · exact eq_of_named (named.account ruled) (named'.account ruled)
      · exact eq_of_named (named.host ruled) (named'.host ruled)

/-- A client that claims to be somebody else, twice. -/
def forgedHeaders : HeaderMap where
  fields := [
    (accountHeader, .ofVisible "root"),
    (.xForwardedFor, .ofVisible "192.0.2.1"),
    (.te, .ofVisible "trailers"),
    (accountHeader, .ofVisible "admin"),
    (.accept, .ofVisible "text/html")]

/-- A backend with two rules for one header. -/
def ruledBackend : Backend where
  host := "app.example.com"
  address := {
    scheme := .http
    username := ""
    password := none
    host := .ipv4 [127, 0, 0, 1]
    service := some 8080
    segments := [""]
    query := none
    fragment := none }
  privilege := .internal
  groups := .empty
  users := .empty
  edits := [
    { name := .accept, value := some (.ofVisible "*/*") },
    { name := .accept, value := none }]

theorem headers_by_name_forged :
    ∃ out, Outbound.headers forgedHeaders ruledBackend { account := "alice", clientIp := "-" } false =
        .ok out ∧
      (∃ value, out.getAll accountHeader = [value] ∧ value.bytes = Text.encode "alice") ∧
      out.getAll .te = [] ∧ out.getAll .accept = [] := by
  rcases headers_by_name forgedHeaders ruledBackend "alice" forgedHeaders none none false with
    ⟨fails, named, -⟩
  have legal :
      (Text.encode ruledBackend.host ++ Text.encode "alice").all Net.isFieldByte = true := by decide
  cases made : Outbound.headers forgedHeaders ruledBackend { account := "alice", clientIp := "-" } false with
  | error e =>
    rcases fails.mp ⟨e, made⟩ with ⟨b, member, control⟩
    rw [List.all_eq_true.mp legal b member] at control
    exact absurd control (by decide)
  | ok out =>
    have names := named out made
    exact ⟨out, rfl, names.account (by decide), names.dropped .te (by decide) (by decide),
      names.ruled .accept { name := .accept, value := none } (by decide)⟩

end Outbound

end AuthGateway
