import AuthGateway.Gateway.Router
import AuthGateway.Proofs.Gateway.Authenticator
import AuthGateway.Proofs.Gateway.Table
import AuthGateway.Proofs.Net.Header
import AuthGateway.Proofs.Session.Header

namespace AuthGateway

/-!
# Which requests are sent on

A request for a service is sent on just when it passes every gate, and it goes to the backend whose
gate it has passed; at the first gate that it does not pass it is answered, and nothing is sent
(`Gateway.sent_iff_admitted`).

The one error that no request can cause is that of a backend whose host is no header value.  The
host of a request is read from a header or from the target, both of which hold visible characters
only, and the host of the backend is the front of it.
-/

open Net (HeaderValue Request Response)

namespace Inbound

/-- The host of a request is a text of shown characters. -/
theorem isShown_of_host? {headers : Net.HeaderMap} {uri : Net.Uri} (legal : uri.LegalAuthority)
    {host : String} (named : host? headers uri = some host) :
    host ≠ "" ∧ ∀ c ∈ host.toList, Net.isShown c = true := by
  rcases Option.filter_eq_some_iff.mp named with ⟨given, nonempty⟩
  refine ⟨of_decide_eq_true nonempty, ?_⟩
  cases read : headers.text? .host with
  | some value =>
    rw [read, Option.some_or] at given
    exact Option.some.inj given ▸ Net.HeaderMap.isShown_of_text? read
  | none =>
    rw [read, Option.none_or] at given
    rcases legal host given with ⟨cs, authority⟩
    exact Net.Uri.isShown_of_authority? authority

end Inbound

namespace Gateway

variable {g : Gateway} {env : Surroundings} {cache : Cache} {request : Request}

/-- For whom a request of the user is sent on. -/
def senderOf (g : Gateway) (user : Session) (request : Request) : Outbound.Sender where
  account := user.account
  clientIp := g.clientIp request

/-- The user has a valid session and may use the backend of the host. -/
structure Allowed (g : Gateway) (env : Surroundings) (cache : Cache) (request : Request)
    (user : Session) (host : String) (backend : Backend) : Prop where
  known : (g.authenticator.authenticate env cache request.headers).result = .ok (some user)
  named : Inbound.host? request.headers request.uri = some host
  found : g.table.resolve? host = some backend
  privileged : backend.hasPrivilege user = true

/-- The connection can be handed over if that is asked for, and otherwise the body can be read. -/
def Carried (request : Request) : Prop :=
  if Inbound.isUpgrade request.headers then request.takeover = true
  else request.body.size ≤ maxBody ∧ request.bodyFault = none

/-- The request passes every gate. -/
structure Admitted (g : Gateway) (env : Surroundings) (cache : Cache) (request : Request)
    (user : Session) (host : String) (backend : Backend) : Prop extends
    Allowed g env cache request user host backend where
  carried : Carried request
  sendable : (HeaderValue.ofText? user.account).isSome = true

/-- The first gate that the request does not pass, with the status and the response there. -/
inductive Refusal (g : Gateway) (env : Surroundings) (cache : Cache) (request : Request) :
    Nat → Response → Prop where
  | unknown
      (result : (g.authenticator.authenticate env cache request.headers).result = .ok none) :
      Refusal g env cache request 303 (.seeOther "/secure-proxy/auth")
  | failed {reason : String}
      (result : (g.authenticator.authenticate env cache request.headers).result =
        .error (.error (.internal reason))) :
      Refusal g env cache request 500 (GatewayError.internal reason).response
  | unavailable {user : Session}
      (known : (g.authenticator.authenticate env cache request.headers).result = .ok (some user))
      (missing : ∀ host, Inbound.host? request.headers request.uri = some host →
        g.table.resolve? host = none) :
      Refusal g env cache request 400 (GatewayError.badRequest "domain not available").response
  | forbidden {user : Session} {host : String} {backend : Backend}
      (known : (g.authenticator.authenticate env cache request.headers).result = .ok (some user))
      (named : Inbound.host? request.headers request.uri = some host)
      (found : g.table.resolve? host = some backend)
      (closed : backend.hasPrivilege user = false) :
      Refusal g env cache request 403 (GatewayError.forbidden host (shownName user)).response
  | unoffered {user : Session} {host : String} {backend : Backend}
      (allowed : Allowed g env cache request user host backend)
      (upgrade : Inbound.isUpgrade request.headers = true) (fixed : request.takeover = false) :
      Refusal g env cache request 501
        (GatewayError.notImplemented "connection does not support protocol upgrades").response
  | unread {user : Session} {host : String} {backend : Backend} {reason : String}
      (allowed : Allowed g env cache request user host backend)
      (whole : Inbound.isUpgrade request.headers = false)
      (unreadable : unreadable? request = some reason) :
      Refusal g env cache request 400
        (GatewayError.badRequest ("cannot read request body: " ++ reason)).response
  | unsendable {user : Session} {host : String} {backend : Backend}
      (allowed : Allowed g env cache request user host backend) (carried : Carried request)
      (illegal : HeaderValue.ofText? user.account = none) :
      Refusal g env cache request 400
        (GatewayError.badRequest "account cannot be sent as a header").response

theorem Refusal.status_eq {status : Nat} {response : Response}
    (refusal : Refusal g env cache request status response) : response.status = status := by
  cases refusal with
  | _ => rfl

private theorem unreadable?_eq_none_iff :
    unreadable? request = none ↔ request.body.size ≤ maxBody ∧ request.bodyFault = none := by
  unfold unreadable?
  split
  · rename_i long
    exact iff_of_false (by simp) fun readable => Nat.not_le_of_gt long readable.1
  · rename_i short
    exact (and_iff_right (Nat.le_of_not_gt short)).symm

/-- The host of the backend that a request means is a legal header value. -/
theorem isSome_ofText?_host (legal : request.uri.LegalAuthority) {host : String} {backend : Backend}
    (named : Inbound.host? request.headers request.uri = some host)
    (found : g.table.resolve? host = some backend) :
    (HeaderValue.ofText? backend.host).isSome = true := by
  rcases BackendTable.resolve?_eq_some found with ⟨-, front⟩
  refine HeaderValue.isSome_ofText?_of_isShown fun c member => ?_
  exact (Inbound.isShown_of_host? legal named).2 c (front.subset member)

/-- Then only the account can be a reason to refuse the headers. -/
theorem headers_eq {inbound : Net.HeaderMap} {backend : Backend}
    (legal : (HeaderValue.ofText? backend.host).isSome = true) (sender : Outbound.Sender)
    (upgrade : Bool) :
    (HeaderValue.ofText? sender.account = none ∧
      Outbound.headers inbound backend sender upgrade =
        .error (.badRequest "account cannot be sent as a header")) ∨
    ((HeaderValue.ofText? sender.account).isSome = true ∧
      ∃ headers, Outbound.headers inbound backend sender upgrade = .ok headers) := by
  rcases Option.isSome_iff_exists.mp legal with ⟨host, hostValue⟩
  simp only [Outbound.headers, hostValue]
  cases HeaderValue.ofText? sender.account with
  | none => exact Or.inl ⟨rfl, rfl⟩
  | some account => exact Or.inr ⟨rfl, _, rfl⟩

section

variable {user : Session} {host : String} {backend : Backend}

private theorem hostOf_eq (named : Inbound.host? request.headers request.uri = some host) :
    hostOf request = host := by
  rw [hostOf, named]
  rfl

/-- The second look-up finds the backend whose privilege was checked. -/
theorem serve_of_allowed (allowed : Allowed g env cache request user host backend) :
    g.serve env user request =
      if Inbound.isUpgrade request.headers then
        g.forwardUpgrade env backend request (g.senderOf user request)
      else g.forwardWhole env backend request (g.senderOf user request) := by
  simp only [serve, forward, hostOf_eq allowed.named, allowed.found, if_pos allowed.privileged, senderOf]

/-- What is sent for the user when the headers are these. -/
def outbound (request : Request) (backend : Backend) (headers : Net.HeaderMap) : OutboundRequest where
  method := request.method
  address := Outbound.address backend.address request.uri
  headers := headers
  body := if Inbound.isUpgrade request.headers then .empty else request.body

/-- A request that is read whole is sent, unless its headers cannot be made. -/
theorem serve_of_whole (allowed : Allowed g env cache request user host backend)
    (whole : Inbound.isUpgrade request.headers = false)
    (readable : request.body.size ≤ maxBody ∧ request.bodyFault = none) :
    match Outbound.headers request.headers backend (g.senderOf user request) false with
    | .error e => g.serve env user request = .refused e
    | .ok headers => (g.serve env user request).sent = some (outbound request backend headers) := by
  rw [serve_of_allowed allowed]
  unfold outbound
  rw [whole, if_neg Bool.false_ne_true, forwardWhole, unreadable?_eq_none_iff.mpr readable]
  cases Outbound.headers request.headers backend (g.senderOf user request) false with
  | error e => rfl
  | ok headers => rfl

/-- A request that can be carried on is sent, unless its headers cannot be made. -/
theorem serve_of_carried
    (deadline : (Time.after? env.conditions.now g.config.requestTimeout).isSome = true)
    (allowed : Allowed g env cache request user host backend) (carried : Carried request) :
    match Outbound.headers request.headers backend (g.senderOf user request)
        (Inbound.isUpgrade request.headers) with
    | .error e => g.serve env user request = .refused e
    | .ok headers => (g.serve env user request).sent = some (outbound request backend headers) := by
  cases upgrade : Inbound.isUpgrade request.headers with
  | true =>
    rw [Carried, if_pos upgrade] at carried
    rcases Option.isSome_iff_exists.mp deadline with ⟨instant, reached⟩
    rw [serve_of_allowed allowed]
    unfold outbound
    rw [upgrade, if_pos rfl, forwardUpgrade, carried, reached]
    cases Outbound.headers request.headers backend (g.senderOf user request) true with
    | error e => rfl
    | ok headers => rfl
  | false =>
    rw [Carried, if_neg (Bool.eq_false_iff.mp upgrade)] at carried
    exact serve_of_whole allowed upgrade carried

/-- An admitted request is sent to its backend. -/
theorem sent_of_admitted (legal : request.uri.LegalAuthority)
    (deadline : (Time.after? env.conditions.now g.config.requestTimeout).isSome = true)
    (admitted : Admitted g env cache request user host backend) :
    ∃ headers, Outbound.headers request.headers backend (g.senderOf user request)
        (Inbound.isUpgrade request.headers) = .ok headers ∧
      (g.serve env user request).sent = some (outbound request backend headers) := by
  have served := serve_of_carried deadline admitted.toAllowed admitted.carried
  rcases headers_eq (isSome_ofText?_host legal admitted.named admitted.found)
    (g.senderOf user request) (Inbound.isUpgrade request.headers) with
    ⟨illegal, -⟩ | ⟨-, headers, made⟩
  · have sendable := admitted.sendable
    rw [show HeaderValue.ofText? user.account = none from illegal] at sendable
    exact absurd sendable Bool.false_ne_true
  · rw [made] at served
    exact ⟨headers, made, served⟩

private theorem dispatch_of_refused {e : GatewayError}
    (known : (g.authenticator.authenticate env cache request.headers).result = .ok (some user))
    (refused : g.serve env user request = .refused e) :
    (g.dispatch env cache request).response = e.response ∧
      (g.dispatch env cache request).sent = none := by
  simp only [dispatch, known, refused, Forwarding.refused, conclude, and_self]

theorem dispatch_of_forbidden
    (known : (g.authenticator.authenticate env cache request.headers).result = .ok (some user))
    (named : Inbound.host? request.headers request.uri = some host)
    (found : g.table.resolve? host = some backend) (closed : backend.hasPrivilege user = false) :
    (g.dispatch env cache request).response = (GatewayError.forbidden host (shownName user)).response ∧
      (g.dispatch env cache request).sent = none := by
  refine dispatch_of_refused known ?_
  simp only [serve, hostOf_eq named, found, closed, Bool.false_eq_true, if_false]

end

section

variable (named : ∀ backend ∈ g.table.backends, backend.host ≠ "")
  (legal : request.uri.LegalAuthority)
  (deadline : (Time.after? env.conditions.now g.config.requestTimeout).isSome = true)

include named legal deadline

/-- At the gate that stays shut the request is answered, and nothing is sent. -/
theorem dispatch_of_refusal {status : Nat} {response : Response}
    (refusal : Refusal g env cache request status response) :
    (g.dispatch env cache request).response = response ∧
      (g.dispatch env cache request).sent = none := by
  cases refusal with
  | unknown result =>
    simp only [dispatch, result, conclude, loginRedirect, loginPage, and_self]
  | failed result => simp only [dispatch, result, conclude, and_self]
  | unavailable known missing =>
    refine dispatch_of_refused known ?_
    have unresolved : g.table.resolve? (hostOf request) = none := by
      cases given : Inbound.host? request.headers request.uri with
      | none =>
        rw [hostOf, given]
        exact BackendTable.resolve?_empty named
      | some host =>
        rw [hostOf_eq given]
        exact missing host given
    simp only [serve, unresolved]
  | forbidden known given found closed => exact dispatch_of_forbidden known given found closed
  | unoffered allowed upgrade fixed =>
    refine dispatch_of_refused allowed.known ?_
    rw [serve_of_allowed allowed, if_pos upgrade, forwardUpgrade, fixed]
    rfl
  | unread allowed whole unreadable =>
    refine dispatch_of_refused allowed.known ?_
    rw [serve_of_allowed allowed, if_neg (Bool.eq_false_iff.mp whole), forwardWhole, unreadable]
  | @unsendable user host backend allowed carried illegal =>
    refine dispatch_of_refused allowed.known ?_
    have served := serve_of_carried deadline allowed carried
    rcases headers_eq (isSome_ofText?_host legal allowed.named allowed.found)
      (g.senderOf user request) (Inbound.isUpgrade request.headers) with
      ⟨-, refused⟩ | ⟨sendable, -⟩
    · rw [refused] at served
      exact served
    · rw [show HeaderValue.ofText? (g.senderOf user request).account = none from illegal] at sendable
      exact absurd sendable Bool.false_ne_true

omit named legal deadline

/-- The last two gates. -/
private theorem admitted_or_refusal_of_allowed {user : Session} {host : String} {backend : Backend}
    (allowed : Allowed g env cache request user host backend) :
    Admitted g env cache request user host backend ∨
      ∃ status response, Refusal g env cache request status response := by
  by_cases carried : Carried request
  · cases account : HeaderValue.ofText? user.account with
    | none => exact Or.inr ⟨400, _, .unsendable allowed carried account⟩
    | some value =>
      have sendable : (HeaderValue.ofText? user.account).isSome = true := by rw [account]; rfl
      exact Or.inl { toAllowed := allowed, carried := carried, sendable := sendable }
  · cases upgrade : Inbound.isUpgrade request.headers with
    | true =>
      rw [Carried, if_pos upgrade] at carried
      exact Or.inr ⟨501, _, .unoffered allowed upgrade (Bool.eq_false_iff.mpr carried)⟩
    | false =>
      rw [Carried, if_neg (Bool.eq_false_iff.mp upgrade), ← unreadable?_eq_none_iff] at carried
      rcases Option.ne_none_iff_exists'.mp carried with ⟨reason, unreadable⟩
      exact Or.inr ⟨400, _, .unread allowed upgrade unreadable⟩

/-- A request is admitted, or some gate is the first that stays shut. -/
theorem admitted_or_refusal
    (calm : ∀ account message, (env.provider.get account).ending ≠ .crashed message) :
    (∃ user host backend, Admitted g env cache request user host backend) ∨
      ∃ status response, Refusal g env cache request status response := by
  cases known : (g.authenticator.authenticate env cache request.headers).result with
  | error failure =>
    rcases Authenticator.internal_of_authenticate calm known with ⟨reason, rfl⟩
    exact Or.inr ⟨500, _, .failed known⟩
  | ok session =>
    cases session with
    | none => exact Or.inr ⟨303, _, .unknown known⟩
    | some user =>
      by_cases reached : ∃ host backend, Inbound.host? request.headers request.uri = some host ∧
          g.table.resolve? host = some backend
      · rcases reached with ⟨host, backend, given, found⟩
        cases privileged : backend.hasPrivilege user with
        | false => exact Or.inr ⟨403, _, .forbidden known given found privileged⟩
        | true =>
          have allowed : Allowed g env cache request user host backend :=
            { known := known, named := given, found := found, privileged := privileged }
          rcases admitted_or_refusal_of_allowed allowed with admitted | refusal
          · exact Or.inl ⟨user, host, backend, admitted⟩
          · exact Or.inr refusal
      · refine Or.inr ⟨400, _, .unavailable known fun host given => ?_⟩
        cases found : g.table.resolve? host with
        | none => rfl
        | some backend => exact absurd ⟨host, backend, given, found⟩ reached

end

/-- The table of a gateway that a configuration makes names every host. -/
theorem host_ne_empty_of_ofConfig {c : Config} (built : ofConfig c = .ok g) :
    ∀ backend ∈ g.table.backends, backend.host ≠ "" := by
  unfold ofConfig at built
  split at built
  · exact absurd built (by simp)
  · split at built
    · exact absurd built (by simp)
    · split at built
      · exact absurd built (by simp)
      · rename_i table made
        rw [← Except.ok.inj built]
        exact Config.host_ne_empty_of_backendTable made

/-- A request is sent on just when it passes every gate, and then to the backend whose privilege was
checked.  At the first gate that stays shut it is answered as that gate answers, and nothing is
sent.  That a backend has no legal host is never the reason. -/
theorem sent_iff_admitted {c : Config} (built : ofConfig c = .ok g) (cache : Cache)
    (legal : request.uri.LegalAuthority)
    (calm : ∀ account message, (env.provider.get account).ending ≠ .crashed message)
    (deadline : (Time.after? env.conditions.now g.config.requestTimeout).isSome = true) :
    ((g.dispatch env cache request).sent.isSome = true ↔
      ∃ user host backend, Admitted g env cache request user host backend) ∧
    (∀ user host backend, Admitted g env cache request user host backend →
      backend ∈ g.table.backends ∧
      ∃ headers, Outbound.headers request.headers backend (g.senderOf user request)
          (Inbound.isUpgrade request.headers) = .ok headers ∧
        (g.dispatch env cache request).sent = some (outbound request backend headers)) ∧
    ((g.dispatch env cache request).sent = none →
      ∃ status response, Refusal g env cache request status response) ∧
    (∀ status response, Refusal g env cache request status response →
      (g.dispatch env cache request).response = response ∧ response.status = status ∧
        (g.dispatch env cache request).sent = none) ∧
    ∀ host backend, Inbound.host? request.headers request.uri = some host →
      g.table.resolve? host = some backend → ∀ sender upgrade,
        Outbound.headers request.headers backend sender upgrade ≠
          .error (.badRequest "invalid backend host") := by
  have named := host_ne_empty_of_ofConfig built
  have sent : ∀ user host backend, Admitted g env cache request user host backend →
      ∃ headers, Outbound.headers request.headers backend (g.senderOf user request)
          (Inbound.isUpgrade request.headers) = .ok headers ∧
        (g.dispatch env cache request).sent = some (outbound request backend headers) := by
    intro user host backend admitted
    rcases sent_of_admitted legal deadline admitted with ⟨headers, made, served⟩
    refine ⟨headers, made, ?_⟩
    simp only [dispatch, admitted.known, served]
  have refused : (g.dispatch env cache request).sent = none →
      ∃ status response, Refusal g env cache request status response := by
    intro unsent
    rcases admitted_or_refusal calm with ⟨user, host, backend, admitted⟩ | refusal
    · rcases sent user host backend admitted with ⟨headers, -, found⟩
      exact absurd (unsent.symm.trans found) (by simp)
    · exact refusal
  refine ⟨⟨?_, ?_⟩, ?_, refused, ?_, ?_⟩
  · intro started
    rcases admitted_or_refusal calm with admitted | ⟨status, response, refusal⟩
    · exact admitted
    · rw [(dispatch_of_refusal named legal deadline refusal).2] at started
      exact absurd started Bool.false_ne_true
  · rintro ⟨user, host, backend, admitted⟩
    rcases sent user host backend admitted with ⟨headers, -, found⟩
    rw [found]
    rfl
  · intro user host backend admitted
    exact ⟨(BackendTable.resolve?_eq_some admitted.found).1, sent user host backend admitted⟩
  · intro status response refusal
    rcases dispatch_of_refusal named legal deadline refusal with ⟨answered, unsent⟩
    exact ⟨answered, refusal.status_eq, unsent⟩
  · intro host backend given found sender upgrade invalid
    rcases headers_eq (isSome_ofText?_host legal given found) sender upgrade with
      ⟨-, refusal⟩ | ⟨-, headers, made⟩
    · rw [refusal] at invalid
      exact absurd invalid (by simp)
    · rw [made] at invalid
      exact absurd invalid (by simp)

/-- One backend, open to everybody with a session. -/
def wikiBackend : Backend where
  host := "wiki"
  address := {
    scheme := .http
    username := ""
    password := none
    host := .ipv6 [0, 0, 0, 0, 0, 0, 0, 1]
    service := some 9000
    segments := [""]
    query := none
    fragment := none }
  privilege := .internal
  groups := .empty
  users := .empty
  edits := []

/-- The configuration of a gateway to this backend. -/
def wikiConfig : Config :=
  let key := String.ofList (List.replicate 43 'A' ++ ['='])
  let backend := {
    host := wikiBackend.host
    address := "http://[::1]:9000"
    privilege := .internal
    groups := []
    users := []
    headers := [] }
  { Config.standard with
    session := { SessionConfig.standard with hashKey := key, blockKey := key }
    backends := [backend] }

/-- The gateway to this backend. -/
def wikiGateway : Gateway where
  config := wikiConfig
  authenticator := {
    cookie := {
      name := "secure-proxy-auth"
      domain := none
      maxAge := 86400
      hashKey := List.replicate 32 0
      blockKey := List.replicate 32 0 }
    prefixed := false }
  table := { backends := [wikiBackend] }
  clientIpHeader := none

/-- The session of a local user. -/
def alice : Session :=
  { Session.empty with userType := "local", username := "alice", account := "alice" }

/-- A provider who knows the user, and a cache that works. -/
def quiet : Surroundings where
  conditions := { now := 0, outage := fun _ _ => none }
  time := .epoch
  floodClock := 0
  nonce := List.replicate 12 0
  provider := .localUsers .standard [{ LocalUser.blank with account := "alice" }]
  network := fun _ => .unreachable

/-- A request of the user for the backend. -/
def aliceRequest : Request where
  method := "GET"
  uri := { scheme := none, authority := none, path := "/", query := none }
  headers :=
    let cookie := wikiGateway.authenticator.cookie
    { fields := [
        (.cookie, .ofVisible (cookie.pairText (cookie.encode 0 quiet.nonce alice))),
        (.host, .ofVisible "wiki")] }
  body := .empty
  remote := none
  takeover := false

theorem sent_iff_admitted_alice :
    Admitted wikiGateway quiet .empty aliceRequest alice "wiki" wikiBackend ∧
      (wikiGateway.dispatch quiet .empty aliceRequest).sent.isSome = true := by
  have built : ofConfig wikiConfig = .ok wikiGateway := rfl
  have legal : aliceRequest.uri.LegalAuthority := fun _ named => absurd named (by simp [aliceRequest])
  have calm : ∀ account message, (quiet.provider.get account).ending ≠ .crashed message := by
    intro account message
    change Ending.ofExcept _ ≠ _
    cases LocalUser.get [{ LocalUser.blank with account := "alice" }] account with
    | error _ => simp [Ending.ofExcept]
    | ok _ => simp [Ending.ofExcept]
  have cookie : aliceRequest.headers.getAll .cookie =
      [.ofVisible (wikiGateway.authenticator.cookie.pairText
        (wikiGateway.authenticator.cookie.encode 0 quiet.nonce alice))] := rfl
  have read : wikiGateway.authenticator.cookie.sessionIn quiet.time.unixSeconds aliceRequest.headers =
      .ok alice :=
    SessionCookie.sessionIn_pairText (by decide) (by decide) (by decide) rfl alice cookie (by decide)
  have admitted : Admitted wikiGateway quiet .empty aliceRequest alice "wiki" wikiBackend := {
    known := Authenticator.authenticate_of_vouched (fun _ _ => rfl)
      (Authenticator.claimed_of_sessionIn read (by decide)) rfl
    named := rfl
    found := rfl
    privileged := rfl
    carried := ⟨by decide, rfl⟩
    sendable := by decide }
  have sent := sent_iff_admitted built .empty legal calm (by decide)
  exact ⟨admitted, sent.1.mpr ⟨_, _, _, admitted⟩⟩

end Gateway

end AuthGateway
