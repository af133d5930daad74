import AuthGateway.Proofs.Gateway.Dispatch
import AuthGateway.Proofs.Gateway.Outbound
import AuthGateway.Proofs.Net.Response

namespace AuthGateway

/-!
# What a client gets of the answer of a backend

The answer of a backend is passed back whole, unless it hands the connection over to another protocol.
Its status, its body and its headers stay, except that the headers of the connection are gone and that the
length is said once, as that of the body (`Outbound.passedBack_passedOn`).  Nothing else happens to the
answer on its way through the gateway, for a refused handshake as for any other request
(`Gateway.answers_passed_back`).
-/

open Net (HeaderMap HeaderName HeaderValue Request Response)

/-- The length of a body is said in decimal digits. -/
theorem Net.Response.text?_lengthValue (body : ByteArray) :
    (lengthValue body).text? = some (toString body.size) := by
  refine HeaderValue.text?_ofVisible fun c member => ?_
  change c ∈ body.size.repr.toList at member
  rw [Nat.toList_repr] at member
  have digit : c.isDigit = true := Nat.isDigit_of_mem_toDigits (by decide) (by decide) member
  have range : 48 ≤ c.toNat ∧ c.toNat ≤ 57 := Char.isDigit_iff_toNat.mp digit
  simp only [Net.isShown, Bool.or_eq_true, Bool.and_eq_true, decide_eq_true_eq]
  omega

namespace Outbound

/-- The answer of a backend, as the client gets it. -/
structure PassedBack (response answer : Response) : Prop where
  status : answer.status = response.status
  body : answer.body = response.body
  length : ∃ value, answer.headers.getAll .contentLength = [value] ∧
    value.text? = some (toString response.body.size)
  dropped : ∀ name ∈ connectionHeaders, answer.headers.getAll name = []
  kept : ∀ name, name ≠ .contentLength → name ∉ connectionHeaders →
    answer.headers.getAll name = response.headers.getAll name

private theorem contentLength_ne {name : HeaderName} (member : name ∈ connectionHeaders) :
    name ≠ .contentLength := by
  have apart : ∀ name ∈ connectionHeaders, name ≠ .contentLength := by decide
  exact apart name member

private theorem getAll_strip_false (headers : HeaderMap) (name : HeaderName) :
    (strip false headers).getAll name =
      if name ∈ connectionHeaders then [] else headers.getAll name :=
  HeaderMap.getAll_foldl_remove headers connectionHeaders

theorem passedBack_passedOn (response : Response) : PassedBack response (passedOn response) where
  status := rfl
  body := rfl
  length := ⟨_, HeaderMap.getAll_insert_self _ _ _, Response.text?_lengthValue response.body⟩
  dropped := by
    intro name member
    rw [passedOn, HeaderMap.getAll_insert_of_ne _ (contentLength_ne member), getAll_strip_false,
      if_pos member]
  kept := by
    intro name different other
    rw [passedOn, HeaderMap.getAll_insert_of_ne _ different, getAll_strip_false, if_neg other]

/-- An answer that has been passed on is passed on as it is. -/
theorem passedOn_passedOn (response : Response) : passedOn (passedOn response) = passedOn response := by
  have stripped : strip false (passedOn response).headers = (passedOn response).headers :=
    HeaderMap.foldl_remove_of_absent (passedBack_passedOn response).dropped
  rw [passedOn, stripped]
  exact congrArg (fun headers => { response with headers }) (HeaderMap.insert_insert _ _ _)

/-- It says its length already. -/
theorem sized_passedOn (response : Response) : (passedOn response).sized = passedOn response := by
  rcases (passedBack_passedOn response).length with ⟨value, only, -⟩
  rw [Response.sized, HeaderMap.get?, only]
  rfl

end Outbound

namespace Gateway

variable {g : Gateway} {assets : Assets} {env : Surroundings} {state : State} {request : Request}
  {out : OutboundRequest}

private theorem sent_handleForm : (g.handleForm env state request).sent = none := by
  unfold handleForm
  repeat' split
  all_goals rfl

/-- Only requests for a service are sent on. -/
theorem service_of_sent (sent : (g.handle assets env state request).sent = some out) :
    Route.ofPath request.uri.path = .service := by
  unfold handle at sent
  split at sent
  case h_7 service => exact service
  case h_3 =>
    split at sent
    · exact absurd sent (by simp [Handled.own])
    · exact absurd (sent_handleForm.symm.trans sent) (by simp)
  all_goals exact absurd sent (by simp [Handled.own, handleStatus])

section

variable {backend : Backend} {sender : Outbound.Sender}

private theorem forwardWhole_of_sent :
    (g.forwardWhole env backend request sender).sent = some out →
      g.forwardWhole env backend request sender = g.exchange env out Outbound.passedOn := by
  unfold forwardWhole
  cases unreadable? request with
  | some reason => exact fun sent => absurd sent (by simp [Forwarding.refused])
  | none =>
    cases Outbound.headers request.headers backend sender false with
    | error e => exact fun sent => absurd sent (by simp [Forwarding.refused])
    | ok headers =>
      intro sent
      rw [← Option.some.inj sent]

private theorem forwardUpgrade_of_sent :
    (g.forwardUpgrade env backend request sender).sent = some out →
      g.forwardUpgrade env backend request sender = g.exchange env out handshakeAnswer := by
  unfold forwardUpgrade
  cases request.takeover with
  | false => exact fun sent => absurd sent (by simp [Forwarding.refused])
  | true =>
    cases Outbound.headers request.headers backend sender true with
    | error e => exact fun sent => absurd sent (by simp [Forwarding.refused])
    | ok headers =>
      cases Time.after? env.conditions.now g.config.requestTimeout with
      | none => exact fun sent => absurd sent (by simp)
      | some _ =>
        intro sent
        rw [← Option.some.inj sent]
        rfl

end

/-- What is sent on is exchanged for the answer of the backend. -/
private theorem serve_of_sent {user : Session} :
    (g.serve env user request).sent = some out →
      g.serve env user request = g.exchange env out
        (if Inbound.isUpgrade request.headers then handshakeAnswer else Outbound.passedOn) := by
  simp only [serve, forward]
  cases g.table.resolve? (hostOf request) with
  | none => exact fun sent => absurd sent (by simp [Forwarding.refused])
  | some backend =>
    dsimp only
    split
    · split
      · exact forwardUpgrade_of_sent
      · exact forwardWhole_of_sent
    · exact fun sent => absurd sent (by simp [Forwarding.refused])

/-- What is sent on for a user is sent on by the gateway. -/
private theorem sent_eq_of_known {user : Session} (service : Route.ofPath request.uri.path = .service)
    (known : (g.authenticator.authenticate env state.cache request.headers).result = .ok (some user)) :
    (g.handle assets env state request).sent = (g.serve env user request).sent := by
  simp only [handle, service, handleService, dispatch, known]

/-- Nothing else is sent on. -/
private theorem served_of_sent {cache : Cache}
    (sent : (g.dispatch env cache request).sent = some out) :
    ∃ user, (g.authenticator.authenticate env cache request.headers).result = .ok (some user) ∧
      (g.serve env user request).sent = some out := by
  unfold dispatch at sent
  cases known : (g.authenticator.authenticate env cache request.headers).result with
  | error failure => exact absurd sent (by simp [known])
  | ok session =>
    cases session with
    | none => exact absurd sent (by simp [known])
    | some user => exact ⟨user, rfl, by simpa only [known] using sent⟩

variable {response : Response}

/-- An answer that does not hand the connection over is passed on whole. -/
private theorem dispatch_of_answered {cache : Cache}
    (sent : (g.dispatch env cache request).sent = some out)
    (answered : env.network out = .answered response)
    (stays : Inbound.isUpgrade request.headers = true → response.status ≠ 101) :
    (g.dispatch env cache request).response = Outbound.passedOn response := by
  rcases served_of_sent sent with ⟨user, known, served⟩
  have answer : (if Inbound.isUpgrade request.headers then handshakeAnswer else Outbound.passedOn)
      response = Outbound.passedOn response := by
    split
    · rename_i upgrade
      rw [handshakeAnswer, if_neg (stays upgrade)]
    · rfl
  simp only [dispatch, known, serve_of_sent served, exchange, Outbound.received, answered, answer,
    conclude]

/-- The answer of a backend reaches the client with its status, its body and all headers but those of the
connection, and with the length of the body; to pass it on once more would change nothing.  So does the
answer that refuses a handshake. -/
theorem answers_passed_back :
    (∀ response, Outbound.PassedBack response (Outbound.passedOn response) ∧
      Outbound.passedOn (Outbound.passedOn response) = Outbound.passedOn response) ∧
    ∀ (g : Gateway) (assets : Assets) (env : Surroundings) (state : State) (request : Request)
      (out : OutboundRequest) (response : Response),
      (g.handle assets env state request).sent = some out → env.network out = .answered response →
      (Inbound.isUpgrade request.headers = true → response.status ≠ 101) →
      (g.handle assets env state request).response = .ok (Outbound.passedOn response) := by
  refine ⟨fun response => ⟨Outbound.passedBack_passedOn response, Outbound.passedOn_passedOn response⟩, ?_⟩
  intro g assets env state request out response sent answered stays
  have service := service_of_sent sent
  simp only [handle, service, handleService] at sent ⊢
  rw [dispatch_of_answered sent answered stays, Outbound.sized_passedOn]

/-- A backend that refuses, and says a wrong length twice. -/
def refusal : Response where
  status := 403
  headers := {
    fields := [
      (.contentLength, .ofVisible "999"),
      (.setCookie, .ofVisible "a=1"),
      (.transferEncoding, .ofVisible "chunked"),
      (.contentLength, .ofVisible "7"),
      (.setCookie, .ofVisible "b=2")] }
  body := ⟨#[0x6E, 0x6F]⟩

/-- The surroundings with this backend. -/
def refusing : Surroundings :=
  { quiet with network := fun _ => .answered refusal }

/-- The user asks for another protocol. -/
def socketRequest : Request :=
  { aliceRequest with
    headers := {
      fields := aliceRequest.headers.fields ++
        [(.connection, .ofVisible "Upgrade"), (.upgrade, .ofVisible "websocket")] }
    takeover := true }

theorem isUpgrade_socketRequest : Inbound.isUpgrade socketRequest.headers = true := by
  decide

theorem admitted_socketRequest :
    Admitted wikiGateway refusing .empty socketRequest alice "wiki" wikiBackend := by
  let cookie := wikiGateway.authenticator.cookie
  have brought : socketRequest.headers.getAll .cookie =
      [.ofVisible (cookie.pairText (cookie.encode 0 quiet.nonce alice))] := rfl
  have read : wikiGateway.authenticator.cookie.sessionIn refusing.time.unixSeconds
      socketRequest.headers = .ok alice :=
    SessionCookie.sessionIn_pairText (by decide) (by decide) (by decide) rfl alice brought (by decide)
  exact {
    known := Authenticator.authenticate_of_vouched (fun _ _ => rfl)
      (Authenticator.claimed_of_sessionIn read (by decide)) rfl
    named := rfl
    found := rfl
    privileged := rfl
    carried := by
      rw [Carried, if_pos isUpgrade_socketRequest]
      rfl
    sendable := by decide }

/-- The handshake of the user is sent on. -/
private theorem exists_sent_socketRequest :
    ∃ out, (wikiGateway.handle .empty refusing .start socketRequest).sent = some out := by
  have legal : socketRequest.uri.LegalAuthority :=
    fun _ named => absurd named (by simp [socketRequest, aliceRequest])
  have service : Route.ofPath socketRequest.uri.path = .service := by decide
  rcases sent_of_admitted legal (by decide) admitted_socketRequest with ⟨headers, -, served⟩
  have handled : (wikiGateway.handle .empty refusing .start socketRequest).sent =
      (wikiGateway.serve refusing alice socketRequest).sent :=
    sent_eq_of_known service admitted_socketRequest.known
  exact ⟨_, handled.trans served⟩

theorem answers_passed_back_refusedHandshake :
    Inbound.isUpgrade socketRequest.headers = true ∧
    ∃ out answer, (wikiGateway.handle .empty refusing .start socketRequest).sent = some out ∧
      refusing.network out = .answered refusal ∧
      (wikiGateway.handle .empty refusing .start socketRequest).response = .ok answer ∧
      answer.status = 403 ∧ answer.body = refusal.body ∧
      answer.headers.getAll .transferEncoding = [] ∧
      answer.headers.getAll .setCookie = [.ofVisible "a=1", .ofVisible "b=2"] ∧
      ∃ value, answer.headers.getAll .contentLength = [value] ∧ value.text? = some "2" := by
  rcases exists_sent_socketRequest with ⟨out, sent⟩
  rcases answers_passed_back with ⟨whole, reaches⟩
  rcases whole refusal with ⟨passed, -⟩
  have answered : refusing.network out = .answered refusal := rfl
  have response := reaches wikiGateway .empty refusing .start socketRequest out refusal sent answered
    fun _ => by decide
  exact ⟨isUpgrade_socketRequest, out, Outbound.passedOn refusal, sent, answered, response, passed.status,
    passed.body, passed.dropped .transferEncoding (by decide),
    passed.kept .setCookie (by decide) (by decide), passed.length⟩

end Gateway

end AuthGateway
