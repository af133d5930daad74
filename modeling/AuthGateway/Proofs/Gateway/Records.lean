import AuthGateway.Proofs.Gateway.Ahead
import AuthGateway.Proofs.Gateway.Closed
import AuthGateway.Proofs.Gateway.Inbound

namespace AuthGateway

/-!
# One record for each request

The handling of a request for a service can end in a redirect, in an error, in a response from behind, or
in a crash of the provider or of the reckoning of a deadline (`Gateway.panics_iff`).  However it ends,
there is one response, and one record of it unless the request is for a static asset and nothing has
crashed.  The record repeats what the request has said (`Gateway.Describes`).  A crash of the provider
leaves nothing behind, so that all later requests are answered as if the request had not been made
(`Gateway.recorded_once`).
-/

open Net (Request Response)
open Inbound (AsksUpgrade NamesClient SaidOr Says StaticAsset)

namespace Gateway

variable {g : Gateway} {env : Surroundings} {cache : Cache} {request : Request}

/-! ## Crashes -/

/-- What the handling of a request comes to before a crash is contained. -/
def handling (g : Gateway) (env : Surroundings) (cache : Cache) (request : Request) :
    Except Failure Response :=
  match (g.authenticator.authenticate env cache request.headers).result with
  | .error failure => .error failure
  | .ok none => .ok loginRedirect
  | .ok (some user) => (g.serve env user request).result

/-- The provider is asked whose session the request brings, and crashes. -/
structure ProviderPanics (g : Gateway) (env : Surroundings) (cache : Cache) (request : Request)
    (message : String) : Prop where
  asked : ∃ info, g.authenticator.Presents env request.headers info ∧
    Authenticator.Unmarked env cache info ∧
    (g.authenticator.answer env info).ending = .crashed message

/-- The connection of the user could be handed over, but there is no instant for the deadline. -/
structure DeadlinePanics (g : Gateway) (env : Surroundings) (request : Request) (user : Session) :
    Prop where
  admitted : ∃ backend, g.table.resolve? (hostOf request) = some backend ∧
    backend.hasPrivilege user = true ∧
    (Outbound.headers request.headers backend (g.senderOf user request) true).isOk = true
  upgrade : Inbound.isUpgrade request.headers = true
  takeover : request.takeover = true
  overflow : Time.after? env.conditions.now g.config.requestTimeout = none

/-- The handling of the request crashes with the message. -/
inductive Panics (g : Gateway) (env : Surroundings) (cache : Cache) (request : Request) :
    String → Prop where
  | provider {message : String} (crash : g.ProviderPanics env cache request message) :
      Panics g env cache request message
  | deadline {user : Session}
      (known : (g.authenticator.authenticate env cache request.headers).result = .ok (some user))
      (crash : g.DeadlinePanics env request user) :
      Panics g env cache request "overflow when adding duration to instant"

section

variable (backend : Backend) (sender : Outbound.Sender) {message : String}

private theorem exchange_ne_crash (request : OutboundRequest) (answer : Response → Response) :
    (g.exchange env request answer).result ≠ .error (.crash message) := by
  unfold exchange
  cases Outbound.received request g.config.requestTimeout (env.network request) with
  | error e => simp
  | ok response => simp

private theorem forwardWhole_ne_crash :
    (g.forwardWhole env backend request sender).result ≠ .error (.crash message) := by
  unfold forwardWhole
  cases unreadable? request with
  | some reason => simp [Forwarding.refused]
  | none =>
    cases Outbound.headers request.headers backend sender false with
    | error e => simp [Forwarding.refused]
    | ok headers => exact exchange_ne_crash _ _

private theorem forwardUpgrade_eq_crash_iff :
    (g.forwardUpgrade env backend request sender).result = .error (.crash message) ↔
      (Outbound.headers request.headers backend sender true).isOk = true ∧
        request.takeover = true ∧ Time.after? env.conditions.now g.config.requestTimeout = none ∧
        message = "overflow when adding duration to instant" := by
  unfold forwardUpgrade
  cases request.takeover with
  | false => simp [Forwarding.refused]
  | true =>
    cases Outbound.headers request.headers backend sender true with
    | error e => simp [Forwarding.refused, Except.isOk, Except.toBool]
    | ok headers =>
      cases Time.after? env.conditions.now g.config.requestTimeout with
      | none => simp [Except.isOk, Except.toBool, eq_comm]
      | some instant => exact iff_of_false (exchange_ne_crash _ _) (by simp)

end

private theorem serve_eq_crash_iff {user : Session} {message : String} :
    (g.serve env user request).result = .error (.crash message) ↔
      g.DeadlinePanics env request user ∧ message = "overflow when adding duration to instant" := by
  simp only [serve, forward]
  cases found : g.table.resolve? (hostOf request) with
  | none =>
    refine iff_of_false (by simp [Forwarding.refused]) ?_
    rintro ⟨⟨⟨backend, resolved, -⟩, -, -, -⟩, -⟩
    exact absurd (found.symm.trans resolved) (by simp)
  | some backend =>
    have only : ∀ other, g.table.resolve? (hostOf request) = some other → other = backend :=
      fun other resolved => Option.some.inj (resolved.symm.trans found)
    dsimp only
    cases privileged : backend.hasPrivilege user with
    | false =>
      refine iff_of_false (by simp [Forwarding.refused]) ?_
      rintro ⟨⟨⟨other, resolved, admitted, -⟩, -, -, -⟩, -⟩
      rw [only other resolved, privileged] at admitted
      exact Bool.false_ne_true admitted
    | true =>
      cases upgrade : Inbound.isUpgrade request.headers with
      | false =>
        refine iff_of_false (forwardWhole_ne_crash backend _) ?_
        rintro ⟨⟨-, upgraded, -, -⟩, -⟩
        exact absurd (upgrade.symm.trans upgraded) Bool.false_ne_true
      | true =>
        refine (forwardUpgrade_eq_crash_iff backend _).trans ?_
        constructor
        · rintro ⟨headed, takeover, overflow, said⟩
          exact ⟨⟨⟨backend, found, privileged, headed⟩, upgrade, takeover, overflow⟩, said⟩
        · rintro ⟨⟨⟨other, resolved, -, headed⟩, -, takeover, overflow⟩, said⟩
          exact ⟨only other resolved ▸ headed, takeover, overflow, said⟩

/-- The handling of a request crashes with the provider, or when the deadline of a connection is no
instant any more, and in no other way. -/
theorem panics_iff {message : String} :
    g.Panics env cache request message ↔
      g.handling env cache request = .error (.crash message) := by
  have closed := g.authenticator.closed_authenticate env cache request.headers
  unfold handling
  constructor
  · intro panics
    cases panics with
    | provider crash => rw [(closed.crashed message).mpr crash.asked]
    | @deadline user known crash =>
      rw [known]
      exact serve_eq_crash_iff.mpr ⟨crash, rfl⟩
  · intro crashed
    split at crashed
    · rename_i failure failed
      cases crashed
      exact .provider ⟨(closed.crashed message).mp failed⟩
    · exact absurd crashed (by simp)
    · rename_i user known
      rcases serve_eq_crash_iff.mp crashed with ⟨crash, rfl⟩
      exact .deadline known crash

/-! ## Records -/

/-- The record says what was asked for, and how it was answered.  A dash stands for what a request does
not say. -/
structure Describes (g : Gateway) (request : Request) (response : Response) (record : AccessRecord) :
    Prop where
  host : SaidOr (Says request.headers .host) (request.uri.authority.getD "") record.host
  path : record.path = request.uri.path
  method : record.method = request.method
  userAgent : SaidOr (Says request.headers .userAgent) "-" record.userAgent
  clientIp : SaidOr (NamesClient request.headers g.clientIpHeader)
    ((request.remote.map fun address => address.ip.text).getD "-") record.clientIp
  referer : SaidOr (Says request.headers .referer) "-" record.referer
  upgrade : record.upgrade = true ↔ AsksUpgrade request.headers
  status : record.status = response.status

variable (g request) in
theorem describes_recordOf {response : Response} (account : String) (crash : Option String) :
    Describes g request response (g.recordOf request account response.status crash) where
  host := Inbound.saidOr_hostOf request
  path := rfl
  method := rfl
  userAgent := Inbound.saidOr_shown request.headers .userAgent
  clientIp := Inbound.saidOr_clientIp request.headers g.clientIpHeader request.remote
  referer := Inbound.saidOr_shown request.headers .referer
  upgrade := Inbound.isUpgrade_iff
  status := rfl

/-- The record names the user whom the authentication has found, if it has found one. -/
structure Names (result : Except Failure (Option Session)) (record : AccessRecord) : Prop where
  known : ∀ user, result = .ok (some user) → record.account = user.account
  unknown : (∀ user, result ≠ .ok (some user)) → record.account = "-"

/-- For whom a request is recorded. -/
def recordedAccount : Except Failure (Option Session) → String
  | .ok (some user) => user.account
  | .ok none => "-"
  | .error _ => "-"

theorem names_recordOf (result : Except Failure (Option Session)) (status : Nat)
    (crash : Option String) : Names result (g.recordOf request (recordedAccount result) status crash) where
  known := by
    rintro user rfl
    rfl
  unknown := by
    intro unknown
    cases result with
    | error failure => rfl
    | ok found =>
      cases found with
      | none => rfl
      | some user => exact absurd rfl (unknown user)

variable (g env cache request) in
/-- However the handling ends, it is concluded once. -/
theorem dispatch_eq_conclude :
    let done := g.authenticator.authenticate env cache request.headers
    let concluded := g.conclude request (recordedAccount done.result) (g.handling env cache request)
    (g.dispatch env cache request).response = concluded.1 ∧
      (g.dispatch env cache request).access = concluded.2 := by
  simp only [dispatch, handling]
  split
  · rename_i failure failed
    rw [failed]
    exact ⟨rfl, rfl⟩
  · rename_i unknown
    rw [unknown]
    exact ⟨rfl, rfl⟩
  · rename_i user known
    rw [known]
    exact ⟨rfl, rfl⟩

variable (g request) in
/-- A conclusion leaves a record of its response, if it is to leave one. -/
theorem conclude_eq (account : String) (result : Except Failure Response) :
    ∃ crash : Option String, (∀ message, crash = some message ↔ result = .error (.crash message)) ∧
      (crash ≠ none → (g.conclude request account result).1.status = 500) ∧
      (g.conclude request account result).2 =
        if crash ≠ none ∨ g.isRecorded request = true then
          some (g.recordOf request account (g.conclude request account result).1.status crash)
        else none := by
  cases result with
  | ok response => exact ⟨none, by simp, by simp, by simp [conclude]⟩
  | error failure =>
    cases failure with
    | error e => exact ⟨none, by simp, by simp, by simp [conclude]⟩
    | crash message => exact ⟨some message, by simp, fun _ => rfl, by simp [conclude]⟩

theorem isRecorded_iff :
    g.isRecorded request = true ↔ g.config.verbose = true ∨ ¬ StaticAsset request.uri.path := by
  rw [← Inbound.isStaticAsset_iff, isRecorded, Bool.or_eq_true, Bool.not_eq_true', Bool.not_eq_true]

variable (g env) (state : State) (request)

/-- A request for a service is answered once, and recorded once if at all. -/
theorem handleService_concluded :
    let done := g.authenticator.authenticate env state.cache request.headers
    let handled := g.handleService env state request
    let panicked := ∃ message, g.Panics env state.cache request message
    ∃ response, handled.response = .ok response ∧
      (panicked → response.status = 500) ∧
      (handled.access.isSome = true ↔
        panicked ∨ g.config.verbose = true ∨ ¬ StaticAsset request.uri.path) ∧
      ∀ record, handled.access = some record →
        g.Describes request response record ∧ Names done.result record ∧
          ∀ message, record.crash = some message ↔ g.Panics env state.cache request message := by
  intro done handled panicked
  let account := recordedAccount done.result
  rcases dispatch_eq_conclude g env state.cache request with ⟨answered, recorded⟩
  rcases conclude_eq g request account (g.handling env state.cache request) with
    ⟨crash, crashes, failed, made⟩
  have panics : ∀ message, crash = some message ↔ g.Panics env state.cache request message :=
    fun message => (crashes message).trans panics_iff.symm
  have panicked_iff : crash ≠ none ↔ panicked :=
    Option.ne_none_iff_exists'.trans (exists_congr panics)
  have access := recorded.trans made
  refine ⟨(g.dispatch env state.cache request).response.sized, rfl, ?_, ?_, ?_⟩
  · intro panic
    rw [Response.status_sized, answered]
    exact failed (panicked_iff.mpr panic)
  · change (g.dispatch env state.cache request).access.isSome = true ↔ _
    rw [access, ← panicked_iff, ← isRecorded_iff]
    split
    · rename_i leaves
      exact iff_of_true rfl leaves
    · rename_i silent
      exact iff_of_false Bool.false_ne_true silent
  · intro record listed
    rw [show handled.access = _ from access] at listed
    split at listed
    · cases listed
      have status : (g.dispatch env state.cache request).response.sized.status =
          (g.conclude request account (g.handling env state.cache request)).1.status :=
        Response.status_sized.trans (congrArg Response.status answered)
      rw [← status]
      exact ⟨describes_recordOf g request account crash, names_recordOf _ _ _, panics⟩
    · exact absurd listed (by simp)

variable {g env state request}

/-- A crash of the provider leaves the state as it was, after one more call of the cache. -/
theorem state_of_providerPanics {message : String}
    (crash : g.ProviderPanics env state.cache request message) :
    (g.handleService env state request).state = state.ahead 1 := by
  rcases crash.asked with ⟨info, presents, unmarked, crashed⟩
  have left := Authenticator.authenticate_of_ends (.crashed presents unmarked crashed)
  change { state with cache := (g.authenticator.authenticate env state.cache request.headers).cache } = _
  rw [left]
  rfl

/-- A request for a service is answered and recorded as a whole, whatever the cache, the provider and the
backend do.  If the provider crashes, all that happens later shows the same as without the request, where
the calls of the cache that fail are the same ones. -/
theorem recorded_once (g : Gateway) (assets : Assets) (env : Surroundings) (state : State)
    (request : Request) (reaches : Route.ofPath request.uri.path = .service) :
    let done := g.authenticator.authenticate env state.cache request.headers
    let handled := g.handle assets env state request
    let panicked := ∃ message, g.Panics env state.cache request message
    ∃ response, handled.response = .ok response ∧
      (panicked → response.status = 500) ∧
      (handled.access.isSome = true ↔
        panicked ∨ g.config.verbose = true ∨ ¬ StaticAsset request.uri.path) ∧
      (∀ record, handled.access = some record →
        g.Describes request response record ∧ Names done.result record ∧
          ∀ message, record.crash = some message ↔ g.Panics env state.cache request message) ∧
      ((∃ message, g.ProviderPanics env state.cache request message) →
        response.status = 500 ∧ handled.state.cache.memory = state.cache.memory ∧
          handled.state.flood = state.flood ∧
          ∀ later, g.replies assets handled.state later =
            g.replies assets state (later.map (Occurrence.after 1))) := by
  intro done handled panicked
  have handled_eq : handled = g.handleService env state request := by
    change g.handle assets env state request = _
    rw [handle, reaches]
  rw [handled_eq]
  rcases handleService_concluded g env request state with
    ⟨response, answered, failed, recorded, described⟩
  refine ⟨response, answered, failed, recorded, described, ?_⟩
  rintro ⟨message, crash⟩
  rw [state_of_providerPanics crash]
  exact ⟨failed ⟨message, .provider crash⟩, rfl, rfl, fun later => replies_ahead 1 g state assets later⟩

/-- A provider who crashes whatever it is asked. -/
def brokenProvider : ForeignProvider where
  name := "broken"
  login := fun _ _ => .crashed "provider blew up"
  get := fun _ => .crashed "provider blew up"
  list := .crashed "provider blew up"

/-- The surroundings with this provider. -/
def besideBroken : Surroundings :=
  { quiet with provider := .foreign brokenProvider }

theorem recorded_once_besideBroken :
    let handled := wikiGateway.handle .empty besideBroken .start aliceRequest
    Route.ofPath aliceRequest.uri.path = .service ∧
      wikiGateway.ProviderPanics besideBroken State.start.cache aliceRequest "provider blew up" ∧
      ∃ response record, handled.response = .ok response ∧ response.status = 500 ∧
        handled.access = some record ∧ record.status = 500 ∧ record.account = "-" ∧
        record.host = "wiki" ∧ record.userAgent = "-" ∧ record.crash = some "provider blew up" ∧
        handled.state.cache.memory = .empty := by
  intro handled
  have reaches : Route.ofPath aliceRequest.uri.path = .service := by decide
  have crash : wikiGateway.ProviderPanics besideBroken State.start.cache aliceRequest
      "provider blew up" :=
    ⟨alice, presents_alice rfl, ⟨rfl, rfl⟩, rfl⟩
  have failed := ((wikiGateway.authenticator.closed_authenticate besideBroken State.start.cache
    aliceRequest.headers).crashed _).mpr crash.asked
  rcases recorded_once wikiGateway .empty besideBroken .start aliceRequest reaches with
    ⟨response, answered, -, recorded, described, contained⟩
  rcases contained ⟨_, crash⟩ with ⟨status, memory, -, -⟩
  rcases Option.isSome_iff_exists.mp (recorded.mpr (Or.inl ⟨_, .provider crash⟩)) with
    ⟨record, listed⟩
  rcases described record listed with ⟨describes, names, crashes⟩
  have nobody : record.account = "-" :=
    names.unknown fun user known => by simp [failed] at known
  have named : Says aliceRequest.headers .host "wiki" := Inbound.text?_eq_some_iff.mp (by decide)
  have silent : ∀ text, ¬ Says aliceRequest.headers .userAgent text := by
    rintro text ⟨value, more, listed, -⟩
    exact absurd (show [] = value :: more from listed) (by simp)
  exact ⟨reaches, crash, response, record, answered, status, listed, describes.status.trans status,
    nobody, describes.host.eq_of_said named, describes.userAgent.eq_of_silent silent,
    (crashes _).mpr (.provider crash), memory⟩

end Gateway

end AuthGateway
