import AuthGateway.Proofs.Config.Checks
import AuthGateway.Proofs.Gateway.Answered
import AuthGateway.Proofs.Gateway.Journey
import AuthGateway.Proofs.Gateway.Records
import AuthGateway.Proofs.Store.Clock
import AuthGateway.Proofs.Time.Timestamp

namespace AuthGateway

/-!
# Times that a request reckons with

On its way a request subtracts the age of a session from the calendar, and adds the windows of the throttle
and of the markers to the steady clock.  In an accepted configuration no age leaves the numbers of 64 bits,
and no window the clock.  The timeout of a backend is added to the clock only for a connection that is
handed over, and this sum can be no instant: then the handling crashes (`Gateway.deadline_alone_overflows`).
A request that is read whole knows no such limit.
-/

open Net (Request Response)

/-- The calendar does not lie before its epoch, and the end of the steady clock is further than any window. -/
structure Surroundings.Running (env : Surroundings) : Prop where
  calendar : 0 ≤ env.time.unixSeconds
  clock : env.conditions.now + Marker.validity.nanos < Time.instantLimit

/-- The provider crashes at some question. -/
def Provider.Crashes (p : Provider) (message : String) : Prop :=
  (∃ account, (p.get account).ending = .crashed message) ∨
    ∃ account password, (p.login account password).ending = .crashed message

/-- What an authentication does with the cache. -/
def Authenticator.work (a : Authenticator) (env : Surroundings) (headers : Net.HeaderMap) : Script Unit :=
  match a.claimed env headers with
  | none => .done ()
  | some info =>
    let answer := env.provider.get (a.accountOf info)
    (Marker.validate (fun e => Failure.error (.ofCache e)) info.id env.time
      (verdict answer.ending)).quietly

theorem Authenticator.cache_authenticate {a : Authenticator} {env : Surroundings} (cache : Cache)
    (headers : Net.HeaderMap) :
    (a.authenticate env cache headers).cache = ((a.work env headers).run env.conditions cache).2 := by
  unfold authenticate work
  cases a.claimed env headers with
  | none => rfl
  | some info =>
    dsimp only
    rw [Script.run_quietly]
    split
    · rfl
    · rfl

namespace Gateway

/-- What the handling of a request does with the cache. -/
def work (g : Gateway) (env : Surroundings) (state : State) (request : Request) : Script Unit :=
  match Route.ofPath request.uri.path with
  | .status | .service => g.authenticator.work env request.headers
  | .loginForm =>
    match g.attempt? request with
    | none => .done ()
    | some attempt =>
      let answer := env.provider.login (g.accountOf attempt) attempt.password
      if (state.flood.check g.config.loginRatePerMinute env.floodClock).1 then
        (Throttle.guess attempt.userType attempt.username answer.ending.isRefused).quietly
      else .done ()
  | _ => .done ()

variable {g : Gateway} {env : Surroundings} {state : State} {request : Request}

/-- To the cache an attempt is a guess, unless the flood limiter stops it. -/
private theorem cache_of_attempt? (assets : Assets) {attempt : Attempt}
    (tried : g.attempt? request = some attempt) :
    (g.handle assets env state request).state.cache =
      if (state.flood.check g.config.loginRatePerMinute env.floodClock).1 then
        ((Throttle.guess attempt.userType attempt.username
          (env.provider.login (g.accountOf attempt) attempt.password).ending.isRefused).run
            env.conditions state.cache).2
      else state.cache := by
  rw [handle_of_attempt? assets tried]
  rcases form_of_attempt? tried with ⟨-, method, form, read, complete⟩
  cases passed : (state.flood.check g.config.loginRatePerMinute env.floodClock).1 with
  | false =>
    simp only [handleForm, passed, Bool.not_false, if_true]
    rfl
  | true =>
    simp only [handleForm, passed, method, read, Bool.not_true, Bool.false_eq_true, if_false, if_true]
    exact cache_login complete (hostOf request)

/-- The handling leaves the cache as its work does. -/
theorem cache_handle (assets : Assets) :
    (g.handle assets env state request).state.cache =
      ((g.work env state request).run env.conditions state.cache).2 := by
  cases tried : g.attempt? request with
  | some attempt =>
    have route := (form_of_attempt? tried).1
    rw [cache_of_attempt? assets tried, work, route]
    dsimp only
    rw [tried]
    dsimp only
    split
    · rw [Script.run_quietly]
    · rfl
  | none =>
    unfold handle work
    cases route : Route.ofPath request.uri.path with
    | status => exact Authenticator.cache_authenticate state.cache request.headers
    | service => exact Authenticator.cache_authenticate state.cache request.headers
    | loginForm =>
      dsimp only
      rw [tried]
      split
      · rfl
      · exact (handleForm_of_no_attempt route tried).2
    | login => rfl
    | logout => rfl
    | health => rfl
    | assets path => rfl

/-- Every deadline that is set on the way is a window ahead. -/
theorem dates_work {Right : Time.Duration → Prop} (throttle : Right Throttle.window)
    (marker : Right Marker.validity) : (g.work env state request).Dates Right := by
  have authentication : (g.authenticator.work env request.headers).Dates Right := by
    unfold Authenticator.work
    split
    · trivial
    · exact (Marker.dates_validate marker _ _ _ _).quietly
  unfold work
  split
  · exact authentication
  · exact authentication
  · split
    · trivial
    · dsimp only
      split
      · exact (Throttle.dates_guess throttle _ _ _).quietly
      · trivial
  · trivial

/-- A connection of the user could be handed over. -/
structure HandsOver (g : Gateway) (request : Request) (user : Session) : Prop where
  admitted : ∃ backend, g.table.resolve? (hostOf request) = some backend ∧
    backend.hasPrivilege user = true ∧
    (Outbound.headers request.headers backend (g.senderOf user request) true).isOk = true
  upgrade : Inbound.isUpgrade request.headers = true
  takeover : request.takeover = true

theorem deadlinePanics_iff {user : Session} :
    g.DeadlinePanics env request user ↔ g.HandsOver request user ∧
      Time.instantLimit ≤ env.conditions.now + g.config.requestTimeout.nanos := by
  constructor
  · intro panics
    exact ⟨⟨panics.admitted, panics.upgrade, panics.takeover⟩, Time.after?_eq_none_iff.mp panics.overflow⟩
  · rintro ⟨handsOver, unshown⟩
    exact {
      admitted := handsOver.admitted
      upgrade := handsOver.upgrade
      takeover := handsOver.takeover
      overflow := Time.after?_eq_none_iff.mpr unshown }

/-- The connection of a user could be handed over, but the sum of the clock and the timeout is no instant. -/
structure Overflows (g : Gateway) (env : Surroundings) (cache : Cache) (request : Request) : Prop where
  service : Route.ofPath request.uri.path = .service
  handsOver : ∃ user,
    (g.authenticator.authenticate env cache request.headers).result = .ok (some user) ∧
      g.HandsOver request user
  unshown : Time.instantLimit ≤ env.conditions.now + g.config.requestTimeout.nanos

/-- The handling ends in a crash, which is either contained and recorded or breaks out. -/
def Handled.Crashes (handled : Handled) (message : String) : Prop :=
  handled.response = .error message ∨
    ∃ record, handled.access = some record ∧ record.crash = some message

section

variable {message : String}

/-- A crash of a request for a service is one of the provider, or the deadline is no instant. -/
theorem crashes_handleService_iff (service : Route.ofPath request.uri.path = .service) :
    (g.handleService env state request).Crashes message ↔
      g.ProviderPanics env state.cache request message ∨
      message = "overflow when adding duration to instant" ∧ g.Overflows env state.cache request := by
  rcases handleService_concluded g env request state with ⟨response, answered, -, recorded, described⟩
  have crashes : (g.handleService env state request).Crashes message ↔
      g.Panics env state.cache request message := by
    constructor
    · rintro (broken | ⟨record, listed, crash⟩)
      · exact absurd (answered.symm.trans broken) (by simp)
      · exact ((described record listed).2.2 message).mp crash
    · intro panics
      rcases Option.isSome_iff_exists.mp (recorded.mpr (Or.inl ⟨message, panics⟩)) with ⟨record, listed⟩
      exact Or.inr ⟨record, listed, ((described record listed).2.2 message).mpr panics⟩
  rw [crashes]
  constructor
  · intro panics
    cases panics with
    | provider crash => exact Or.inl crash
    | @deadline user known crash =>
      rcases deadlinePanics_iff.mp crash with ⟨handsOver, unshown⟩
      exact Or.inr ⟨rfl, service, ⟨user, known, handsOver⟩, unshown⟩
  · rintro (crash | ⟨rfl, -, ⟨user, known, handsOver⟩, unshown⟩)
    · exact .provider crash
    · exact .deadline known (deadlinePanics_iff.mpr ⟨handsOver, unshown⟩)

theorem not_crashes_own (response : Response) : ¬ (Handled.own state response).Crashes message := by
  rintro (broken | ⟨record, listed, -⟩)
  · exact absurd broken (by simp [Handled.own])
  · exact absurd listed (by simp [Handled.own])

theorem settle_map_eq_error_iff {result : Except Failure Response} {finish : Response → Response} :
    (settle result).map finish = .error message ↔ result = .error (.crash message) := by
  cases result with
  | ok response => simp [settle, Except.map]
  | error failure => cases failure <;> simp [settle, Except.map]

private theorem crashes_of_handleStatus (crashes : (g.handleStatus env state request).Crashes message) :
    env.provider.Crashes message := by
  have closed := g.authenticator.closed_authenticate env state.cache request.headers
  rcases crashes with broken | ⟨record, listed, -⟩
  · cases done : (g.authenticator.authenticate env state.cache request.headers).result with
    | error failure =>
      simp only [handleStatus, done] at broken
      rw [Except.error.inj (settle_map_eq_error_iff.mp broken)] at done
      rcases (closed.crashed message).mp done with ⟨info, -, -, crash⟩
      exact Or.inl ⟨_, crash⟩
    | ok found =>
      cases found with
      | none => exact absurd broken (by simp [handleStatus, done, Except.map])
      | some user => exact absurd broken (by simp [handleStatus, done, Except.map])
  · exact absurd listed (by simp [handleStatus])

private theorem crashes_of_login {cache : Cache} {form : LoginForm} {host : String}
    (broken : (g.login env cache form host).result = .error (.crash message)) :
    env.provider.Crashes message := by
  unfold login at broken
  dsimp only at broken
  split at broken
  · exact absurd broken (by simp)
  · split at broken
    · exact absurd broken (by simp)
    · split at broken
      · unfold tryLogin at broken
        dsimp only at broken
        split at broken
        · rename_i said crash
          cases broken
          exact Or.inr ⟨_, _, crash⟩
        · exact absurd broken (by simp)
        · split at broken
          · exact absurd broken (by simp)
          · exact absurd broken (by simp)
      · exact absurd broken (by simp)
      · exact absurd broken (by simp)

private theorem crashes_of_handleForm (crashes : (g.handleForm env state request).Crashes message) :
    env.provider.Crashes message := by
  unfold handleForm at crashes
  dsimp only at crashes
  split at crashes
  · exact absurd crashes (not_crashes_own _)
  · split at crashes
    · split at crashes
      · exact absurd crashes (not_crashes_own _)
      · rcases crashes with broken | ⟨record, listed, -⟩
        · exact crashes_of_login (settle_map_eq_error_iff.mp broken)
        · exact absurd listed (by simp)
    · exact absurd crashes (not_crashes_own _)

/-- Where nothing overflows, only the provider crashes. -/
theorem crashes_of_handle {assets : Assets}
    (crashes : (g.handle assets env state request).Crashes message) :
    env.provider.Crashes message ∨
      message = "overflow when adding duration to instant" ∧ g.Overflows env state.cache request := by
  unfold handle at crashes
  split at crashes
  · exact Or.inl (crashes_of_handleStatus crashes)
  · exact absurd crashes (not_crashes_own _)
  · split at crashes
    · exact absurd crashes (not_crashes_own _)
    · exact Or.inl (crashes_of_handleForm crashes)
  · exact absurd crashes (not_crashes_own _)
  · exact absurd crashes (not_crashes_own _)
  · exact absurd crashes (not_crashes_own _)
  · rename_i service
    rcases (crashes_handleService_iff service).mp crashes with ⟨info, -, -, crash⟩ | overflows
    · exact Or.inl (Or.inl ⟨_, crash⟩)
    · exact Or.inr overflows

theorem crashes_of_overflows (assets : Assets) (overflows : g.Overflows env state.cache request) :
    (g.handle assets env state request).Crashes "overflow when adding duration to instant" := by
  rw [handle, overflows.service]
  exact (crashes_handleService_iff overflows.service).mpr (Or.inr ⟨rfl, overflows⟩)

end

/-- In an accepted configuration the age of a session stays in 64 bits, and the clock shows all deadlines
that are set in the cache.  A timeout that it cannot show crashes the request where a connection would be
handed over, and no other request; all other crashes are those of the provider. -/
theorem deadline_alone_overflows {c : Config} (valid : c.validate = .ok ())
    (fits : c.session.maxAge ≤ Text.int64Max) :
    ∃ g, ofConfig c = .ok g ∧
      ∀ (assets : Assets) (env : Surroundings) (state : State) (request : Request), env.Running →
        let handled := g.handle assets env state request
        let work := g.work env state request
        let age := env.time.unixSeconds - g.authenticator.cookie.maxAge
        (Text.int64Min ≤ age ∧ age ≤ Text.int64Max) ∧
        (work.runOnClock env.conditions state.cache = some (work.run env.conditions state.cache) ∧
          handled.state.cache = (work.run env.conditions state.cache).2) ∧
        (∀ message, handled.Crashes message → env.provider.Crashes message ∨
          message = "overflow when adding duration to instant" ∧ g.Overflows env state.cache request) ∧
        (g.Overflows env state.cache request →
          handled.Crashes "overflow when adding duration to instant") := by
  have lasting : 0 ≤ c.session.maxAge :=
    (Config.passes_checks_iff.mp (valid ▸ c.runs_validate).passes_of_ok).maxAge
  rcases exists_ofConfig valid with ⟨g, built⟩
  have made := madeOf_of_ofConfig built
  refine ⟨g, built, fun assets env state request running => ?_⟩
  intro handled work age
  have marker : (Time.after? env.conditions.now Marker.validity).isSome = true :=
    Time.isSome_after?_iff.mpr running.clock
  have throttle : (Time.after? env.conditions.now Throttle.window).isSome = true :=
    Time.isSome_after?_iff.mpr
      (Nat.lt_of_le_of_lt (Nat.add_le_add_left (by decide) env.conditions.now) running.clock)
  refine ⟨?_, ⟨?_, cache_handle assets⟩, fun message => crashes_of_handle, crashes_of_overflows assets⟩
  · have calendar := running.calendar
    have second := env.time.unixSeconds_bounds
    have kept : age = env.time.unixSeconds - c.session.maxAge :=
      congrArg (env.time.unixSeconds - ·) made.maxAge
    simp only [Text.int64Min, Text.int64Max] at fits second ⊢
    omega
  · exact Script.runOnClock_of_dates (dates_work throttle marker) state.cache

theorem running_refusing : refusing.Running where
  calendar := by decide
  clock := by decide

/-- Users that are listed cause no crash. -/
theorem not_crashes_refusing (message : String) : ¬ refusing.provider.Crashes message := by
  rintro (⟨account, crash⟩ | ⟨account, password, crash⟩)
  · exact Ending.ofExcept_ne_crashed _ message crash
  · exact Ending.ofExcept_ne_crashed _ message crash

theorem handsOver_socketRequest : wikiGateway.HandsOver socketRequest alice where
  admitted := by
    refine ⟨wikiBackend, admitted_socketRequest.found, admitted_socketRequest.privileged, ?_⟩
    have legal : (Net.HeaderValue.ofText? wikiBackend.host).isSome = true := by decide
    rcases headers_eq legal (wikiGateway.senderOf alice socketRequest) true with
      ⟨illegal, -⟩ | ⟨-, headers, made⟩
    · exact absurd illegal (by decide)
    · rw [made]
      rfl
  upgrade := isUpgrade_socketRequest
  takeover := rfl

/-- The connection is handed over within a minute. -/
theorem deadline_alone_overflows_socketRequest :
    let handled := wikiGateway.handle .empty refusing .start socketRequest
    wikiConfig.validate = .ok () ∧ wikiConfig.session.maxAge ≤ Text.int64Max ∧ refusing.Running ∧
      wikiGateway.HandsOver socketRequest alice ∧ ∀ message, ¬ handled.Crashes message := by
  have valid : wikiConfig.validate = .ok () := rfl
  have fits : wikiConfig.session.maxAge ≤ Text.int64Max := by decide
  refine ⟨valid, fits, running_refusing, handsOver_socketRequest, fun message crashes => ?_⟩
  rcases deadline_alone_overflows valid fits with ⟨g, built, reckons⟩
  have same : g = wikiGateway := (Except.ok.inj built).symm
  rw [same] at reckons
  rcases reckons .empty refusing .start socketRequest running_refusing with ⟨-, -, crash, -⟩
  rcases crash message crashes with crash | ⟨-, overflows⟩
  · exact not_crashes_refusing message crash
  · exact absurd overflows.unshown (by decide)

/-- The configuration with the longest timeout that it can be given. -/
def patientConfig : Config :=
  { wikiConfig with requestTimeoutSecs := 18446744073709551615 }

def patientGateway : Gateway :=
  { wikiGateway with config := patientConfig }

/-- The longest timeout is accepted, and every connection that would be handed over crashes with it; a
request that is read whole does not. -/
theorem crashes_of_longest_timeout :
    patientConfig.validate = .ok () ∧ ofConfig patientConfig = .ok patientGateway ∧
      patientConfig.session.maxAge ≤ Text.int64Max ∧ refusing.Running ∧
      (patientGateway.handle .empty refusing .start socketRequest).Crashes
        "overflow when adding duration to instant" ∧
      ∀ message, ¬ (patientGateway.handle .empty refusing .start aliceRequest).Crashes message := by
  have overflows : patientGateway.Overflows refusing State.start.cache socketRequest := {
    service := by decide
    handsOver := ⟨alice, admitted_socketRequest.known, handsOver_socketRequest.admitted,
      isUpgrade_socketRequest, rfl⟩
    unshown := by decide }
  refine ⟨rfl, rfl, by decide, running_refusing, crashes_of_overflows .empty overflows, ?_⟩
  intro message crashes
  rcases crashes_of_handle crashes with crash | ⟨-, overflows⟩
  · exact not_crashes_refusing message crash
  · rcases overflows.handsOver with ⟨user, -, handsOver⟩
    exact absurd handsOver.upgrade (by decide)

end Gateway

end AuthGateway
