import AuthGateway.Proofs.Gateway.Traffic
import AuthGateway.Proofs.Provider.Local
import Mathlib.Data.List.Forall2

namespace AuthGateway

/-!
# A failed login tells nothing about the user

Somebody who sends login forms and whose logins all fail sees the responses, and whatever the gateway
remembers of them shows in later responses.  Neither depends on why a login has failed.  Two gateways
with different providers, or with different users on their lists, cannot be told apart in this way: the
same requests are answered alike, and leave the same behind (`Gateway.denials_alike`).

A login that the provider refuses is answered with a text of its own, in which only the name and the
type of the form come again, and is recorded under these two.  What stops it before that is the form
itself, the flood limiter or the throttle, and all three are the same on both sides if they have been
so far.
-/

open Net (Request Response)

namespace Gateway

/-- The gateway with these users on its list. -/
def listing (g : Gateway) (users : List LocalUser) : Gateway :=
  { g with config := { g.config with users := { g.config.users with locals := users } } }

/-- The same event with this provider. -/
def Event.asking (p : Provider) : Event → Event
  | .request env sent => .request { env with provider := p } sent
  | .sweep => .sweep
  | .advance span => .advance span

/-- A request to the login form, or the work of time. -/
def Event.IsLogin : Event → Prop
  | .request _ sent => Route.ofPath sent.uri.path = .loginForm
  | .sweep | .advance _ => True

instance : DecidablePred Event.IsLogin
  | .request _ sent => inferInstanceAs (Decidable (Route.ofPath sent.uri.path = .loginForm))
  | .sweep | .advance _ => isTrue trivial

/-- The same login request, at the same reading of the clock of the flood limiter, or the same work of
time.  The provider may be another one, and so may all else that surrounds the request. -/
inductive Twin : Event → Event → Prop where
  | login {env env' : Surroundings} {request : Request}
      (route : Route.ofPath request.uri.path = .loginForm)
      (floodClock : env.floodClock = env'.floodClock) :
      Twin (.request env request) (.request env' request)
  | sweep : Twin .sweep .sweep
  | advance (span : Time.Duration) : Twin (.advance span) (.advance span)

theorem Event.IsLogin.asking {event : Event} (isLogin : event.IsLogin) (p : Provider) :
    (event.asking p).IsLogin := by
  cases event with
  | request env request => exact isLogin
  | sweep => trivial
  | advance span => trivial

theorem Event.twin_asking {event : Event} (isLogin : event.IsLogin) (p p' : Provider) :
    Twin (event.asking p) (event.asking p') := by
  cases event with
  | request env request => exact .login isLogin rfl
  | sweep => exact .sweep
  | advance span => exact .advance span

/-- What a request is answered, and what an event leaves behind. -/
structure Outcome where
  response : Option (Except String Response)
  left : Situation

variable (g : Gateway) (assets : Assets)

def outcome (s : Situation) (event : Event) : Outcome where
  response :=
    match event with
    | .request env request => some (g.handle assets (s.around env) s.state request).response
    | .sweep | .advance _ => none
  left := g.step assets s event

/-- The outcomes of the events, one after another. -/
def outcomes : Situation → List Event → List Outcome
  | _, [] => []
  | s, event :: rest => g.outcome assets s event :: outcomes (g.step assets s event) rest

/-- If the event asks the provider for a login, the provider refuses it. -/
def Denied (s : Situation) : Event → Prop
  | .request env request =>
    ∀ attempt, g.attempt? request = some attempt → g.Passes (s.around env) s.state attempt →
      (env.provider.login (g.accountOf attempt) attempt.password).ending.isRefused = true
  | .sweep | .advance _ => True

/-- Each of the events is denied in the situation that those before it lead to. -/
def AllDenied : Situation → List Event → Prop
  | _, [] => True
  | s, event :: rest => g.Denied s event ∧ AllDenied (g.step assets s event) rest

variable {g assets} {env env' : Surroundings}

/-! ## One login -/

/-- A refusal shows in a text that is always the same. -/
private theorem result_tryLogin_of_refused (cache : Cache) {userType username password : String}
    (host : String)
    (refused : (env.provider.login (providerAccount g.config.authType userType username)
      password).ending.isRefused = true) :
    (g.tryLogin env cache userType username password host).result =
      .ok (retry username userType "invalid username or password") := by
  unfold tryLogin
  dsimp only
  cases ending : (env.provider.login (providerAccount g.config.authType userType username)
      password).ending with
  | refused e => rfl
  | value user =>
    rw [ending] at refused
    exact absurd refused Bool.false_ne_true
  | crashed message =>
    rw [ending] at refused
    exact absurd refused Bool.false_ne_true

section

variable (g) (cache : Cache) (form : LoginForm) (host : String)
  (conditions : env.conditions = env'.conditions)

include conditions

private theorem login_of_denied
    (denied : ∀ attempt, form.attempt? g.config = some attempt → (checked env cache attempt).1 = .ok () →
      (env.provider.login (g.accountOf attempt) attempt.password).ending.isRefused = true)
    (denied' : ∀ attempt, form.attempt? g.config = some attempt →
      (checked env' cache attempt).1 = .ok () →
      (env'.provider.login (g.accountOf attempt) attempt.password).ending.isRefused = true) :
    (g.login env cache form host).result = (g.login env' cache form host).result ∧
      (g.login env cache form host).cache = (g.login env' cache form host).cache := by
  cases tried : form.attempt? g.config with
  | none =>
    unfold LoginForm.attempt? at tried
    dsimp only at tried
    unfold login
    dsimp only
    split at tried
    · rename_i missing
      rw [if_pos missing, if_pos missing]
      exact ⟨rfl, rfl⟩
    · rename_i complete
      rw [if_neg complete, if_neg complete, Option.map_eq_none_iff.mp tried]
      exact ⟨rfl, rfl⟩
  | some attempt =>
    have same : checked env cache attempt = checked env' cache attempt := by
      rw [checked, checked, conditions]
    cases allowed : (checked env cache attempt).1 with
    | ok _ =>
      have allowed' := same ▸ allowed
      have refused := denied attempt tried allowed
      have refused' := denied' attempt tried allowed'
      rw [login_of_allowed tried allowed, login_of_allowed tried allowed']
      constructor
      · rw [result_tryLogin_of_refused _ host refused, result_tryLogin_of_refused _ host refused']
      · rw [(calls_tryLogin _ _ _).2, (calls_tryLogin _ _ _).2, same, conditions]
        exact (if_pos refused).trans (if_pos refused').symm
    | error e =>
      rcases parts_of_attempt? tried with ⟨complete, resolved, username, password⟩
      unfold checked at same allowed
      simp only [login, username, password, if_neg complete, resolved, same]
      rw [same] at allowed
      rw [allowed]
      cases e with
      | tooManyAttempts retryAfter => exact ⟨rfl, rfl⟩
      | cache e => exact ⟨rfl, rfl⟩

end

/-! ## One event -/

variable {request : Request} {s : Situation} {event event' : Event} (assets)

private theorem handle_of_denied (route : Route.ofPath request.uri.path = .loginForm)
    (floodClock : env.floodClock = env'.floodClock)
    (denied : g.Denied s (.request env request)) (denied' : g.Denied s (.request env' request)) :
    (g.handle assets (s.around env) s.state request).response =
        (g.handle assets (s.around env') s.state request).response ∧
      (g.handle assets (s.around env) s.state request).state =
        (g.handle assets (s.around env') s.state request).state := by
  have clock : (s.around env).floodClock = (s.around env').floodClock := floodClock
  unfold handle
  rw [route]
  dsimp only
  split
  · exact ⟨rfl, rfl⟩
  · cases passed : (s.state.flood.check g.config.loginRatePerMinute (s.around env').floodClock).1 with
    | false =>
      simp only [handleForm, clock, passed, Bool.not_false, if_true, and_self]
    | true =>
      by_cases method : request.method = "POST"
      · cases read : LoginForm.ofRequest request with
        | error response =>
          simp only [handleForm, clock, passed, method, read, Bool.not_true, Bool.false_eq_true,
            if_false, if_true, and_self]
        | ok form =>
          have tried : g.attempt? request = form.attempt? g.config := by
            rw [attempt?, if_pos ⟨route, method⟩, read]
          have conditions : (s.around env).conditions = (s.around env').conditions := rfl
          have login := login_of_denied g s.state.cache form (hostOf request) conditions
            (fun attempt complete allowed =>
              denied attempt (tried.trans complete) ⟨clock ▸ passed, allowed⟩)
            (fun attempt complete allowed => denied' attempt (tried.trans complete) ⟨passed, allowed⟩)
          simp only [handleForm, clock, passed, method, read, login.1, login.2, Bool.not_true,
            Bool.false_eq_true, if_false, if_true, and_self]
      · simp only [handleForm, clock, passed, if_neg method, Bool.not_true, Bool.false_eq_true,
          if_false, and_self]

private theorem outcome_of_denied (twin : Twin event event') (denied : g.Denied s event)
    (denied' : g.Denied s event') : g.outcome assets s event = g.outcome assets s event' := by
  cases twin with
  | login route floodClock =>
    rcases handle_of_denied assets route floodClock denied denied' with ⟨response, state⟩
    simp only [outcome, step, response, state]
  | sweep => rfl
  | advance span => rfl

/-! ## All events -/

private theorem outcomes_of_denied {events events' : List Event}
    (twins : List.Forall₂ Twin events events')
    (denied : g.AllDenied assets s events) (denied' : g.AllDenied assets s events') :
    g.outcomes assets s events = g.outcomes assets s events' := by
  induction twins generalizing s with
  | nil => rfl
  | @cons event event' rest rest' twin _ inductionHypothesis =>
    have same := outcome_of_denied assets twin denied.1 denied'.1
    have left : g.step assets s event = g.step assets s event' := congrArg Outcome.left same
    have later : g.AllDenied assets (g.step assets s event') rest := left ▸ denied.2
    rw [outcomes, outcomes, same, left, inductionHypothesis later denied'.2]

/-! ## Other users on the list -/

variable (g) (users : List LocalUser)

/-- To the login form the users on the list do not matter, only the provider does. -/
private theorem outcome_listing (isLogin : event.IsLogin) (s : Situation) :
    (g.listing users).outcome assets s event = g.outcome assets s event := by
  cases event with
  | request env request =>
    have handled : (g.listing users).handle assets (s.around env) s.state request =
        g.handle assets (s.around env) s.state request := by
      have route : Route.ofPath request.uri.path = .loginForm := isLogin
      unfold handle
      rw [route]
      rfl
    simp only [outcome, step, handled]
  | sweep => rfl
  | advance span => rfl

private theorem runs_listing {events : List Event} (logins : ∀ event ∈ events, event.IsLogin)
    (s : Situation) :
    (g.listing users).outcomes assets s events = g.outcomes assets s events ∧
      (g.listing users).AllDenied assets s events = g.AllDenied assets s events := by
  induction events generalizing s with
  | nil => exact ⟨rfl, rfl⟩
  | cons event rest inductionHypothesis =>
    have same := outcome_listing g assets users (logins event List.mem_cons_self) s
    have left : (g.listing users).step assets s event = g.step assets s event :=
      congrArg Outcome.left same
    have denied : (g.listing users).Denied s event = g.Denied s event := by
      cases event with
      | request env request => rfl
      | sweep => rfl
      | advance span => rfl
    rcases inductionHypothesis (fun other later => logins other (List.mem_cons_of_mem event later))
      (g.step assets s event) with ⟨outcomes, allDenied⟩
    constructor
    · rw [Gateway.outcomes, Gateway.outcomes, same, left, outcomes]
    · rw [AllDenied, AllDenied, denied, left, allDenied]

/-- From any situation on, with a cache that works, the same login requests are answered alike and leave
the same behind after each of them, whoever the providers are and however they refuse, if only both
refuse whenever they are asked.  So it is with two lists of local users: what comes of logins that all
fail tells neither who is listed nor who is disabled. -/
theorem denials_alike (s : Situation) :
    (∀ events events', List.Forall₂ Twin events events' → g.AllDenied assets s events →
      g.AllDenied assets s events' → g.outcomes assets s events = g.outcomes assets s events') ∧
    ∀ events : List Event, (∀ event ∈ events, event.IsLogin) → ∀ users users',
      let run (listed : List LocalUser) := events.map (.asking (.localUsers .standard listed))
      (g.listing users).AllDenied assets s (run users) →
      (g.listing users').AllDenied assets s (run users') →
      (g.listing users).outcomes assets s (run users) =
        (g.listing users').outcomes assets s (run users') := by
  constructor
  · exact fun events events' twins denied denied' => outcomes_of_denied assets twins denied denied'
  · intro events logins users users' run denied denied'
    have asked : ∀ listed, ∀ event ∈ run listed, event.IsLogin := by
      intro listed event member
      rcases List.mem_map.mp member with ⟨original, given, rfl⟩
      exact (logins original given).asking _
    have twins : List.Forall₂ Twin (run users) (run users') := by
      rw [List.forall₂_map_left_iff, List.forall₂_map_right_iff, List.forall₂_same]
      exact fun event given => Event.twin_asking (logins event given) _ _
    have runs := runs_listing g assets users (asked users) s
    have runs' := runs_listing g assets users' (asked users') s
    rw [runs.2] at denied
    rw [runs'.2] at denied'
    rw [runs.1, runs'.1]
    exact outcomes_of_denied assets twins denied denied'

/-- A provider that refuses everybody denies all logins. -/
private theorem allDenied_of_refuses {p : Provider}
    (refuses : ∀ account password, (p.login account password).ending.isRefused = true)
    (s : Situation) (events : List Event) :
    g.AllDenied assets s (events.map (.asking p)) := by
  induction events generalizing s with
  | nil => trivial
  | cons event rest inductionHypothesis =>
    refine ⟨?_, inductionHypothesis _⟩
    cases event with
    | request env request => exact fun attempt _ _ => refuses _ _
    | sweep => trivial
    | advance span => trivial

/-- Guesses at a name, and then its right password. -/
def guessesThenRight : List Event :=
  guesses ++ [.request atHome (formRequest "username=alice&password=secret")]

theorem denials_alike_disabled :
    let alice := { LocalUser.blank with account := "alice", password := "secret", disabled := true }
    let start := { now := 0, state := .start }
    let run (p : Provider) := guessesThenRight.map (.asking p)
    let listed (users : List LocalUser) := (homeGateway.listing users).outcomes .empty start
      (run (.localUsers .standard users))
    homeGateway.outcomes .empty start (run .database) =
        homeGateway.outcomes .empty start (run (.localUsers .standard [alice])) ∧
      listed [alice] = listed [] := by
  intro alice start run listed
  have closed : ∀ account password,
      ((Provider.localUsers .standard [alice]).login account password).ending.isRefused = true := by
    intro account password
    rcases LocalUser.login_outcome .standard [alice] account password with
      ⟨user, found, -, vouched⟩ | ⟨e, refused, -⟩
    · have same : user = alice := List.mem_singleton.mp (List.mem_of_find?_eq_some found)
      rw [Provider.login, vouched, same]
      rfl
    · rw [Provider.login, refused]
      rfl
  have unknown : ∀ account password,
      ((Provider.localUsers .standard []).login account password).ending.isRefused = true :=
    fun _ _ => rfl
  have logins : ∀ event ∈ guessesThenRight, event.IsLogin := by decide
  have twins : List.Forall₂ Twin (run .database) (run (.localUsers .standard [alice])) := by
    rw [List.forall₂_map_left_iff, List.forall₂_map_right_iff, List.forall₂_same]
    exact fun event given => Event.twin_asking (logins event given) _ _
  rcases denials_alike homeGateway .empty start with ⟨alike, lists⟩
  constructor
  · apply alike _ _ twins
    · exact allDenied_of_refuses _ _ (fun _ _ => rfl) start _
    · exact allDenied_of_refuses _ _ closed start _
  · apply lists _ logins
    · exact allDenied_of_refuses _ _ closed start _
    · exact allDenied_of_refuses _ _ unknown start _

end Gateway

end AuthGateway
