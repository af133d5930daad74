import AuthGateway.Gateway.Router
import AuthGateway.Proofs.Gateway.Authenticator
import AuthGateway.Proofs.Net.Response
import AuthGateway.Proofs.Provider.Answer
import AuthGateway.Proofs.Store.Race

namespace AuthGateway

/-!
# What a login asks, and what it leaves behind

A complete login form tries a password for a kind of user and a name, whichever way the name was
typed.  The provider is asked about it if the flood limiter and the throttle let it pass, once and
under that name, and a refusal is recorded for it.  If one of the two stops it, nobody is asked, the
memory of the cache stays as it is, and the response sets no cookie.  A request that tries nothing
asks for nobody's login, and no counter changes by it.

To the cache a login is one guess, so logins that come at once race as guesses do
(`Gateway.cache_login`).
-/

open Net (Request Response)

/-- A password to be tried, and the pair that the throttle counts. -/
structure Attempt where
  userType : String
  username : String
  password : String
deriving DecidableEq

/-- What the form tries, if it is complete. -/
def LoginForm.attempt? (config : Config) (form : LoginForm) : Option Attempt :=
  let username := Gateway.normalName config.users.ignoreAccountSuffix form.username
  let password := Text.trim form.password
  if username = "" ∨ password = "" then none
  else
    (Gateway.userTypeOf? config.authType (Text.trim form.userType)).map fun userType =>
      { userType, username, password }

namespace Gateway

theorem plain_of_userTypeOf? {authType : AuthType} {asked userType : String}
    (resolved : userTypeOf? authType asked = some userType) : Plain userType := by
  unfold userTypeOf? at resolved
  split at resolved
  · rename_i fixed isFixed
    rw [← Option.some.inj resolved]
    cases authType with
    | localUsers => exact Option.some.inj isFixed ▸ (by decide)
    | ldap => exact Option.some.inj isFixed ▸ (by decide)
    | database => exact Option.some.inj isFixed ▸ (by decide)
    | composite => exact absurd isFixed (by simp [AuthType.fixedUserType?])
  · split at resolved
    · rename_i known
      rw [← Option.some.inj resolved]
      rcases known with rfl | rfl
      · decide
      · decide
    · exact absurd resolved (by simp)

/-- What the request tries, if it sends a login form. -/
def attempt? (g : Gateway) (request : Request) : Option Attempt :=
  if Route.ofPath request.uri.path = .loginForm ∧ request.method = "POST" then
    match LoginForm.ofRequest request with
    | .ok form => form.attempt? g.config
    | .error _ => none
  else none

variable (g : Gateway) (env : Surroundings)

/-- The name under which the provider knows the user. -/
def accountOf (attempt : Attempt) : String :=
  providerAccount g.config.authType attempt.userType attempt.username

/-- The check of the throttle before the attempt. -/
def checked (cache : Cache) (attempt : Attempt) : Except StoreError Unit × Cache :=
  (Throttle.check attempt.userType attempt.username).run env.conditions cache

theorem memory_checked (cache : Cache) (attempt : Attempt) :
    (checked env cache attempt).2.memory = cache.memory :=
  (Throttle.readsOnly_check attempt.userType attempt.username).memory_run env.conditions cache

/-- Neither the flood limiter nor the throttle stops the attempt. -/
def Passes (state : State) (attempt : Attempt) : Prop :=
  (state.flood.check g.config.loginRatePerMinute env.floodClock).1 = true ∧
    (checked env state.cache attempt).1 = .ok ()

variable {g env} {cache : Cache} {form : LoginForm} {attempt : Attempt} {host : String}

section

variable (tried : form.attempt? g.config = some attempt)

include tried

/-- What an attempt takes from the form. -/
theorem parts_of_attempt? :
    ¬ (attempt.username = "" ∨ attempt.password = "") ∧
      userTypeOf? g.config.authType (Text.trim form.userType) = some attempt.userType ∧
      normalName g.config.users.ignoreAccountSuffix form.username = attempt.username ∧
      Text.trim form.password = attempt.password := by
  unfold LoginForm.attempt? at tried
  dsimp only at tried
  split at tried
  · exact absurd tried (by simp)
  · rename_i complete
    rcases Option.map_eq_some_iff.mp tried with ⟨userType, resolved, rfl⟩
    exact ⟨complete, resolved, rfl, rfl⟩

theorem login_of_allowed (allowed : (checked env cache attempt).1 = .ok ()) :
    g.login env cache form host =
      g.tryLogin env (checked env cache attempt).2 attempt.userType attempt.username
        attempt.password host := by
  rcases parts_of_attempt? tried with ⟨complete, resolved, username, password⟩
  unfold checked at allowed ⊢
  simp only [login, username, password, if_neg complete, resolved, allowed]

/-- Without the leave of the throttle nobody is asked. -/
theorem login_of_refused (refused : (checked env cache attempt).1 ≠ .ok ()) (host : String) :
    (g.login env cache form host).calls = [] ∧
      (g.login env cache form host).cache = (checked env cache attempt).2 ∧
      ∃ response, settle (g.login env cache form host).result = .ok response ∧
        response.SetsNoCookie := by
  rcases parts_of_attempt? tried with ⟨complete, resolved, username, password⟩
  unfold checked at refused ⊢
  simp only [login, username, password, if_neg complete, resolved]
  cases allowed : ((Throttle.check attempt.userType attempt.username).run env.conditions cache).1 with
  | ok _ => exact absurd allowed refused
  | error e =>
    cases e with
    | tooManyAttempts retryAfter => exact ⟨rfl, rfl, _, rfl, Response.setsNoCookie_seeOther _⟩
    | cache e => exact ⟨rfl, rfl, _, rfl, (GatewayError.ofCache e).setsNoCookie_response⟩

end

/-- An incomplete form asks nobody. -/
theorem login_of_no_attempt (incomplete : form.attempt? g.config = none) :
    (g.login env cache form host).calls = [] ∧ (g.login env cache form host).cache = cache := by
  unfold LoginForm.attempt? at incomplete
  dsimp only at incomplete
  unfold login
  dsimp only
  split at incomplete
  · rename_i missing
    rw [if_pos missing]
    exact ⟨rfl, rfl⟩
  · rename_i complete
    rw [if_neg complete, Option.map_eq_none_iff.mp incomplete]
    exact ⟨rfl, rfl⟩

/-- A user who may try is asked for once, and a refusal is recorded. -/
theorem calls_tryLogin (userType username password : String) :
    let answer := env.provider.login (providerAccount g.config.authType userType username) password
    (g.tryLogin env cache userType username password host).calls = answer.calls ∧
      (g.tryLogin env cache userType username password host).cache =
        if answer.ending.isRefused then
          ((Throttle.record userType username).run env.conditions cache).2
        else cache := by
  unfold tryLogin
  dsimp only
  cases (env.provider.login (providerAccount g.config.authType userType username) password).ending with
  | value user => exact ⟨rfl, rfl⟩
  | refused e => exact ⟨rfl, rfl⟩
  | crashed message => exact ⟨rfl, rfl⟩

/-- To the cache a login is a guess, which is wrong if the provider refuses it. -/
theorem cache_login (tried : form.attempt? g.config = some attempt) (host : String) :
    let answer := env.provider.login (g.accountOf attempt) attempt.password
    (g.login env cache form host).cache =
      ((Throttle.guess attempt.userType attempt.username answer.ending.isRefused).run env.conditions
        cache).2 := by
  intro answer
  rw [Throttle.guess, Script.run_bind]
  change _ = ((Throttle.afterCheck _ _ _ (checked env cache attempt).1).run env.conditions
    (checked env cache attempt).2).2
  cases allowed : (checked env cache attempt).1 with
  | error e => exact (login_of_refused tried (by simp [allowed]) host).2.1
  | ok _ =>
    rw [login_of_allowed tried allowed, (calls_tryLogin _ _ _).2, Throttle.afterCheck]
    change (if answer.ending.isRefused then _ else _) = _
    cases answer.ending.isRefused with
    | false => rfl
    | true =>
      rw [if_pos rfl, if_pos rfl, Throttle.recording, Script.run_bind]
      rfl

variable {request : Request} (assets : Assets) {state : State}

section

variable (tried : g.attempt? request = some attempt)

include tried

/-- An attempt comes from a form that is sent. -/
theorem form_of_attempt? :
    Route.ofPath request.uri.path = .loginForm ∧ request.method = "POST" ∧
      ∃ form, LoginForm.ofRequest request = .ok form ∧ form.attempt? g.config = some attempt := by
  unfold attempt? at tried
  split at tried
  · rename_i sent
    refine ⟨sent.1, sent.2, ?_⟩
    split at tried
    · exact ⟨_, ‹_›, tried⟩
    · exact absurd tried (by simp)
  · exact absurd tried (by simp)

theorem plain_of_attempt? : Plain attempt.userType := by
  rcases form_of_attempt? tried with ⟨-, -, form, -, complete⟩
  exact plain_of_userTypeOf? (parts_of_attempt? complete).2.1

theorem handle_of_attempt? :
    g.handle assets env state request = g.handleForm env state request := by
  rcases form_of_attempt? tried with ⟨route, method, -⟩
  have writing : isReading request.method = false := by
    rw [method]
    decide
  simp only [handle, route, writing, Bool.false_eq_true, if_false]

/-- An attempt that passes asks the provider, and a refusal is recorded. -/
theorem handle_of_passes (passes : g.Passes env state attempt) :
    let answer := env.provider.login (g.accountOf attempt) attempt.password
    (g.handle assets env state request).calls = answer.calls ∧
      (g.handle assets env state request).state.cache =
        if answer.ending.isRefused then
          ((Throttle.record attempt.userType attempt.username).run env.conditions
            (checked env state.cache attempt).2).2
        else (checked env state.cache attempt).2 := by
  rw [handle_of_attempt? assets tried]
  rcases form_of_attempt? tried with ⟨-, method, form, read, complete⟩
  simp only [handleForm, passes.1, method, read, login_of_allowed complete passes.2, Bool.not_true,
    Bool.false_eq_true, if_false, if_true]
  exact calls_tryLogin attempt.userType attempt.username attempt.password

/-- What an attempt that passes is answered. -/
theorem response_of_passes (passes : g.Passes env state attempt) :
    (g.handle assets env state request).response =
      (settle (g.tryLogin env (checked env state.cache attempt).2 attempt.userType attempt.username
        attempt.password (hostOf request)).result).map Response.sized := by
  rw [handle_of_attempt? assets tried]
  rcases form_of_attempt? tried with ⟨-, method, form, read, complete⟩
  simp only [handleForm, passes.1, method, read, login_of_allowed complete passes.2, Bool.not_true,
    Bool.false_eq_true, if_false, if_true]

/-- Just the cookie is set that holds the session of a user whom the provider lets in. -/
theorem setsCookie_iff (passes : g.Passes env state attempt) {header : Net.HeaderValue} :
    (∃ response, (g.handle assets env state request).response = .ok response ∧
        header ∈ response.headers.getAll .setCookie) ↔
      ∃ user, (env.provider.login (g.accountOf attempt) attempt.password).ending = .value user ∧
        g.authenticator.cookie.setHeader (g.authenticator.cookie.encode env.time.unixSeconds env.nonce
          (Session.ofIdentity user attempt.username (hostOf request) env.time)) = .ok header := by
  have free : ∀ {bare : Response}, bare.SetsNoCookie →
      ¬ ∃ response, Except.ok (ε := String) bare.sized = .ok response ∧
        header ∈ response.headers.getAll .setCookie := by
    rintro bare cookieless ⟨response, answered, set⟩
    rw [← Except.ok.inj answered, cookieless.sized] at set
    exact absurd set List.not_mem_nil
  rw [response_of_passes assets tried passes, tryLogin, ← accountOf]
  cases (env.provider.login (g.accountOf attempt) attempt.password).ending with
  | crashed message => exact iff_of_false (by simp [settle, Except.map]) (by simp)
  | refused e => exact iff_of_false (free (Response.setsNoCookie_seeOther _)) (by simp)
  | value user =>
    simp only [Ending.value.injEq, exists_eq_left']
    rw [openSession]
    cases g.authenticator.cookie.setHeader (g.authenticator.cookie.encode env.time.unixSeconds
        env.nonce (Session.ofIdentity user attempt.username (hostOf request) env.time)) with
    | error e => exact iff_of_false (free (GatewayError.ofCookie e).setsNoCookie_response) (by simp)
    | ok header' =>
      have set : ((Response.seeOther "/").withHeader .setCookie header').sized.headers.getAll
          .setCookie = [header'] := by
        rw [Response.getAll_sized (by decide), Response.withHeader,
          Net.HeaderMap.getAll_insert_self]
      constructor
      · rintro ⟨response, answered, member⟩
        rw [← Except.ok.inj answered, set, List.mem_singleton] at member
        rw [member]
      · intro same
        refine ⟨_, rfl, ?_⟩
        rw [set, Except.ok.inj same]
        exact List.mem_singleton_self _

/-- An attempt that is stopped asks nobody, changes nothing, and sets no cookie. -/
theorem handle_of_stopped (stopped : ¬ g.Passes env state attempt) :
    (g.handle assets env state request).calls = [] ∧
      (g.handle assets env state request).state.cache.memory = state.cache.memory ∧
      ∃ response, (g.handle assets env state request).response = .ok response ∧
        response.SetsNoCookie := by
  rw [handle_of_attempt? assets tried]
  rcases form_of_attempt? tried with ⟨-, method, form, read, complete⟩
  cases passed : (state.flood.check g.config.loginRatePerMinute env.floodClock).1 with
  | false =>
    simp only [handleForm, passed, method, Bool.not_false, if_true]
    exact ⟨rfl, rfl, _, rfl, (GatewayError.setsNoCookie_response _).sized⟩
  | true =>
    have refused : (checked env state.cache attempt).1 ≠ .ok () :=
      fun allowed => stopped ⟨passed, allowed⟩
    rcases login_of_refused complete refused (hostOf request) with
      ⟨calls, cache, response, settled, free⟩
    simp only [handleForm, passed, method, read, calls, cache, settled, Bool.not_true,
      Bool.false_eq_true, if_false, if_true]
    exact ⟨trivial, memory_checked env state.cache attempt, _, rfl, free.sized⟩

end

theorem handleForm_of_no_attempt (route : Route.ofPath request.uri.path = .loginForm)
    (untried : g.attempt? request = none) :
    (g.handleForm env state request).calls = [] ∧
      (g.handleForm env state request).state.cache = state.cache := by
  cases passed : (state.flood.check g.config.loginRatePerMinute env.floodClock).1 with
  | false =>
    simp only [handleForm, passed, Bool.not_false, if_true]
    exact ⟨rfl, rfl⟩
  | true =>
    by_cases method : request.method = "POST"
    · simp only [attempt?, route, method, and_self, if_true] at untried
      simp only [handleForm, passed, method, Bool.not_true, Bool.false_eq_true, if_false, if_true]
      cases read : LoginForm.ofRequest request with
      | error response => exact ⟨rfl, rfl⟩
      | ok form =>
        rw [read] at untried
        exact login_of_no_attempt untried
    · simp only [handleForm, passed, if_neg method, Bool.not_true, Bool.false_eq_true, if_false]
      exact ⟨rfl, rfl⟩

/-- Without an attempt nobody's login is asked for, and no counter is touched. -/
theorem handle_of_no_attempt (untried : g.attempt? request = none) :
    (∀ call ∈ (g.handle assets env state request).calls,
      ∃ account, call ∈ (env.provider.get account).calls) ∧
    ∀ userType account now,
      (g.handle assets env state request).state.cache.memory.live? now (Throttle.key userType account) =
        state.cache.memory.live? now (Throttle.key userType account) := by
  have counter := Throttle.key_ne_markerKey
  have own : ∀ response, (∀ call ∈ (Handled.own state response).calls,
      ∃ account, call ∈ (env.provider.get account).calls) ∧
      ∀ userType account now,
        (Handled.own state response).state.cache.memory.live? now (Throttle.key userType account) =
          state.cache.memory.live? now (Throttle.key userType account) :=
    fun _ => ⟨fun _ made => absurd made List.not_mem_nil, fun _ _ _ => rfl⟩
  unfold handle
  split
  · exact ⟨fun _ => Authenticator.exists_get_of_mem_calls, fun userType account =>
      Authenticator.live?_authenticate (counter userType account)⟩
  · exact own _
  · rename_i route
    split
    · exact own _
    · rcases handleForm_of_no_attempt route untried with ⟨calls, cache⟩
      rw [calls, cache]
      exact ⟨fun _ made => absurd made List.not_mem_nil, fun _ _ _ => rfl⟩
  · exact own _
  · exact own _
  · exact own _
  · exact ⟨fun _ => Authenticator.exists_get_of_mem_calls, fun userType account =>
      Authenticator.live?_authenticate (counter userType account)⟩

end Gateway

end AuthGateway
