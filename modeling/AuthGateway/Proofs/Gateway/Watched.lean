import AuthGateway.Gateway.Router

namespace AuthGateway

/-!
# A provider that is watched

A provider may do its work without a trace.  Seen as one outside of the gateway it gives the same
answers, and every call of it shows.  Where a request is sent is settled without it
(`Gateway.serve_congr`), and otherwise to the gateway only the answers matter: what comes of a
request, and what it leaves behind, is the same with a provider that is watched
(`Gateway.handle_watched`).
-/

open Net (Request Response)

/-- The provider as one outside of the gateway, every call of which shows. -/
def Provider.watched (p : Provider) : Provider :=
  .foreign {
    name := ""
    login := fun account password => (p.login account password).ending
    get := fun account => (p.get account).ending
    list := p.list.ending }

namespace Surroundings

/-- The same surroundings, with the provider watched. -/
def watched (env : Surroundings) : Surroundings :=
  { env with provider := env.provider.watched }

/-- The two differ at most in what the provider does on the way to its answers. -/
structure Alike (env env' : Surroundings) : Prop where
  conditions : env.conditions = env'.conditions
  time : env.time = env'.time
  floodClock : env.floodClock = env'.floodClock
  nonce : env.nonce = env'.nonce
  network : env.network = env'.network
  login : ∀ account password, (env.provider.login account password).ending =
    (env'.provider.login account password).ending
  get : ∀ account, (env.provider.get account).ending = (env'.provider.get account).ending

theorem watched_alike (env : Surroundings) : env.watched.Alike env where
  conditions := rfl
  time := rfl
  floodClock := rfl
  nonce := rfl
  network := rfl
  login := fun _ _ => rfl
  get := fun _ => rfl

end Surroundings

variable {env env' : Surroundings}

namespace Gateway

variable {g : Gateway} {request : Request}

/-! ## What is sent on -/

section

variable (now : env.conditions.now = env'.conditions.now) (network : env.network = env'.network)
  (backend : Backend) (sender : Outbound.Sender)

include network

private theorem exchange_congr (request : OutboundRequest) (answer : Response → Response) :
    g.exchange env request answer = g.exchange env' request answer := by
  rw [exchange, exchange, network]

private theorem forwardWhole_congr :
    g.forwardWhole env backend request sender = g.forwardWhole env' backend request sender := by
  rw [forwardWhole, forwardWhole]
  cases unreadable? request with
  | some reason => rfl
  | none =>
    cases Outbound.headers request.headers backend sender false with
    | error e => rfl
    | ok headers => exact exchange_congr network _ _

include now

private theorem forwardUpgrade_congr :
    g.forwardUpgrade env backend request sender = g.forwardUpgrade env' backend request sender := by
  rw [forwardUpgrade, forwardUpgrade, now]
  cases request.takeover with
  | false => rw [Bool.not_false, if_pos rfl, if_pos rfl]
  | true =>
    cases Outbound.headers request.headers backend sender true with
    | error e => rfl
    | ok headers =>
      cases Time.after? env'.conditions.now g.config.requestTimeout with
      | none => rfl
      | some _ => exact exchange_congr network _ _

/-- Where a request of a user is sent, and what comes of it, is settled by the clock and the network. -/
theorem serve_congr (user : Session) : g.serve env user request = g.serve env' user request := by
  simp only [serve, forward, forwardWhole_congr network, forwardUpgrade_congr now network]

end

end Gateway

/-! ## What the answers of the provider settle -/

variable (alike : env.Alike env')

include alike

theorem Authenticator.authenticate_of_alike {a : Authenticator} (cache : Cache)
    (headers : Net.HeaderMap) :
    (a.authenticate env cache headers).result = (a.authenticate env' cache headers).result ∧
      (a.authenticate env cache headers).cache = (a.authenticate env' cache headers).cache := by
  simp only [authenticate, claimed, check, alike.conditions, alike.time, alike.get]
  split
  · exact ⟨rfl, rfl⟩
  · split
    · exact ⟨rfl, rfl⟩
    · exact ⟨rfl, rfl⟩

namespace Gateway

variable {g : Gateway} {request : Request}

private theorem serve_of_alike (user : Session) :
    g.serve env user request = g.serve env' user request :=
  serve_congr (congrArg Conditions.now alike.conditions) alike.network user

private theorem dispatch_of_alike (cache : Cache) :
    (g.dispatch env cache request).response = (g.dispatch env' cache request).response ∧
      (g.dispatch env cache request).cache = (g.dispatch env' cache request).cache := by
  rcases g.authenticator.authenticate_of_alike alike cache request.headers with ⟨result, left⟩
  simp only [dispatch, serve_of_alike alike, result, left, and_self]

private theorem login_of_alike (cache : Cache) (form : LoginForm) (host : String) :
    (g.login env cache form host).result = (g.login env' cache form host).result ∧
      (g.login env cache form host).cache = (g.login env' cache form host).cache := by
  simp only [login, tryLogin, openSession, alike.conditions, alike.time, alike.nonce, alike.login]
  split
  · exact ⟨rfl, rfl⟩
  · split
    · exact ⟨rfl, rfl⟩
    · split
      · split
        · exact ⟨rfl, rfl⟩
        · exact ⟨rfl, rfl⟩
        · exact ⟨rfl, rfl⟩
      · exact ⟨rfl, rfl⟩
      · exact ⟨rfl, rfl⟩

private theorem handleForm_of_alike (state : State) :
    (g.handleForm env state request).response = (g.handleForm env' state request).response ∧
      (g.handleForm env state request).state = (g.handleForm env' state request).state := by
  simp only [handleForm, alike.floodClock]
  split
  · exact ⟨rfl, rfl⟩
  · split
    · split
      · exact ⟨rfl, rfl⟩
      · simp only [login_of_alike alike, and_self]
    · exact ⟨rfl, rfl⟩

variable (assets : Assets)

/-- The response to a request, and what it leaves behind, depend on the answers of the provider
only. -/
theorem handle_of_alike (state : State) :
    (g.handle assets env state request).response = (g.handle assets env' state request).response ∧
      (g.handle assets env state request).state = (g.handle assets env' state request).state := by
  unfold handle
  cases Route.ofPath request.uri.path with
  | status =>
    rcases g.authenticator.authenticate_of_alike alike state.cache request.headers with ⟨result, left⟩
    simp only [handleStatus, result, left, and_self]
  | loginForm =>
    dsimp only
    split
    · exact ⟨rfl, rfl⟩
    · exact handleForm_of_alike alike state
  | service => simp only [handleService, dispatch_of_alike alike, and_self]
  | login => exact ⟨rfl, rfl⟩
  | logout => exact ⟨rfl, rfl⟩
  | health => exact ⟨rfl, rfl⟩
  | assets path => exact ⟨rfl, rfl⟩

omit alike

/-- To watch the provider changes nothing. -/
theorem handle_watched (env : Surroundings) (state : State) :
    (g.handle assets env.watched state request).response =
        (g.handle assets env state request).response ∧
      (g.handle assets env.watched state request).state = (g.handle assets env state request).state :=
  handle_of_alike env.watched_alike assets state

end Gateway

end AuthGateway
