import AuthGateway.Proofs.Gateway.Watched

namespace AuthGateway

/-!
# A cache that has been called before

The calls of a cache are numbered, and their numbers say which of them fail.  That is all that the
numbers are for.  After some more calls that have changed nothing the same requests are answered in the
same way, if the calls that fail are those of the same places from there on (`Gateway.replies_ahead`).
-/

open Net (Request Response)
open Time (Instant)

/-- The same conditions for a cache that has had so many calls fewer. -/
def Conditions.after (env : Conditions) (count : Nat) : Conditions where
  now := env.now
  outage := fun call => env.outage (call + count)

/-- The cache after so many more calls that have changed nothing. -/
def Cache.ahead (c : Cache) (count : Nat) : Cache where
  memory := c.memory
  calls := c.calls + count

variable (count : Nat)

theorem Cache.attempt_ahead {α : Type} (c : Cache) (env : Conditions) (operation : Operation)
    (effect : Except CacheError α × Memory) :
    (c.ahead count).attempt env operation effect =
      ((c.attempt (env.after count) operation effect).1,
        (c.attempt (env.after count) operation effect).2.ahead count) := by
  have same : (c.ahead count).failure? env operation = c.failure? (env.after count) operation := rfl
  have next : ∀ memory, (c.ahead count).called memory = (c.called memory).ahead count := by
    intro memory
    rw [ahead, called, called, ahead, Nat.add_right_comm]
  rw [attempt, attempt, same]
  cases c.failure? (env.after count) operation with
  | none => exact congrArg (Prod.mk effect.1) (next effect.2)
  | some error => exact congrArg (Prod.mk (Except.error error)) (next c.memory)

/-- A script does the same work on a cache that has been called before. -/
theorem Script.run_ahead {α : Type} (script : Script α) (env : Conditions) (c : Cache) :
    script.run env (c.ahead count) =
      ((script.run (env.after count) c).1, (script.run (env.after count) c).2.ahead count) := by
  induction script generalizing c with
  | done result => rfl
  | get key next inductionHypothesis =>
    rw [run, run, Cache.attempt_ahead]
    apply inductionHypothesis
  | set key value next inductionHypothesis =>
    rw [run, run, Cache.attempt_ahead]
    apply inductionHypothesis
  | expire key span next inductionHypothesis =>
    rw [run, run, Cache.attempt_ahead]
    apply inductionHypothesis
  | ttl key next inductionHypothesis =>
    rw [run, run, Cache.attempt_ahead]
    apply inductionHypothesis
  | incr key next inductionHypothesis =>
    rw [run, run, Cache.attempt_ahead]
    apply inductionHypothesis

/-- The same surroundings for a cache that has had so many calls fewer. -/
def Surroundings.after (env : Surroundings) (count : Nat) : Surroundings :=
  { env with conditions := env.conditions.after count }

variable (env : Surroundings) (cache : Cache)

namespace Surroundings

@[simp] theorem conditions_after : (env.after count).conditions = env.conditions.after count :=
  rfl

@[simp] theorem time_after : (env.after count).time = env.time :=
  rfl

@[simp] theorem floodClock_after : (env.after count).floodClock = env.floodClock :=
  rfl

@[simp] theorem nonce_after : (env.after count).nonce = env.nonce :=
  rfl

@[simp] theorem provider_after : (env.after count).provider = env.provider :=
  rfl

end Surroundings

theorem Authenticator.authenticate_ahead (a : Authenticator) (headers : Net.HeaderMap) :
    let done := a.authenticate (env.after count) cache headers
    a.authenticate env (cache.ahead count) headers =
      { result := done.result, calls := done.calls, cache := done.cache.ahead count } := by
  simp only [authenticate, claimed, check, Script.run_ahead, Surroundings.conditions_after,
    Surroundings.time_after, Surroundings.provider_after]
  split
  · rfl
  · split
    · rfl
    · rfl

namespace Gateway

variable (g : Gateway) (request : Request)

theorem tryLogin_ahead (userType username password host : String) :
    let done := g.tryLogin (env.after count) cache userType username password host
    g.tryLogin env (cache.ahead count) userType username password host =
      { done with cache := done.cache.ahead count } := by
  simp only [tryLogin, Script.run_ahead, openSession, Surroundings.conditions_after,
    Surroundings.time_after, Surroundings.nonce_after, Surroundings.provider_after]
  split
  · rfl
  · rfl
  · rfl

theorem login_ahead (form : LoginForm) (host : String) :
    let done := g.login (env.after count) cache form host
    g.login env (cache.ahead count) form host = { done with cache := done.cache.ahead count } := by
  simp only [login, Script.run_ahead, tryLogin_ahead, Surroundings.conditions_after]
  split
  · rfl
  · split
    · rfl
    · split
      · rfl
      · rfl
      · rfl

theorem dispatch_ahead :
    let done := g.dispatch (env.after count) cache request
    g.dispatch env (cache.ahead count) request = { done with cache := done.cache.ahead count } := by
  have same : ∀ user, g.serve (env.after count) user request = g.serve env user request :=
    serve_congr rfl rfl
  simp only [dispatch, Authenticator.authenticate_ahead, same]

/-- The state after so many more calls of the cache that have changed nothing. -/
def State.ahead (state : State) (count : Nat) : State :=
  { state with cache := state.cache.ahead count }

variable (state : State)

theorem handleStatus_ahead :
    let done := g.handleStatus (env.after count) state request
    g.handleStatus env (state.ahead count) request = { done with state := done.state.ahead count } := by
  simp only [handleStatus, State.ahead, Authenticator.authenticate_ahead]

theorem handleForm_ahead :
    let done := g.handleForm (env.after count) state request
    g.handleForm env (state.ahead count) request = { done with state := done.state.ahead count } := by
  simp only [handleForm, State.ahead, login_ahead, Surroundings.floodClock_after]
  by_cases passed : (state.flood.check g.config.loginRatePerMinute env.floodClock).1 = true
  · by_cases post : request.method = "POST"
    · simp only [passed, post, Bool.not_true, Bool.false_eq_true, if_true, if_false]
      cases LoginForm.ofRequest request with
      | error response => rfl
      | ok form => rfl
    · simp only [passed, post, Bool.not_true, Bool.false_eq_true, if_false]
      rfl
  · simp only [passed, Bool.not_false, if_true]
    rfl

theorem handleService_ahead :
    let done := g.handleService (env.after count) state request
    g.handleService env (state.ahead count) request = { done with state := done.state.ahead count } := by
  simp only [handleService, State.ahead, dispatch_ahead]

/-- A request is handled in the same way after some more calls of the cache. -/
theorem handle_ahead (assets : Assets) :
    let done := g.handle assets (env.after count) state request
    g.handle assets env (state.ahead count) request = { done with state := done.state.ahead count } := by
  unfold handle
  cases Route.ofPath request.uri.path with
  | status => exact handleStatus_ahead count env g request state
  | loginForm =>
    dsimp only
    split
    · rfl
    · exact handleForm_ahead count env g request state
  | service => exact handleService_ahead count env g request state
  | login => rfl
  | logout => rfl
  | health => rfl
  | assets path => rfl

/-- What can happen to a gateway, each event with all that surrounds it. -/
inductive Occurrence where
  | request (env : Surroundings) (request : Request)
  | sweep (now : Instant)

/-- The same event for a cache that has had so many calls fewer. -/
def Occurrence.after (count : Nat) : Occurrence → Occurrence
  | .request env request => .request (env.after count) request
  | .sweep now => .sweep now

/-- All that a request shows to others. -/
structure Reply where
  response : Except String Response
  access : Option AccessRecord
  calls : List Call
  sent : Option OutboundRequest

def Handled.reply (handled : Handled) : Reply where
  response := handled.response
  access := handled.access
  calls := handled.calls
  sent := handled.sent

def State.swept (state : State) (now : Instant) : State :=
  { state with cache := { state.cache with memory := state.cache.memory.sweep now } }

/-- What the requests show, one after another, from a state on. -/
def replies (g : Gateway) (assets : Assets) (state : State) : List Occurrence → List Reply
  | [] => []
  | .request env request :: rest =>
    let handled := g.handle assets env state request
    handled.reply :: g.replies assets handled.state rest
  | .sweep now :: rest => g.replies assets (state.swept now) rest

/-- All requests are answered in the same way after some more calls of the cache. -/
theorem replies_ahead (assets : Assets) (occurrences : List Occurrence) :
    g.replies assets (state.ahead count) occurrences =
      g.replies assets state (occurrences.map (Occurrence.after count)) := by
  induction occurrences generalizing state with
  | nil => rfl
  | cons occurrence rest inductionHypothesis =>
    cases occurrence with
    | sweep now => exact inductionHypothesis (state.swept now)
    | request env request =>
      rw [List.map_cons, Occurrence.after, replies, replies, handle_ahead]
      apply congrArg (List.cons _)
      apply inductionHypothesis

end Gateway

end AuthGateway
