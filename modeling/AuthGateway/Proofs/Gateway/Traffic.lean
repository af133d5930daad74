import AuthGateway.Proofs.Gateway.Login
import AuthGateway.Proofs.Gateway.Watched
import AuthGateway.Proofs.Occasions
import AuthGateway.Proofs.Store.Pace

namespace AuthGateway

/-!
# Guesses of a password are counted

Requests of anybody reach the gateway one after another, whatever surrounds each of them, while the
clock goes on and the cache works.  Whichever way a name is typed and whoever types it, the failed
logins of a kind of user and a name are counted together, and apart from those of all others, so that
no window of ten minutes holds more than six of them.  After the sixth a login asks nobody, is given
no cookie, and leaves the counter as it is (`Gateway.failures_throttled`).

The counter of the pair is always that of its failures: an attempt that passes finds a chain of at
most five and makes it one longer if the provider refuses, and nothing else touches the counter but
time.
-/

open Net (Request Response)
open Throttle (Paced chain counter? inWindow)
open Time (Duration Instant)

namespace Gateway

/-- What can happen to a gateway. -/
inductive Event where
  | request (env : Surroundings) (request : Request)
  | sweep
  | advance (span : Duration)

/-- The reading of the clock, and what lasts from one request to the next. -/
structure Situation where
  now : Instant
  state : State

namespace Situation

/-- What surrounds a request now, with a cache that works. -/
def around (s : Situation) (env : Surroundings) : Surroundings :=
  { env with conditions := { now := s.now, outage := Store.calm } }

/-- What is seen under a key now. -/
def live? (s : Situation) (key : String) : Option Entry :=
  s.state.cache.memory.live? s.now key

end Situation

variable (g : Gateway) (assets : Assets)

def step (s : Situation) : Event → Situation
  | .request env request =>
    { now := s.now, state := (g.handle assets (s.around env) s.state request).state }
  | .sweep =>
    let cache := s.state.cache
    { s with state := { s.state with cache := { cache with memory := cache.memory.sweep s.now } } }
  | .advance span => { s with now := s.now + span.nanos }

/-- The situation after the events, from an empty cache on. -/
def run (start : Instant) (events : List Event) : Situation :=
  events.foldl (g.step assets) { now := start, state := .start }

/-- The calls of the provider for a request. -/
def questions (s : Situation) (env : Surroundings) (request : Request) : List Call :=
  (g.handle assets (s.around env).watched s.state request).calls

/-- The event tries a password for the pair, the provider is asked, and it refuses. -/
def fails (userType username : String) (s : Situation) : Event → Bool
  | .request env request =>
    match g.attempt? request with
    | some attempt =>
      (attempt.userType = userType && attempt.username = username) &&
        (Call.ask "" "login" (g.accountOf attempt) ∈ g.questions assets s env request &&
          (env.provider.login (g.accountOf attempt) attempt.password).ending.isRefused)
    | none => false
  | .sweep | .advance _ => false

/-- The instants at which logins of the pair have failed, in their order. -/
def failures (userType username : String) (start : Instant) (events : List Event) : List Instant :=
  (occasions (g.step assets) (g.fails assets userType username) { now := start, state := .start }
    events).map Situation.now

variable {g assets} {s : Situation} {env : Surroundings} {request : Request} {attempt : Attempt}
  {userType username : String}

theorem le_now_step (s : Situation) (event : Event) : s.now ≤ (g.step assets s event).now := by
  cases event with
  | advance span => exact Nat.le_add_right s.now span.nanos
  | _ => exact Nat.le_refl s.now

theorem run_append_singleton (start : Instant) (events : List Event) (event : Event) :
    g.run assets start (events ++ [event]) = g.step assets (g.run assets start events) event := by
  rw [run, List.foldl_append]
  rfl

theorem failures_append_singleton (start : Instant) (events : List Event) (event : Event) :
    g.failures assets userType username start (events ++ [event]) =
      g.failures assets userType username start events ++
        if g.fails assets userType username (g.run assets start events) event then
          [(g.run assets start events).now]
        else [] := by
  rw [failures, occasions_append_singleton, List.map_append]
  change _ ++ (if g.fails assets userType username (g.run assets start events) event then
    [g.run assets start events] else []).map Situation.now = _
  split
  · rfl
  · rfl

/-- Failures follow one another in time. -/
theorem pairwise_failures (start : Instant) (events : List Event) :
    (g.failures assets userType username start events).Pairwise (· ≤ ·) := by
  rw [failures, List.pairwise_map]
  exact pairwise_occasions le_now_step _ events

/-- Whether an attempt passes is settled without the provider. -/
private theorem passes_watched (state : State) (attempt : Attempt) :
    g.Passes env.watched state attempt ↔ g.Passes env state attempt :=
  Iff.rfl

theorem questions_of_passes (tried : g.attempt? request = some attempt)
    (passes : g.Passes (s.around env) s.state attempt) :
    g.questions assets s env request = [.ask "" "login" (g.accountOf attempt)] :=
  (handle_of_passes assets tried ((passes_watched s.state attempt).mpr passes)).1

theorem questions_of_stopped (tried : g.attempt? request = some attempt)
    (stopped : ¬ g.Passes (s.around env) s.state attempt) : g.questions assets s env request = [] :=
  (handle_of_stopped assets tried fun passes => stopped ((passes_watched s.state attempt).mp passes)).1

/-- A login is asked for by an attempt, under its name and once. -/
theorem attempt_of_question {account : String}
    (asked : .ask "" "login" account ∈ g.questions assets s env request) :
    g.questions assets s env request = [.ask "" "login" account] ∧
      ∃ attempt, g.attempt? request = some attempt ∧ g.accountOf attempt = account := by
  cases tried : g.attempt? request with
  | none =>
    rcases (handle_of_no_attempt assets tried).1 _ asked with ⟨other, made⟩
    have shown : (s.around env).watched.provider.get other =
        .after (.ask "" "get" other) (.plain (env.provider.get other).ending) := rfl
    rw [shown, Answer.after, Answer.plain, List.mem_singleton] at made
    exact absurd (Call.ask.inj made).2.1 (by decide)
  | some attempt =>
    by_cases passes : g.Passes (s.around env) s.state attempt
    · have questions : g.questions assets s env request = [.ask "" "login" (g.accountOf attempt)] :=
        questions_of_passes tried passes
      rw [questions, List.mem_singleton] at asked
      have same : account = g.accountOf attempt := (Call.ask.inj asked).2.2
      exact ⟨same ▸ questions, attempt, rfl, same.symm⟩
    · rw [questions_of_stopped tried passes] at asked
      exact absurd asked List.not_mem_nil

/-- The logins that fail are those attempts that pass and are refused. -/
theorem fails_iff : g.fails assets userType username s (.request env request) = true ↔
    ∃ password, g.attempt? request = some { userType, username, password } ∧
      g.Passes (s.around env) s.state { userType, username, password } ∧
      (env.provider.login (g.accountOf { userType, username, password })
        password).ending.isRefused = true := by
  unfold fails
  constructor
  · intro failed
    dsimp only at failed
    split at failed
    · rename_i attempt tried
      simp only [Bool.and_eq_true, decide_eq_true_eq] at failed
      rcases failed with ⟨⟨rfl, rfl⟩, asked, refused⟩
      refine ⟨attempt.password, tried, ?_, refused⟩
      by_contra stopped
      rw [questions_of_stopped tried stopped] at asked
      exact absurd asked List.not_mem_nil
    · exact absurd failed Bool.false_ne_true
  · rintro ⟨password, tried, passes, refused⟩
    simp [tried, questions_of_passes tried passes, refused]

/-- The counter of the pair is that of these instants, which have been waited for. -/
structure Counts (userType username : String) (s : Situation) (times : List Instant) : Prop where
  counter : s.live? (Throttle.key userType username) = counter? s.now times
  paced : Paced times

/-- The throttle says what the counter says. -/
theorem checked_eq_verdict (s : Situation) (env : Surroundings) (attempt : Attempt) :
    (checked (s.around env) s.state.cache attempt).1 =
      Throttle.verdict s.now (s.live? (Throttle.key attempt.userType attempt.username)) :=
  Throttle.run_check (fun _ _ => rfl) s.state.cache attempt.userType attempt.username

section

variable {times : List Instant} (counts : Counts userType username s times)

include counts

theorem Counts.checked_eq (env : Surroundings) (password : String) :
    (checked (s.around env) s.state.cache { userType, username, password }).1 =
      if chain s.now times ≤ 5 then .ok ()
      else .error (.tooManyAttempts { nanos := times.headD 0 + Throttle.window.nanos - s.now }) := by
  have fits : (chain s.now times : Int) ≤ Text.int64Max :=
    Int.le_trans (Int.ofNat_le.mpr (counts.paced.chain_le s.now)) (by decide)
  rw [checked_eq_verdict, counts.counter, Throttle.verdict_counter? fits]

theorem Counts.refused_or_allowed (env : Surroundings) (password : String) :
    (∃ retryAfter, (checked (s.around env) s.state.cache { userType, username, password }).1 =
      .error (.tooManyAttempts retryAfter)) ∨
    (checked (s.around env) s.state.cache { userType, username, password }).1 = .ok () := by
  rw [counts.checked_eq]
  split
  · exact Or.inr rfl
  · exact Or.inl ⟨_, rfl⟩

/-- The throttle refuses after a chain of six, which is as long as it gets. -/
theorem Counts.refused_iff (env : Surroundings) (password : String) :
    (∃ retryAfter, (checked (s.around env) s.state.cache { userType, username, password }).1 =
      .error (.tooManyAttempts retryAfter)) ↔ chain s.now times = 6 := by
  rw [counts.checked_eq]
  constructor
  · rintro ⟨retryAfter, refused⟩
    have many : ¬ chain s.now times ≤ 5 := by
      intro few
      rw [if_pos few] at refused
      exact absurd refused (by simp)
    exact Nat.le_antisymm (counts.paced.chain_le s.now) (Nat.lt_of_not_le many)
  · intro six
    have many : ¬ chain s.now times ≤ 5 := by
      rw [six]
      decide
    exact ⟨_, if_neg many⟩

/-- A failure comes after a chain of at most five, and makes it one longer. -/
theorem Counts.step_of_fails {event : Event}
    (failed : g.fails assets userType username s event = true) :
    Counts userType username (g.step assets s event) (s.now :: times) := by
  cases event with
  | request env request =>
    rcases fails_iff.mp failed with ⟨password, tried, passes, refused⟩
    have few : chain s.now times ≤ 5 := by
      by_contra many
      have allowed := passes.2
      rw [counts.checked_eq, if_neg many] at allowed
      exact absurd allowed (by simp)
    have room : (chain s.now times : Int) < Text.int64Max :=
      Int.lt_of_le_of_lt (Int.ofNat_le.mpr few) (by decide)
    have calm : (s.around env).conditions.Calm := fun _ _ => rfl
    have recorded := (Throttle.run_record calm
      (checked (s.around env) s.state.cache { userType, username, password }).2 userType username).2
    have kept : (checked (s.around env) s.state.cache { userType, username, password }).2.memory =
        s.state.cache.memory := memory_checked _ _ _
    constructor
    · change (g.handle assets (s.around env) s.state request).state.cache.memory.live? s.now _ = _
      have left := (handle_of_passes assets tried passes).2.trans (if_pos refused)
      rw [left]
      refine recorded.trans ?_
      change (Throttle.tally s.now (Memory.live? _ s.now _)).2 = _
      rw [kept, ← Situation.live?, counts.counter, Throttle.tally_counter? room]
      rfl
    · exact ⟨few, counts.paced⟩
  | sweep => exact absurd failed Bool.false_ne_true
  | advance span => exact absurd failed Bool.false_ne_true

end

/-- What is no failure of the pair leaves its counter to the clock. -/
theorem live?_step_of_not_fails (plain : Plain userType) {event : Event}
    (other : g.fails assets userType username s event = false) :
    (g.step assets s event).live? (Throttle.key userType username) =
      s.state.cache.memory.live? (g.step assets s event).now (Throttle.key userType username) := by
  cases event with
  | sweep => exact Memory.live?_sweep
  | advance span => rfl
  | request env request =>
    change (g.handle assets (s.around env) s.state request).state.cache.memory.live? s.now _ = _
    cases tried : g.attempt? request with
    | none => exact (handle_of_no_attempt assets tried).2 userType username s.now
    | some attempt =>
      have kept : (checked (s.around env) s.state.cache attempt).2.memory = s.state.cache.memory :=
        memory_checked _ _ _
      by_cases passes : g.Passes (s.around env) s.state attempt
      · rw [(handle_of_passes assets tried passes).2]
        split
        · rename_i refused
          have different : Throttle.key userType username ≠
              Throttle.key attempt.userType attempt.username := by
            intro same
            rcases Throttle.key_injective plain (plain_of_attempt? tried) same with ⟨rfl, rfl⟩
            exact Bool.false_ne_true
              (other.symm.trans (fails_iff.mpr ⟨attempt.password, tried, passes, refused⟩))
          rw [Script.live?_run_of_avoids (Throttle.avoids_record different), kept]
          rfl
        · rw [kept]
          rfl
      · rw [(handle_of_stopped assets tried passes).2.1]
        rfl

/-- One event keeps the counter true to the failures. -/
theorem Counts.step (plain : Plain userType) {times : List Instant}
    (counts : Counts userType username s times) (event : Event) :
    Counts userType username (g.step assets s event)
      (if g.fails assets userType username s event then s.now :: times else times) := by
  cases failed : g.fails assets userType username s event with
  | true => exact counts.step_of_fails failed
  | false =>
    constructor
    · rw [live?_step_of_not_fails plain failed, Memory.live?_later (le_now_step s event),
        ← Situation.live?, counts.counter, Throttle.counter?_later (le_now_step s event)]
      rfl
    · exact counts.paced

/-- The counter is true to the failures after all events. -/
theorem counts_run (plain : Plain userType) (start : Instant) (events : List Event) :
    Counts userType username (g.run assets start events)
      (g.failures assets userType username start events).reverse := by
  induction events using List.reverseRecOn with
  | nil => exact ⟨rfl, trivial⟩
  | append_singleton events event counts =>
    have reversed : (g.failures assets userType username start (events ++ [event])).reverse =
        if g.fails assets userType username (g.run assets start events) event then
          (g.run assets start events).now ::
            (g.failures assets userType username start events).reverse
        else (g.failures assets userType username start events).reverse := by
      rw [failures_append_singleton, List.reverse_append]
      split
      · rfl
      · rfl
    rw [run_append_singleton, reversed]
    exact counts.step plain event

/-- Only a pair that can be tried fails. -/
theorem failures_of_not_plain (mixed : ¬ Plain userType) (start : Instant) (events : List Event) :
    g.failures assets userType username start events = [] := by
  induction events using List.reverseRecOn with
  | nil => rfl
  | append_singleton events event inductionHypothesis =>
    have other : g.fails assets userType username (g.run assets start events) event = false := by
      rw [← Bool.not_eq_true]
      intro failed
      cases event with
      | request env request =>
        rcases fails_iff.mp failed with ⟨password, tried, -, -⟩
        exact mixed (plain_of_attempt? tried)
      | sweep => exact absurd failed Bool.false_ne_true
      | advance span => exact absurd failed Bool.false_ne_true
    rw [failures_append_singleton, inductionHypothesis, other]
    rfl

variable (g assets)

/-- In any traffic from an empty cache on, whatever the provider and the surroundings of each request,
no window of ten minutes holds more than six failed logins of a pair.  A login is asked for by an
attempt, under its name and once.  The throttle refuses an attempt just when the latest failures of
its pair are six, chained to one another and to now.  If it does not, the provider is asked unless
the flood limiter stops the attempt.  If it does, nobody is asked whatever the password is, no cookie
is set, and the memory of the cache, with the counter in it, stays as it is. -/
theorem failures_throttled (start : Instant) (events : List Event) (userType username : String) :
    let s := g.run assets start events
    let failures := g.failures assets userType username start events
    (∀ first, failures.countP (inWindow first) ≤ 6) ∧
    (∀ env request account, .ask "" "login" account ∈ g.questions assets s env request →
      g.questions assets s env request = [.ask "" "login" account] ∧
        ∃ attempt, g.attempt? request = some attempt ∧ g.accountOf attempt = account) ∧
    ∀ env request password, g.attempt? request = some { userType, username, password } →
      let handled := g.handle assets (s.around env) s.state request
      let throttled := ∃ retryAfter,
        ((Throttle.check userType username).run (s.around env).conditions s.state.cache).1 =
          .error (.tooManyAttempts retryAfter)
      (throttled ↔ chain s.now failures.reverse = 6) ∧
      (¬ throttled → (s.state.flood.check g.config.loginRatePerMinute env.floodClock).1 = true →
        g.questions assets s env request =
          [.ask "" "login" (providerAccount g.config.authType userType username)]) ∧
      (throttled → g.questions assets s env request = [] ∧
        (∃ response, handled.response = .ok response ∧ response.SetsNoCookie) ∧
        handled.state.cache.memory = s.state.cache.memory) := by
  intro s failures
  refine ⟨?_, fun env request account => attempt_of_question, ?_⟩
  · intro first
    by_cases plain : Plain userType
    · have counts : Counts userType username s failures.reverse := counts_run plain start events
      have ordered : failures.reverse.Pairwise fun later earlier => earlier ≤ later :=
        List.pairwise_reverse.mpr (pairwise_failures start events)
      rw [← List.countP_reverse]
      exact Throttle.countP_inWindow_le counts.paced ordered first
    · have none : failures = [] := failures_of_not_plain plain start events
      rw [none]
      exact Nat.zero_le 6
  · intro env request password tried handled throttled
    have counts : Counts userType username s failures.reverse :=
      counts_run (plain_of_attempt? tried) start events
    refine ⟨counts.refused_iff env password, ?_, ?_⟩
    · intro free passed
      exact questions_of_passes tried ⟨passed, (counts.refused_or_allowed env password).resolve_left free⟩
    · rintro ⟨retryAfter, refused⟩
      have stopped : ¬ g.Passes (s.around env) s.state { userType, username, password } := by
        intro passes
        exact absurd (refused.symm.trans passes.2) (by simp)
      rcases handle_of_stopped assets tried stopped with ⟨-, memory, response⟩
      exact ⟨questions_of_stopped tried stopped, response, memory⟩

/-- A gateway with one user, whose name may be typed with an ending. -/
def homeGateway : Gateway where
  config :=
    let user := { LocalUser.blank with account := "alice", password := "secret" }
    { Config.standard with
      users := { ignoreAccountSuffix := "@home", locals := [user], directory := [] } }
  authenticator := {
    cookie := {
      name := "secure-proxy-auth"
      domain := none
      maxAge := 86400
      hashKey := List.replicate 32 0
      blockKey := List.replicate 32 0 }
    prefixed := false }
  table := { backends := [] }
  clientIpHeader := none

/-- What surrounds a request there. -/
def atHome : Surroundings where
  conditions := { now := 0, outage := Store.calm }
  time := .epoch
  floodClock := 0
  nonce := List.replicate 12 0
  provider := .localUsers .standard homeGateway.config.users.locals
  network := fun _ => .unreachable

/-- The login form, sent with these fields. -/
def formRequest (fields : String) : Request where
  method := "POST"
  uri := { scheme := none, authority := none, path := "/secure-proxy/auth/login", query := none }
  headers := { fields := [(.contentType, .ofVisible LoginForm.contentType)] }
  body := { data := (Text.encode fields).toArray }
  remote := none
  takeover := false

/-- Six guesses under two spellings of one name, with a minute between the spellings. -/
def guesses : List Event :=
  List.replicate 3 (.request atHome (formRequest "username=+alice@home&password=guess")) ++
    .advance (.ofSeconds 60) ::
      List.replicate 3 (.request atHome (formRequest "username=alice&password=guess"))

theorem failures_throttled_guesses :
    let s := homeGateway.run .empty 0 guesses
    let request := formRequest "username=alice&password=secret"
    let handled := homeGateway.handle .empty (s.around atHome) s.state request
    (atHome.provider.login "alice" "secret").ending.isRefused = false ∧
      homeGateway.attempt? request =
        some { userType := "local", username := "alice", password := "secret" } ∧
      homeGateway.questions .empty s atHome request = [] ∧
      ∃ response, handled.response = .ok response ∧ response.SetsNoCookie := by
  intro s request handled
  have right : (atHome.provider.login "alice" "secret").ending.isRefused = false := by decide +kernel
  have tried : homeGateway.attempt? request =
      some { userType := "local", username := "alice", password := "secret" } := by decide +kernel
  have chained : chain s.now (homeGateway.failures .empty "local" "alice" 0 guesses).reverse = 6 := by
    decide +kernel
  rcases failures_throttled homeGateway .empty 0 guesses "local" "alice" with ⟨-, -, throttle⟩
  rcases throttle atHome request "secret" tried with ⟨refused, -, stops⟩
  rcases stops (refused.mpr chained) with ⟨questions, response, -⟩
  exact ⟨right, tried, questions, response⟩

end Gateway

end AuthGateway
