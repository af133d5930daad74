import AuthGateway.Proofs.Store.Keys
import Mathlib.Data.List.Induction

namespace AuthGateway

/-!
# Histories of a store

The throttle and the session markers share one cache.  A history is any order of their calls, of
sweeps, and of steps of the clock; it starts with an empty cache at any reading of the clock.  Which
calls of the cache fail is up to an outage, which may pick any of them.
-/

open Time (Duration Instant Timestamp)

namespace Store

/-- Which calls of the cache fail, and why. -/
abbrev Outage := Nat → Operation → Option String

/-- None fails. -/
def calm : Outage :=
  fun _ _ => none

/-- No deadline can be set. -/
def expiryDown : Outage :=
  fun _ operation => if operation = .expire then some "expire is down" else none

/-- What can happen to a store. -/
inductive Event (ε : Type) where
  | check (userType account : String)
  | record (userType account : String)
  /-- The provider answers `verify`, should it be asked. -/
  | validate (session : String) (time : Timestamp) (verify : Except ε Bool)
  | sweep
  | advance (span : Duration)

/-- The reading of the clock, and the cache. -/
structure State where
  now : Instant
  cache : Cache

variable {ε : Type}

namespace Event

/-- The throttle or the markers are called. -/
def isCall : Event ε → Bool
  | check _ _ | record _ _ | validate _ _ _ => true
  | sweep | advance _ => false

/-- A failed login of that account is recorded. -/
def isRecordOf (userType account : String) : Event ε → Bool
  | record otherType other => otherType = userType && other = account
  | _ => false

/-- A failed login is recorded under that key. -/
def countsUnder (key : String) : Event ε → Bool
  | record userType account => Throttle.key userType account = key
  | _ => false

/-- The kind of user in a record has no colon, as all callers have it. -/
def PlainRecord : Event ε → Prop
  | record userType _ => Plain userType
  | _ => True

instance (event : Event ε) : Decidable event.PlainRecord :=
  match event with
  | record userType _ => inferInstanceAs (Decidable (Plain userType))
  | check _ _ | validate _ _ _ | sweep | advance _ => inferInstanceAs (Decidable True)

/-- The clock after the event. -/
def after (now : Instant) : Event ε → Instant
  | advance span => now + span.nanos
  | _ => now

theorem le_after (now : Instant) (event : Event ε) : now ≤ event.after now := by
  cases event with
  | advance span => exact Nat.le_add_right now span.nanos
  | _ => exact Nat.le_refl now

theorem isCall_of_countsUnder {key : String} {event : Event ε} (counts : event.countsUnder key = true) :
    event.isCall = true := by
  cases event with
  | record _ _ => rfl
  | _ => exact absurd counts Bool.false_ne_true

/-- A plain record counts for its own account only. -/
theorem countsUnder_eq_isRecordOf {userType account : String} (plain : Plain userType) {event : Event ε}
    (plainRecord : event.PlainRecord) :
    event.countsUnder (Throttle.key userType account) = event.isRecordOf userType account := by
  cases event with
  | record otherType other =>
    rw [countsUnder, isRecordOf, ← Bool.decide_and, decide_eq_decide]
    constructor
    · exact Throttle.key_injective plainRecord plain
    · rintro ⟨rfl, rfl⟩
      rfl
  | _ => rfl

end Event

namespace State

/-- The result of a script that is run now, and the state that it leaves. -/
def perform {α : Type} (s : State) (outage : Outage) (script : Script α) : α × State :=
  let (result, cache) := script.run { now := s.now, outage := outage } s.cache
  (result, { now := s.now, cache := cache })

/-- What is seen under a key now. -/
def live? (s : State) (key : String) : Option Entry :=
  s.cache.memory.live? s.now key

/-- One event. -/
def step (ofCache : CacheError → ε) (outage : Outage) (s : State) : Event ε → State
  | .check userType account => (s.perform outage (Throttle.check userType account)).2
  | .record userType account => (s.perform outage (Throttle.record userType account)).2
  | .validate session time verify =>
    (s.perform outage (Marker.validate ofCache session time verify)).2
  | .sweep =>
    { now := s.now, cache := { memory := s.cache.memory.sweep s.now, calls := s.cache.calls } }
  | .advance span => { now := s.now + span.nanos, cache := s.cache }

theorem now_step (ofCache : CacheError → ε) (outage : Outage) (s : State) (event : Event ε) :
    (s.step ofCache outage event).now = event.after s.now := by
  cases event with
  | _ => rfl

theorem le_now_step (ofCache : CacheError → ε) (outage : Outage) (s : State) (event : Event ε) :
    s.now ≤ (s.step ofCache outage event).now := by
  rw [now_step]
  exact event.le_after s.now

/-- What a script avoids is seen as before. -/
theorem live?_perform {α : Type} {key : String} {script : Script α} (avoids : script.Avoids key)
    (s : State) (outage : Outage) : (s.perform outage script).2.live? key = s.live? key :=
  Script.live?_run_of_avoids avoids _ s.cache s.now

end State

/-- The state after a history. -/
def run (ofCache : CacheError → ε) (outage : Outage) (start : Instant) (events : List (Event ε)) :
    State :=
  events.foldl (State.step ofCache outage) { now := start, cache := .empty }

theorem run_append_singleton (ofCache : CacheError → ε) (outage : Outage) (start : Instant)
    (events : List (Event ε)) (event : Event ε) :
    run ofCache outage start (events ++ [event]) =
      (run ofCache outage start events).step ofCache outage event := by
  rw [run, List.foldl_append]
  rfl

/-- The clock after a history. -/
def clock (start : Instant) (events : List (Event ε)) : Instant :=
  events.foldl Event.after start

theorem clock_append_singleton (start : Instant) (events : List (Event ε)) (event : Event ε) :
    clock start (events ++ [event]) = event.after (clock start events) := by
  rw [clock, List.foldl_append]
  rfl

theorem now_run (ofCache : CacheError → ε) (outage : Outage) (start : Instant)
    (events : List (Event ε)) : (run ofCache outage start events).now = clock start events := by
  induction events using List.reverseRecOn with
  | nil => rfl
  | append_singleton events event inductionHypothesis =>
    rw [run_append_singleton, State.now_step, inductionHypothesis, clock_append_singleton]

/-- The readings of the clock at the chosen events, in their order. -/
def instants (chosen : Event ε → Bool) : Instant → List (Event ε) → List Instant
  | _, [] => []
  | now, event :: rest =>
    if chosen event then now :: instants chosen (event.after now) rest
    else instants chosen (event.after now) rest

variable {chosen : Event ε → Bool}

theorem instants_append_singleton (start : Instant) (events : List (Event ε)) (event : Event ε) :
    instants chosen start (events ++ [event]) =
      instants chosen start events ++ if chosen event then [clock start events] else [] := by
  induction events generalizing start with
  | nil => rfl
  | cons first rest inductionHypothesis =>
    rw [List.cons_append, instants, instants, inductionHypothesis]
    split
    · rfl
    · rfl

theorem length_instants (start : Instant) (events : List (Event ε)) :
    (instants chosen start events).length = events.countP chosen := by
  induction events generalizing start with
  | nil => rfl
  | cons first rest inductionHypothesis =>
    rw [instants, List.countP_cons]
    split
    · rw [List.length_cons, inductionHypothesis]
    · rw [inductionHypothesis]
      rfl

/-- Only the choice matters. -/
theorem instants_congr {chosen' : Event ε → Bool} {start : Instant} {events : List (Event ε)}
    (same : ∀ event ∈ events, chosen event = chosen' event) :
    instants chosen start events = instants chosen' start events := by
  induction events generalizing start with
  | nil => rfl
  | cons first rest inductionHypothesis =>
    rw [instants, instants, same first List.mem_cons_self,
      inductionHypothesis fun event listed => same event (List.mem_cons_of_mem first listed)]

theorem start_le_clock (start : Instant) (events : List (Event ε)) : start ≤ clock start events := by
  induction events generalizing start with
  | nil => exact Nat.le_refl start
  | cons first rest inductionHypothesis =>
    exact Nat.le_trans (first.le_after start) (inductionHypothesis (first.after start))

/-- Nothing has happened later than now. -/
theorem le_clock_of_mem_instants {start instant : Instant} {events : List (Event ε)}
    (listed : instant ∈ instants chosen start events) : instant ≤ clock start events := by
  induction events generalizing start with
  | nil => exact absurd listed List.not_mem_nil
  | cons first rest inductionHypothesis =>
    rw [instants] at listed
    split at listed
    · rcases List.mem_cons.mp listed with rfl | later
      · exact start_le_clock instant (first :: rest)
      · exact inductionHypothesis later
    · exact inductionHypothesis listed

end Store

end AuthGateway
