import AuthGateway.Proofs.Occasions
import AuthGateway.Proofs.Session.Marker
import AuthGateway.Proofs.Store.History

namespace AuthGateway

/-!
# A marker stands for a check of the last six hours

A session is trusted without asking its provider when a marker of it is found.  Whichever calls of
the cache fail, a marker is found just when one was left by a confirmation that still holds
(`Store.get_run_iff`): a confirmation leaves a marker if its second call works, and the marker holds
for six hours if the third one works too.  If the third call fails the marker has no deadline and
holds for good, which is the only way in which a session can be trusted for longer
(`Store.trusted_iff_marked`).  Without failures it is the latest confirmation that counts
(`Store.validation_eq_of_latest`).
-/

open Time (Instant Timestamp)

namespace Store

variable {ε : Type} (ofCache : CacheError → ε) (outage : Outage) (session : String)

/-- The event checks the session, its provider is asked, and the answer is yes. -/
def State.confirms (s : State) : Event ε → Bool
  | .validate other time (.ok true) =>
    other = session && (s.perform outage (Marker.validate ofCache other time (.ok true))).1.verified
  | _ => false

/-- The states in which the session was confirmed by its provider, in their order. -/
def confirmations (start : Instant) (events : List (Event ε)) : List State :=
  occasions (State.step ofCache outage) (State.confirms ofCache outage session)
    { now := start, cache := .empty } events

theorem confirmations_append_singleton (start : Instant) (events : List (Event ε))
    (event : Event ε) :
    confirmations ofCache outage session start (events ++ [event]) =
      confirmations ofCache outage session start events ++
        if (run ofCache outage start events).confirms ofCache outage session event then
          [run ofCache outage start events]
        else [] :=
  occasions_append_singleton _ events event

/-- The marker that was left in a state is still there: it could be set, and it has not expired if
its deadline could be set too. -/
def State.Marks (asked : State) (outage : Outage) (later : Instant) : Prop :=
  outage (asked.cache.calls + 1) .set = none ∧
    (outage (asked.cache.calls + 2) .expire = none → later < asked.now + Marker.validity.nanos)

section

variable {ofCache outage session} {s : State} {later : Instant}

/-- Only a check of the session touches its marker. -/
private theorem get_step_of_other {event : Event ε} (after : event.after s.now ≤ later)
    (other : ∀ time verify, event ≠ .validate session time verify) :
    (s.step ofCache outage event).cache.memory.get later (Marker.key session) =
      s.cache.memory.get later (Marker.key session) := by
  apply Memory.get_congr
  cases event with
  | check userType account =>
    exact Script.live?_run_of_avoids (Throttle.avoids_check userType account _) _ s.cache later
  | record userType account =>
    have different := (Throttle.key_ne_markerKey userType account session).symm
    exact Script.live?_run_of_avoids (Throttle.avoids_record different) _ s.cache later
  | validate session' time verify =>
    have different : Marker.key session ≠ Marker.key session' := by
      intro same
      have sessions := Marker.key_injective same
      exact other time verify (by rw [sessions])
    exact Script.live?_run_of_avoids (Marker.avoids_validate ofCache different time verify) _ s.cache
      later
  | sweep => exact Memory.live?_sweep_later after
  | advance span => rfl

private theorem confirms_of_other {event : Event ε}
    (other : ∀ time verify, event ≠ .validate session time verify) :
    s.confirms ofCache outage session event = false := by
  unfold State.confirms
  split
  · rename_i session' time
    have different : session' ≠ session := by
      rintro rfl
      exact other time (.ok true) rfl
    rw [decide_eq_false different]
    rfl
  · rfl

private theorem confirms_validate_iff (time : Timestamp) (verify : Except ε Bool) :
    s.confirms ofCache outage session (.validate session time verify) = true ↔
      verify = .ok true ∧
        (s.perform outage (Marker.validate ofCache session time verify)).1.verified = true := by
  unfold State.confirms
  split
  · rename_i session' time' same
    cases same
    rw [decide_eq_true rfl, Bool.true_and]
    exact (and_iff_right rfl).symm
  · rename_i other
    exact iff_of_false Bool.false_ne_true fun both => other session time (by rw [both.1])

/-- A check of the session leaves a marker if there is none, its provider says yes, and the cache
allows it. -/
private theorem get_step_validate (after : s.now ≤ later) (time : Timestamp) (verify : Except ε Bool) :
    (s.step ofCache outage (.validate session time verify)).cache.memory.get later
        (Marker.key session) ≠ "" ↔
      s.cache.memory.get later (Marker.key session) ≠ "" ∨
        (s.confirms ofCache outage session (.validate session time verify) = true ∧
          s.Marks outage later) := by
  let env : Conditions := { now := s.now, outage := outage }
  change ((Marker.validate ofCache session time verify).run env s.cache).2.memory.get _ _ ≠ "" ↔ _
  rw [confirms_validate_iff]
  change _ ↔ _ ∨ (_ ∧ ((Marker.validate ofCache session time verify).run env s.cache).1.verified =
    true) ∧ _
  cases get : outage s.cache.calls .get with
  | some reason =>
    rw [Marker.run_validate_of_fails session time ofCache verify get]
    exact ⟨Or.inl, fun either => either.resolve_right fun both => Bool.false_ne_true both.1.2⟩
  | none =>
    by_cases missing : s.cache.memory.get s.now (Marker.key session) = ""
    · have missingLater := Memory.get_later after missing
      by_cases confirmed : verify = .ok true
      · subst confirmed
        have left := Marker.get_run_leave env (s.cache.called s.cache.memory) session time missingLater
        rw [Marker.run_validate_of_confirmed session time ofCache get missing]
        constructor
        · exact fun found => Or.inr ⟨⟨rfl, rfl⟩, left.mp found⟩
        · exact fun either => left.mpr (either.resolve_left fun found => found missingLater).2
      · rw [Marker.run_validate_of_denied session time ofCache verify get missing confirmed]
        exact ⟨Or.inl, fun either => either.resolve_right fun both => confirmed both.1.1⟩
    · rw [Marker.run_validate_of_found session time ofCache verify get missing]
      exact ⟨Or.inl, fun either => either.resolve_right fun both => Bool.false_ne_true both.1.2⟩

/-- One event adds the marker of a confirmation, if it could be left. -/
theorem get_step {event : Event ε} (after : event.after s.now ≤ later) :
    (s.step ofCache outage event).cache.memory.get later (Marker.key session) ≠ "" ↔
      s.cache.memory.get later (Marker.key session) ≠ "" ∨
        (s.confirms ofCache outage session event = true ∧ s.Marks outage later) := by
  by_cases own : ∃ time verify, event = .validate session time verify
  · rcases own with ⟨time, verify, rfl⟩
    exact get_step_validate after time verify
  · have other : ∀ time verify, event ≠ .validate session time verify :=
      fun time verify same => own ⟨time, verify, same⟩
    rw [get_step_of_other after other, confirms_of_other other]
    exact ⟨Or.inl, fun either => either.resolve_right fun both => Bool.false_ne_true both.1⟩

/-- After every history a marker is found at a later instant just when a confirmation has left one
that is still there. -/
theorem get_run_iff {start : Instant} {events : List (Event ε)} (after : clock start events ≤ later) :
    (run ofCache outage start events).cache.memory.get later (Marker.key session) ≠ "" ↔
      ∃ asked ∈ confirmations ofCache outage session start events, asked.Marks outage later := by
  induction events using List.reverseRecOn with
  | nil => exact iff_of_false (fun found => found rfl) (by simp [confirmations, occasions])
  | append_singleton events event inductionHypothesis =>
    rw [clock_append_singleton] at after
    have before : clock start events ≤ later := Nat.le_trans (event.le_after _) after
    rw [← now_run ofCache outage] at after
    rw [run_append_singleton, get_step after, inductionHypothesis before,
      confirmations_append_singleton]
    cases confirmed : (run ofCache outage start events).confirms ofCache outage session event with
    | false => simp
    | true =>
      constructor
      · rintro (⟨asked, listed, marks⟩ | ⟨-, marks⟩)
        · exact ⟨asked, List.mem_append_left _ listed, marks⟩
        · exact ⟨_, List.mem_append_right _ (List.mem_singleton.mpr rfl), marks⟩
      · rintro ⟨asked, listed, marks⟩
        rcases List.mem_append.mp listed with earlier | now
        · exact Or.inl ⟨asked, earlier, marks⟩
        · exact Or.inr ⟨rfl, List.mem_singleton.mp now ▸ marks⟩

theorem State.marks_calm (asked : State) :
    asked.Marks calm later ↔ later < asked.now + Marker.validity.nanos :=
  (and_iff_right rfl).trans (imp_iff_right rfl)

/-- To be trusted without a question to the provider is to have a marker that is found. -/
theorem State.trusted_iff_found (time : Timestamp) (verify : Except ε Bool) :
    (s.perform outage (Marker.validate ofCache session time verify)).1 =
        { result := .ok true, verified := false } ↔
      outage s.cache.calls .get = none ∧ s.cache.memory.get s.now (Marker.key session) ≠ "" := by
  let env : Conditions := { now := s.now, outage := outage }
  change ((Marker.validate ofCache session time verify).run env s.cache).1 = _ ↔ _
  cases get : outage s.cache.calls .get with
  | some reason =>
    rw [Marker.run_validate_of_fails session time ofCache verify get]
    exact iff_of_false (fun trusted => by simp at trusted) fun both => by simp at both
  | none =>
    rw [and_iff_right rfl]
    by_cases missing : s.cache.memory.get s.now (Marker.key session) = ""
    · refine iff_of_false (fun trusted => ?_) (not_not_intro missing)
      have asked := congrArg Validation.verified trusted
      by_cases confirmed : verify = .ok true
      · subst confirmed
        rw [Marker.run_validate_of_confirmed session time ofCache get missing] at asked
        exact Bool.false_ne_true asked.symm
      · rw [Marker.run_validate_of_denied session time ofCache verify get missing confirmed] at asked
        exact Bool.false_ne_true asked.symm
    · rw [Marker.run_validate_of_found session time ofCache verify get missing]
      exact iff_of_true rfl missing

/-- Without failures a missing marker makes the answer of the provider the result. -/
theorem State.validation_of_missing (time : Timestamp) (verify : Except ε Bool)
    (missing : s.cache.memory.get s.now (Marker.key session) = "") :
    (s.perform calm (Marker.validate ofCache session time verify)).1 =
      { result := verify, verified := true } := by
  let env : Conditions := { now := s.now, outage := calm }
  change ((Marker.validate ofCache session time verify).run env s.cache).1 = _
  by_cases confirmed : verify = .ok true
  · subst confirmed
    have left := Marker.run_leave_of_works env (s.cache.called s.cache.memory) session time rfl rfl
    rw [Marker.run_validate_of_confirmed session time ofCache rfl missing, left]
    rfl
  · rw [Marker.run_validate_of_denied session time ofCache verify rfl missing confirmed]

/-- Only a yes of the provider is written down. -/
theorem State.memory_validation (time : Timestamp) (verify : Except ε Bool)
    (unwritten : s.cache.memory.get s.now (Marker.key session) ≠ "" ∨ verify ≠ .ok true) :
    (s.perform calm (Marker.validate ofCache session time verify)).2.cache.memory =
      s.cache.memory := by
  let env : Conditions := { now := s.now, outage := calm }
  change ((Marker.validate ofCache session time verify).run env s.cache).2.memory = _
  by_cases missing : s.cache.memory.get s.now (Marker.key session) = ""
  · have denied := unwritten.resolve_left (not_not_intro missing)
    rw [Marker.run_validate_of_denied session time ofCache verify rfl missing denied]
    rfl
  · rw [Marker.run_validate_of_found session time ofCache verify rfl missing]
    rfl

end

/-- Whichever calls of the cache fail, a session is trusted without asking its provider just when
its marker can be looked for and one was set after a yes of the provider, less than six hours ago
or with a deadline that could not be set. -/
theorem trusted_iff_marked (start : Instant) (events : List (Event ε)) (time : Timestamp)
    (verify : Except ε Bool) :
    let s := run ofCache outage start events
    (s.perform outage (Marker.validate ofCache session time verify)).1 =
        { result := .ok true, verified := false } ↔
      outage s.cache.calls .get = none ∧
        ∃ asked ∈ confirmations ofCache outage session start events,
          outage (asked.cache.calls + 1) .set = none ∧
            (s.now < asked.now + Marker.validity.nanos ∨
              outage (asked.cache.calls + 2) .expire ≠ none) := by
  intro s
  have marks : ∀ asked : State, asked.Marks outage s.now ↔
      outage (asked.cache.calls + 1) .set = none ∧
        (s.now < asked.now + Marker.validity.nanos ∨
          outage (asked.cache.calls + 2) .expire ≠ none) :=
    fun asked => and_congr_right fun _ => imp_iff_or_not
  have found : s.cache.memory.get s.now (Marker.key session) ≠ "" ↔
      ∃ asked ∈ confirmations ofCache outage session start events, asked.Marks outage s.now :=
    get_run_iff (Nat.le_of_eq (now_run ofCache outage start events).symm)
  simp only [marks] at found
  rw [State.trusted_iff_found, found]

/-- With a deadline that could not be set, a session is trusted seven hours after the only yes of
its provider. -/
theorem trusted_of_expiryDown :
    let events : List (Event GatewayError) :=
      [.validate "s" .epoch (.ok true), .advance (.ofSeconds (7 * 60 * 60))]
    let s := run GatewayError.ofCache expiryDown 0 events
    (s.perform expiryDown (Marker.validate GatewayError.ofCache "s" .epoch (.ok false))).1 =
        { result := .ok true, verified := false } ∧
      ∀ asked ∈ confirmations GatewayError.ofCache expiryDown "s" 0 events,
        asked.now + Marker.validity.nanos ≤ s.now := by
  intro events s
  constructor
  · rfl
  · have instants : (confirmations GatewayError.ofCache expiryDown "s" 0 events).map State.now =
        [0] := rfl
    have late : 0 + Marker.validity.nanos ≤ s.now := by decide
    intro asked listed
    have same : asked.now ∈ [0] := instants ▸ List.mem_map_of_mem listed
    exact List.mem_singleton.mp same ▸ late

/-- Without failures a session is trusted without asking its provider just when the latest yes of
its provider is less than six hours old.  Otherwise the provider is asked, and its answer is the
result.  Neither trust nor any other answer than a yes writes anything. -/
theorem validation_eq_of_latest (start : Instant) (events : List (Event ε)) (time : Timestamp)
    (verify : Except ε Bool) :
    let s := run ofCache calm start events
    let ended := s.perform calm (Marker.validate ofCache session time verify)
    let trusted := ∃ asked, (confirmations ofCache calm session start events).getLast? = some asked ∧
      s.now < asked.now + Marker.validity.nanos
    (ended.1 = { result := .ok true, verified := false } ↔ trusted) ∧
      (¬ trusted → ended.1 = { result := verify, verified := true }) ∧
      (trusted ∨ verify ≠ .ok true → ended.2.cache.memory = s.cache.memory) := by
  intro s ended trusted
  have ordered : (confirmations ofCache calm session start events).Pairwise
      fun earlier later => earlier.now ≤ later.now :=
    pairwise_occasions (State.le_now_step ofCache calm) _ events
  have found : s.cache.memory.get s.now (Marker.key session) ≠ "" ↔ trusted :=
    calc s.cache.memory.get s.now (Marker.key session) ≠ ""
      _ ↔ ∃ asked ∈ confirmations ofCache calm session start events, asked.Marks calm s.now :=
        get_run_iff (Nat.le_of_eq (now_run ofCache calm start events).symm)
      _ ↔ ∃ asked ∈ confirmations ofCache calm session start events,
          s.now < asked.now + Marker.validity.nanos := by
        simp only [State.marks_calm]
      _ ↔ trusted := exists_mem_iff_getLast? ordered
  refine ⟨?_, ?_, ?_⟩
  · exact (State.trusted_iff_found time verify).trans ((and_iff_right rfl).trans found)
  · intro untrusted
    exact State.validation_of_missing time verify
      (not_not.mp fun marked => untrusted (found.mp marked))
  · intro unwritten
    exact State.memory_validation time verify (unwritten.imp_left found.mpr)

end Store

end AuthGateway
