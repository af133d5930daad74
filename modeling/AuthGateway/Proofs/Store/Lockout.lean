import AuthGateway.Proofs.Occasions
import AuthGateway.Proofs.Store.Throttle

namespace AuthGateway

/-!
# A refusal ends unless its counter has lost every deadline

A refused account is let in again once the time has passed that the refusal names, whichever calls
of the cache have failed, as long as one of the records that the counter counts could set its
deadline.  If none of them could, there are at least six of them, the refusal names no time at all,
and it never ends (`Store.refusal_ends_unless_undated`).
-/

open Time (Instant)

namespace Throttle

/-- What counting makes of the entry that it sees, if that can be counted up. -/
def raised? : Option Entry → Option Entry
  | none => some { value := "1", deadline := none }
  | some e => (Memory.successor? e.value).map fun n => { e with value := toString n }

section

variable {env : Conditions} {c : Cache} {userType account : String}

theorem incr_of_raised? {m : Memory} {now : Instant} {key : String} {e : Entry}
    (raised : raised? (m.live? now key) = some e) :
    ∃ n, m.incr now key = (.ok n, m.put key e) ∧ e.isExpired now = false := by
  cases live : m.live? now key with
  | none =>
    rw [live] at raised
    have first : { value := "1", deadline := none } = e := Option.some.inj raised
    subst first
    exact ⟨1, Memory.incr_of_dead live, rfl⟩
  | some seen =>
    rw [live] at raised
    rcases Option.map_eq_some_iff.mp raised with ⟨n, counted, rfl⟩
    have fresh : seen.isExpired now = false := Memory.not_isExpired_of_live? live
    exact ⟨n, Memory.incr_of_live? live counted, fresh⟩

theorem incr_of_not_raised? {m : Memory} {now : Instant} {key : String}
    (stuck : raised? (m.live? now key) = none) : ∃ error, m.incr now key = (.error error, m) := by
  cases live : m.live? now key with
  | none =>
    rw [live] at stuck
    exact absurd stuck (by simp [raised?])
  | some seen =>
    rw [live] at stuck
    have counted : Memory.successor? seen.value = none := Option.map_eq_none_iff.mp stuck
    refine ⟨.notANumber seen.value, ?_⟩
    rw [Memory.incr, live]
    simp only [counted]

/-- A refusal comes from a counter past the limit, and names the time until its deadline. -/
theorem entry_of_verdict {now : Instant} {seen : Option Entry} {retryAfter : Time.Duration}
    (refused : verdict now seen = .error (.tooManyAttempts retryAfter)) :
    ∃ e, seen = some e ∧ maxAttempts < attemptsIn e.value ∧
      retryAfter.nanos = (e.deadline.map (· - now)).getD 0 := by
  cases seen with
  | none => exact absurd refused (by simp [verdict])
  | some e =>
    refine ⟨e, rfl, ?_⟩
    rw [verdict] at refused
    split at refused
    · exact absurd refused (by simp)
    · split at refused
      · exact absurd refused (by simp)
      · rename_i many
        refine ⟨Int.lt_of_not_ge many, ?_⟩
        cases limit : e.deadline with
        | some deadline =>
          rw [limit] at refused
          injection refused with refusal
          injection refusal with span
          rw [← span]
          rfl
        | none =>
          rw [limit] at refused
          injection refused with refusal
          injection refusal with span
          rw [← span]
          rfl

/-- What a counter without a deadline says does not change with time. -/
theorem verdict_of_endless {now : Instant} {e : Entry} {retryAfter : Time.Duration}
    (endless : e.deadline = none)
    (refused : verdict now (some e) = .error (.tooManyAttempts retryAfter)) (later : Instant) :
    verdict later (some e) = .error (.tooManyAttempts retryAfter) := by
  rw [← refused, verdict, verdict, endless]

theorem lt_of_lt_attemptsIn_toString {n : Nat}
    (many : maxAttempts < attemptsIn (toString (Int.ofNat n))) : 5 < n := by
  rw [attemptsIn, Text.int64?, Text.integer?_toString, Option.filter_some] at many
  split at many
  · exact Int.ofNat_lt.mp many
  · exact absurd many (by decide)

/-- The decimal text of a number can only be raised to that of the next one. -/
theorem raised?_toString {n : Nat} {deadline : Option Instant} {e : Entry}
    (raised : raised? (some { value := toString (Int.ofNat n), deadline }) = some e) :
    e = { value := toString (Int.ofNat (n + 1)), deadline } := by
  rcases Option.map_eq_some_iff.mp raised with ⟨_, counted, rfl⟩
  rcases Memory.successor?_eq_some_iff.mp counted with ⟨m, ⟨numeral, -⟩, rfl⟩
  rw [numeral.unique (Text.numeral_toString (Int.ofNat n))]
  rfl

variable (env c) in
/-- A record that does not count stops after its first call and leaves everything as it was. -/
theorem run_record_of_uncounted
    (uncounted : env.outage c.calls .incr ≠ none ∨
      raised? (c.memory.live? env.now (key userType account)) = none) :
    ((record userType account).run env c).2 = c.called c.memory := by
  rw [record, Script.run]
  cases incr : env.outage c.calls .incr with
  | some reason =>
    rw [Cache.attempt_of_fails incr]
    rfl
  | none =>
    rcases incr_of_not_raised? (uncounted.resolve_left (not_not_intro incr)) with ⟨error, stuck⟩
    rw [Cache.attempt_of_works incr, stuck]
    rfl

variable (env c) in
/-- A record that counts goes on to its second call, which sets a new deadline if it works. -/
theorem run_record_of_counted (incr : env.outage c.calls .incr = none) {e : Entry}
    (raised : raised? (c.memory.live? env.now (key userType account)) = some e) :
    ((record userType account).run env c).2.calls = c.calls + 2 ∧
      ((record userType account).run env c).2.memory.live? env.now (key userType account) =
        some (if env.outage (c.calls + 1) .expire = none then
          { e with deadline := some (env.now + window.nanos) } else e) := by
  rcases incr_of_raised? raised with ⟨n, counted, fresh⟩
  have live : (c.memory.put (key userType account) e).live? env.now (key userType account) = some e :=
    Memory.live?_put_self fresh
  rw [record, Script.run, Cache.attempt_of_works incr, counted]
  dsimp only
  rw [Script.run]
  cases expire : env.outage (c.calls + 1) .expire with
  | some reason =>
    rw [Cache.attempt_of_fails expire]
    exact ⟨rfl, live⟩
  | none =>
    rw [Cache.attempt_of_works expire]
    exact ⟨rfl, Memory.live?_expire_self live (by decide)⟩

/-- A refusal is never made up: it is what the entry says. -/
theorem verdict_of_run_check {retryAfter : Time.Duration}
    (refused : ((check userType account).run env c).1 = .error (.tooManyAttempts retryAfter)) :
    verdict env.now (c.memory.live? env.now (key userType account)) =
      .error (.tooManyAttempts retryAfter) := by
  cases get : env.outage c.calls .get with
  | some reason =>
    rw [check, Script.run, Cache.attempt_of_fails get] at refused
    exact absurd refused (by simp [Script.run])
  | none =>
    cases ttl : env.outage (c.calls + 1) .ttl with
    | none => exact (run_check_of_works get ttl).symm.trans refused
    | some reason =>
      rw [check, Script.run, Cache.attempt_of_works get] at refused
      dsimp only at refused
      split at refused
      · exact absurd refused (by simp [Script.run])
      · split at refused
        · exact absurd refused (by simp [Script.run])
        · rw [Script.run, Cache.attempt_of_fails ttl] at refused
          exact absurd refused (by simp [Script.run])

end

end Throttle

namespace Store

variable {ε : Type} (ofCache : CacheError → ε) (outage : Outage) (key : String)

/-- The event is a record under the key that goes on to its second call, for which its first one
must have counted. -/
def State.counts (s : State) (event : Event ε) : Bool :=
  event.countsUnder key && (s.step ofCache outage event).cache.calls = s.cache.calls + 2

/-- The states in which a record was counted under the key, in their order. -/
def counted (start : Instant) (events : List (Event ε)) : List State :=
  occasions (State.step ofCache outage) (State.counts ofCache outage key)
    { now := start, cache := .empty } events

theorem counted_append_singleton (start : Instant) (events : List (Event ε)) (event : Event ε) :
    counted ofCache outage key start (events ++ [event]) =
      counted ofCache outage key start events ++
        if (run ofCache outage start events).counts ofCache outage key event then
          [run ofCache outage start events]
        else [] :=
  occasions_append_singleton _ events event

/-- The latest records, so many of them, have all failed to set a deadline, and the first of them
has found no counter. -/
def Undated (records : List State) (n : Nat) : Prop :=
  ∃ before first rest, records = before ++ first :: rest ∧ n = rest.length + 1 ∧
    first.live? key = none ∧
    ∀ record ∈ first :: rest, outage (record.cache.calls + 1) .expire ≠ none

section

variable {ofCache outage key} {s : State} {records : List State}

theorem undated_start (fresh : s.live? key = none)
    (lost : outage (s.cache.calls + 1) .expire ≠ none) : Undated outage key (records ++ [s]) 1 := by
  refine ⟨records, s, [], rfl, rfl, fresh, ?_⟩
  intro record listed
  exact List.mem_singleton.mp listed ▸ lost

theorem Undated.append {n : Nat} (undated : Undated outage key records n)
    (lost : outage (s.cache.calls + 1) .expire ≠ none) :
    Undated outage key (records ++ [s]) (n + 1) := by
  rcases undated with ⟨before, first, rest, rfl, rfl, fresh, all⟩
  refine ⟨before, first, rest ++ [s], ?_, ?_, fresh, ?_⟩
  · rw [List.append_assoc, List.cons_append]
  · rw [List.length_append, List.length_singleton]
  · intro record listed
    rw [← List.cons_append] at listed
    rcases List.mem_append.mp listed with earlier | last
    · exact all record earlier
    · exact List.mem_singleton.mp last ▸ lost

/-- The last of the records has started the counter, or it has found one of the others. -/
theorem Undated.of_append {n : Nat} (undated : Undated outage key (records ++ [s]) n) :
    outage (s.cache.calls + 1) .expire ≠ none ∧
      ((s.live? key = none ∧ n = 1) ∨ ∃ m, n = m + 1 ∧ Undated outage key records m) := by
  rcases undated with ⟨before, first, rest, same, rfl, fresh, all⟩
  cases rest using List.reverseRecOn with
  | nil =>
    have last : s = first := (List.append_singleton_inj.mp same).2
    subst last
    exact ⟨all s List.mem_cons_self, Or.inl ⟨fresh, rfl⟩⟩
  | append_singleton rest last =>
    rw [← List.cons_append, ← List.append_assoc] at same
    rcases List.append_singleton_inj.mp same with ⟨others, rfl⟩
    refine ⟨all s (by simp), Or.inr ⟨rest.length + 1, by simp, before, first, rest, others, rfl,
      fresh, ?_⟩⟩
    intro record listed
    refine all record ?_
    rw [← List.cons_append]
    exact List.mem_append_left _ listed

/-- A counter without a deadline is the number of the records that have lost theirs. -/
structure Tracks (outage : Outage) (key : String) (s : State) (records : List State) : Prop where
  entry : ∀ n, Undated outage key records n →
    s.live? key = some { value := toString (Int.ofNat n), deadline := none }
  undated : ∀ e, s.live? key = some e → e.deadline = none → ∃ n, Undated outage key records n

private theorem counts_of_other {event : Event ε} (other : event.countsUnder key = false) :
    s.counts ofCache outage key event = false := by
  rw [State.counts, other, Bool.false_and]

/-- Time takes away no counter without a deadline, and gives no deadline to any. -/
theorem Tracks.step_other (counter : ∀ session, key ≠ Marker.key session)
    (tracks : Tracks outage key s records) {event : Event ε} (other : event.countsUnder key = false) :
    Tracks outage key (s.step ofCache outage event) records := by
  have left : (s.step ofCache outage event).live? key =
      (s.live? key).filter fun e => !e.isExpired (event.after s.now) := by
    rw [live?_step_of_other ofCache other counter outage s, Memory.live?_later (event.le_after s.now)]
    rfl
  constructor
  · intro n undated
    rw [left, tracks.entry n undated]
    rfl
  · intro e live unlimited
    rw [left] at live
    exact tracks.undated e (Option.filter_eq_some_iff.mp live).1 unlimited

theorem counts_record {userType account : String} :
    s.counts ofCache outage (Throttle.key userType account) (.record userType account : Event ε) =
      decide (((Throttle.record userType account).run { now := s.now, outage := outage }
        s.cache).2.calls = s.cache.calls + 2) := by
  have own : (Event.record userType account : Event ε).countsUnder (Throttle.key userType account) =
      true := decide_eq_true rfl
  rw [State.counts, own, Bool.true_and]
  rfl

/-- A record raises the counter without a deadline, or starts one, or gives it a deadline. -/
theorem Tracks.step_record {userType account : String}
    (tracks : Tracks outage (Throttle.key userType account) s records) :
    Tracks outage (Throttle.key userType account)
      (s.step ofCache outage (.record userType account))
      (records ++ if s.counts ofCache outage (Throttle.key userType account)
        (.record userType account : Event ε) then [s] else []) := by
  let env : Conditions := { now := s.now, outage := outage }
  let recorded := ((Throttle.record userType account).run env s.cache).2
  have after : (s.step ofCache outage (.record userType account : Event ε)).live?
      (Throttle.key userType account) =
        recorded.memory.live? s.now (Throttle.key userType account) := rfl
  by_cases counted : outage s.cache.calls .incr = none ∧
      ∃ e, Throttle.raised? (s.live? (Throttle.key userType account)) = some e
  · rcases counted with ⟨incr, e, raised⟩
    rcases Throttle.run_record_of_counted env s.cache incr raised with ⟨calls, live⟩
    have counts : s.counts ofCache outage (Throttle.key userType account)
        (.record userType account : Event ε) = true := counts_record.trans (decide_eq_true calls)
    rw [counts]
    constructor
    · intro n undated
      rcases undated.of_append with ⟨lost, rest⟩
      rw [after, live, if_neg lost]
      rcases rest with ⟨fresh, rfl⟩ | ⟨m, rfl, earlier⟩
      · rw [fresh] at raised
        have one : toString (Int.ofNat 1) = "1" := by decide
        rw [one]
        exact raised.symm
      · rw [tracks.entry m earlier] at raised
        exact congrArg some (Throttle.raised?_toString raised)
    · intro e' live' unlimited
      have same := Option.some.inj ((live.symm.trans after.symm).trans live')
      by_cases expire : outage (s.cache.calls + 1) .expire = none
      · rw [if_pos expire] at same
        rw [← same] at unlimited
        exact absurd unlimited (by simp)
      · rw [if_neg expire] at same
        subst same
        cases seen : s.live? (Throttle.key userType account) with
        | none => exact ⟨1, undated_start seen expire⟩
        | some e₀ =>
          rw [seen] at raised
          rcases Option.map_eq_some_iff.mp raised with ⟨m, -, rfl⟩
          rcases tracks.undated e₀ seen unlimited with ⟨n, earlier⟩
          exact ⟨n + 1, earlier.append expire⟩
  · have uncounted : outage s.cache.calls .incr ≠ none ∨
        Throttle.raised? (s.live? (Throttle.key userType account)) = none := by
      by_cases incr : outage s.cache.calls .incr = none
      · exact Or.inr (Option.eq_none_iff_forall_ne_some.mpr fun e raised => counted ⟨incr, e, raised⟩)
      · exact Or.inl incr
    have same : recorded = s.cache.called s.cache.memory :=
      Throttle.run_record_of_uncounted env s.cache uncounted
    have stopped : ¬ recorded.calls = s.cache.calls + 2 := by
      rw [same]
      exact Nat.ne_of_lt (Nat.lt_succ_self (s.cache.calls + 1))
    have counts : s.counts ofCache outage (Throttle.key userType account)
        (.record userType account : Event ε) = false := counts_record.trans (decide_eq_false stopped)
    have kept : (s.step ofCache outage (.record userType account : Event ε)).live?
        (Throttle.key userType account) = s.live? (Throttle.key userType account) := by
      rw [after, same]
      rfl
    rw [counts]
    constructor
    · intro n undated
      rw [kept]
      exact tracks.entry n (List.append_nil records ▸ undated)
    · intro e live unlimited
      rw [kept] at live
      rcases tracks.undated e live unlimited with ⟨n, undated⟩
      exact ⟨n, (List.append_nil records).symm ▸ undated⟩

/-- After every history a counter without a deadline is the number of the records that have lost
theirs. -/
theorem tracks_run (start : Instant) (events : List (Event ε)) (userType account : String) :
    Tracks outage (Throttle.key userType account) (run ofCache outage start events)
      (counted ofCache outage (Throttle.key userType account) start events) := by
  induction events using List.reverseRecOn with
  | nil =>
    constructor
    · rintro n ⟨before, first, rest, none, -⟩
      exact absurd none (by simp [counted, occasions])
    · intro e live
      exact absurd live (by simp [run, State.live?, Cache.empty, Memory.live?_empty])
  | append_singleton events event tracks =>
    rw [run_append_singleton, counted_append_singleton]
    cases own : event.countsUnder (Throttle.key userType account) with
    | false =>
      rw [counts_of_other own]
      exact (List.append_nil _).symm ▸
        tracks.step_other (Throttle.key_ne_markerKey userType account) own
    | true =>
      cases event with
      | record otherType other =>
        have same : Throttle.key otherType other = Throttle.key userType account :=
          of_decide_eq_true own
        rw [← same] at tracks ⊢
        exact tracks.step_record
      | _ => exact absurd own Bool.false_ne_true

variable (ofCache outage) in
private theorem live?_run_append (counter : ∀ session, key ≠ Marker.key session) (start : Instant)
    (events : List (Event ε)) {more : List (Event ε)}
    (others : ∀ event ∈ more, event.countsUnder key = false) :
    (run ofCache outage start (events ++ more)).live? key =
      (run ofCache outage start events).cache.memory.live? (clock start (events ++ more)) key := by
  induction more using List.reverseRecOn with
  | nil => rw [List.append_nil, State.live?, now_run]
  | append_singleton more event inductionHypothesis =>
    have unchanged := inductionHypothesis fun event listed => others event (List.mem_append_left _ listed)
    have other := others event (List.mem_append_right _ List.mem_cons_self)
    have time : event.after (run ofCache outage start (events ++ more)).now =
        clock start (events ++ more ++ [event]) := by
      rw [now_run, clock_append_singleton]
    have onwards : clock start (events ++ more) ≤ clock start (events ++ more ++ [event]) := by
      rw [clock_append_singleton]
      exact event.le_after _
    rw [← List.append_assoc, run_append_singleton, live?_step_of_other ofCache other counter,
      Memory.live?_later (event.le_after _), time, ← State.live?, unchanged,
      ← Memory.live?_later onwards]

variable (ofCache outage) in
/-- Without a record under the key only time takes its counter away. -/
theorem live?_run_append_of_other (counter : ∀ session, key ≠ Marker.key session) (start : Instant)
    (events : List (Event ε)) {more : List (Event ε)}
    (others : ∀ event ∈ more, event.countsUnder key = false) :
    (run ofCache outage start (events ++ more)).live? key =
      ((run ofCache outage start events).live? key).filter fun e =>
        !e.isExpired (run ofCache outage start (events ++ more)).now := by
  have onwards : (run ofCache outage start events).now ≤
      (run ofCache outage start (events ++ more)).now := by
    rw [now_run, now_run, clock, clock, List.foldl_append]
    exact start_le_clock _ _
  rw [live?_run_append ofCache outage counter start events others, ← now_run ofCache outage,
    Memory.live?_later onwards]
  rfl

end

/-- Whichever calls of the cache have failed, a refusal names the time after which a check passes if
nothing is recorded meanwhile, unless the latest records of the account have all failed to set a
deadline since they started the counter.  Then there are at least six of them, the refusal names no
time, and without a further record it never ends. -/
theorem refusal_ends_unless_undated (start : Instant) (events : List (Event ε)) (userType account : String)
    {retryAfter : Time.Duration}
    (refused : ((run ofCache outage start events).perform outage
      (Throttle.check userType account)).1 = .error (.tooManyAttempts retryAfter)) :
    let key := Throttle.key userType account
    let records := counted ofCache outage key start events
    let later (more : List (Event ε)) : State :=
      run ofCache outage start (events ++ Event.check userType account :: more)
    let unrecorded (more : List (Event ε)) : Prop := ∀ event ∈ more, event.countsUnder key = false
    ((¬ ∃ n, Undated outage key records n) → 0 < retryAfter.nanos ∧
      ∀ more, unrecorded more →
        (run ofCache outage start events).now + retryAfter.nanos ≤ (later more).now →
          ((later more).perform calm (Throttle.check userType account)).1 = .ok ()) ∧
    (∀ n, Undated outage key records n → 6 ≤ n ∧ retryAfter.nanos = 0 ∧
      ∀ more, unrecorded more →
        ((later more).perform calm (Throttle.check userType account)).1 =
          .error (.tooManyAttempts retryAfter)) := by
  intro key records later unrecorded
  let s := run ofCache outage start events
  have tracks : Tracks outage key s records := tracks_run start events userType account
  have said : Throttle.verdict s.now (s.live? key) = .error (.tooManyAttempts retryAfter) :=
    Throttle.verdict_of_run_check refused
  rcases Throttle.entry_of_verdict said with ⟨e, live, many, span⟩
  -- What is seen later is what is left of the entry that is seen now.
  have seen : ∀ more, unrecorded more → (later more).live? key =
      (some e).filter fun e => !e.isExpired (later more).now := by
    intro more others
    have all : ∀ event ∈ Event.check userType account :: more, event.countsUnder key = false :=
      List.forall_mem_cons.mpr ⟨rfl, others⟩
    rw [← live]
    exact live?_run_append_of_other ofCache outage (Throttle.key_ne_markerKey userType account) start
      events all
  constructor
  · intro dated
    have limited : e.deadline ≠ none := fun unlimited => dated (tracks.undated e live unlimited)
    rcases Option.ne_none_iff_exists'.mp limited with ⟨deadline, limit⟩
    rw [limit] at span
    have ahead : s.now < deadline := by
      rw [← Nat.not_le, ← Entry.isExpired_iff limit, Bool.not_eq_true]
      exact Memory.not_isExpired_of_live? live
    refine ⟨span ▸ Nat.sub_pos_of_lt ahead, ?_⟩
    intro more others waited
    have time : s.now + retryAfter.nanos = deadline :=
      (congrArg (s.now + ·) span).trans (Nat.add_sub_cancel' (Nat.le_of_lt ahead))
    have expired : e.isExpired (later more).now = true := (Entry.isExpired_iff limit).mpr (time ▸ waited)
    rw [check_eq_verdict, seen more others, Option.filter_some, expired]
    rfl
  · intro n undated
    have same : e = { value := toString (Int.ofNat n), deadline := none } :=
      Option.some.inj (live.symm.trans (tracks.entry n undated))
    have endless : e.deadline = none := congrArg Entry.deadline same
    rw [endless] at span
    refine ⟨?_, span, ?_⟩
    · rw [same] at many
      exact Throttle.lt_of_lt_attemptsIn_toString many
    · intro more others
      have fresh : e.isExpired (later more).now = false := by
        rw [Entry.isExpired, endless]
      rw [live] at said
      rw [check_eq_verdict, seen more others, Option.filter_some, fresh]
      exact Throttle.verdict_of_endless endless said (later more).now

/-- Five records that set no deadline, and one that does. -/
def lateDeadline : Outage :=
  fun call operation => if operation = .expire ∧ call < 11 then some "expire is down" else none

theorem refusal_ends_unless_undated_lateDeadline :
    let records : List (Event GatewayError) := List.replicate 6 (.record "local" "alice")
    let s := run GatewayError.ofCache lateDeadline 0 records
    let later := run GatewayError.ofCache lateDeadline 0
      (records ++ [.check "local" "alice", .advance (.ofSeconds 600)])
    (s.perform lateDeadline (Throttle.check "local" "alice")).1 =
        .error (.tooManyAttempts (.ofSeconds 600)) ∧
      (later.perform calm (Throttle.check "local" "alice")).1 = .ok () := by
  intro records s later
  have refused : (s.perform lateDeadline (Throttle.check "local" "alice")).1 =
      .error (.tooManyAttempts (.ofSeconds 600)) := by decide
  have dated : ¬ ∃ n, Undated lateDeadline (Throttle.key "local" "alice")
      (counted GatewayError.ofCache lateDeadline (Throttle.key "local" "alice") 0 records) n := by
    rintro ⟨n, undated⟩
    have split : records = List.replicate 5 (.record "local" "alice") ++ [.record "local" "alice"] := rfl
    rw [split, counted_append_singleton] at undated
    exact undated.of_append.1 rfl
  have ends := (refusal_ends_unless_undated GatewayError.ofCache lateDeadline 0 records "local" "alice"
    refused).1 dated
  refine ⟨refused, ends.2 [.advance (.ofSeconds 600)] ?_ (by decide)⟩
  intro event listed
  rw [List.mem_singleton.mp listed]
  rfl

/-- Six records that set no deadline lock the account out: the refusal names no time, and a day
later it is still there. -/
theorem locked_out_of_expiryDown :
    let records : List (Event GatewayError) := List.replicate 6 (.record "local" "alice")
    let s := run GatewayError.ofCache expiryDown 0 records
    let later := run GatewayError.ofCache expiryDown 0
      (records ++ [.check "local" "alice", .advance (.ofSeconds (24 * 60 * 60))])
    (s.perform expiryDown (Throttle.check "local" "alice")).1 =
        .error (.tooManyAttempts (.ofSeconds 0)) ∧
      (later.perform calm (Throttle.check "local" "alice")).1 =
        .error (.tooManyAttempts (.ofSeconds 0)) :=
  ⟨rfl, rfl⟩

end Store

end AuthGateway
