import AuthGateway.Proofs.Cache.Count
import AuthGateway.Proofs.Store.History
import Mathlib.Data.List.Chain
import Mathlib.Order.Bounds.Basic

namespace AuthGateway

/-!
# The throttle counts chains of failed logins

What the throttle says of an account depends on the records of that account only: on the length of
the chain of its latest ones, each less than a window before the next and the last of them less than
a window before now (`Store.answers_eq_chain`).

The counter is an entry whose text is the length of the chain and whose deadline is a window behind
the last record.  That is what every event keeps: a record lengthens the chain, or starts one when
the entry is gone, and time breaks a chain in the very instant in which the entry expires.
-/

open Time (Instant)

namespace Throttle

/-- What a check says of the entry that it sees. -/
def verdict (now : Instant) : Option Entry → Except StoreError Unit
  | none => .ok ()
  | some e =>
    if e.value = "" then .ok ()
    else if attemptsIn e.value ≤ maxAttempts then .ok ()
    else
      match e.deadline with
      | some deadline => .error (.tooManyAttempts { nanos := deadline - now })
      | none => .error (.tooManyAttempts { nanos := 0 })

/-- What a record answers, and the entry that it makes of the one that it sees. -/
def tally (now : Instant) : Option Entry → Except StoreError Int × Option Entry
  | none => (.ok 1, some { value := "1", deadline := some (now + window.nanos) })
  | some e =>
    match Memory.successor? e.value with
    | some n => (.ok n, some { value := toString n, deadline := some (now + window.nanos) })
    | none => (.error (.cache (.notANumber e.value)), some e)

section

variable {env : Conditions} {c : Cache} {userType account : String}

/-- A check whose calls work says what the entry says. -/
theorem run_check_of_works (get : env.outage c.calls .get = none)
    (ttl : env.outage (c.calls + 1) .ttl = none) : ((check userType account).run env c).1 =
    verdict env.now (c.memory.live? env.now (key userType account)) := by
  rw [check, Script.run, Cache.attempt_of_works get]
  cases live : c.memory.live? env.now (key userType account) with
  | none => simp only [Memory.get_of_dead live, if_pos, Script.run, verdict]
  | some e =>
    simp only [Memory.get_of_live? live, verdict]
    split
    · rfl
    · split
      · rfl
      · have stored : c.memory.stored? (key userType account) = some e :=
          (Option.filter_eq_some_iff.mp live).1
        rw [Script.run, Cache.attempt_of_works ttl]
        simp only [Cache.called, Memory.ttl, stored, Option.bind_some, Script.run]
        cases e.deadline with
        | none => rfl
        | some deadline => rfl

end

section

variable {env : Conditions} (calm : env.Calm) (c : Cache) (userType account : String)

include calm

theorem run_check : ((check userType account).run env c).1 =
    verdict env.now (c.memory.live? env.now (key userType account)) :=
  run_check_of_works (calm c.calls .get) (calm (c.calls + 1) .ttl)

theorem run_record : ((record userType account).run env c).1 =
      (tally env.now (c.memory.live? env.now (key userType account))).1 ∧
    ((record userType account).run env c).2.memory.live? env.now (key userType account) =
      (tally env.now (c.memory.live? env.now (key userType account))).2 := by
  have span : 0 < window.nanos := by decide
  rw [record, Script.run_incr calm]
  cases live : c.memory.live? env.now (key userType account) with
  | none =>
    have first : (c.memory.incr env.now (key userType account)).2.live? env.now (key userType account) =
        some { value := "1", deadline := none } := by
      rw [Memory.incr_of_dead live]
      exact Memory.live?_put_self rfl
    rw [Memory.incr_of_dead live] at first ⊢
    dsimp only [tally]
    rw [Script.run_expire calm]
    exact ⟨rfl, Memory.live?_expire_self first span⟩
  | some e =>
    cases counted : Memory.successor? e.value with
    | some n =>
      have next : (c.memory.incr env.now (key userType account)).2.live? env.now
          (key userType account) = some { e with value := toString n } := by
        have fresh : e.isExpired env.now = false := Memory.not_isExpired_of_live? live
        rw [Memory.incr_of_live? live counted]
        exact Memory.live?_put_self fresh
      rw [Memory.incr_of_live? live counted] at next ⊢
      simp only [tally, counted]
      rw [Script.run_expire calm]
      exact ⟨rfl, Memory.live?_expire_self next span⟩
    | none =>
      simp only [Memory.incr, live, counted, tally, Script.run, Cache.called, and_self]

end

/-- One record is less than a window before the next, or before now. -/
def Linked (later earlier : Instant) : Prop :=
  later < earlier + window.nanos

instance (later earlier : Instant) : Decidable (Linked later earlier) :=
  inferInstanceAs (Decidable (_ < _))

/-- The length of the chain that ends now, of instants with the latest first. -/
def chain : Instant → List Instant → Nat
  | _, [] => 0
  | now, last :: earlier => if Linked now last then chain last earlier + 1 else 0

theorem chain_le_length (now : Instant) (times : List Instant) : chain now times ≤ times.length := by
  induction times generalizing now with
  | nil => exact Nat.le_refl 0
  | cons last earlier inductionHypothesis =>
    rw [chain, List.length_cons]
    split
    · exact Nat.succ_le_succ (inductionHypothesis last)
    · exact Nat.zero_le _

/-- A chain that is not empty ends with the latest instant, which is linked to now. -/
theorem linked_of_chain_pos {now : Instant} {times : List Instant} (positive : 0 < chain now times) :
    ∃ last, times.head? = some last ∧ Linked now last := by
  cases times with
  | nil => exact absurd positive (Nat.lt_irrefl 0)
  | cons last earlier =>
    refine ⟨last, rfl, ?_⟩
    by_contra apart
    rw [chain, if_neg apart] at positive
    exact absurd positive (Nat.lt_irrefl 0)

theorem isChain_take_iff {times : List Instant} {now : Instant} {k : Nat} (bound : k ≤ times.length) :
    List.IsChain Linked (now :: times.take k) ↔ k ≤ chain now times := by
  induction times generalizing now k with
  | nil =>
    rw [List.take_nil, chain]
    exact iff_of_true (List.isChain_singleton now) bound
  | cons last earlier inductionHypothesis =>
    cases k with
    | zero => exact iff_of_true (List.isChain_singleton now) (Nat.zero_le _)
    | succ k =>
      rw [List.take_succ_cons, List.isChain_cons_cons,
        inductionHypothesis (Nat.le_of_succ_le_succ bound), chain]
      by_cases linked : Linked now last
      · rw [if_pos linked, Nat.succ_le_succ_iff]
        exact and_iff_right linked
      · rw [if_neg linked]
        exact iff_of_false (fun both => linked both.1) (Nat.not_succ_le_zero k)

/-- The chain is the longest run of latest instants that are linked to one another and to now. -/
theorem isGreatest_chain (now : Instant) (times : List Instant) :
    IsGreatest {k | k ≤ times.length ∧ List.IsChain Linked (now :: times.take k)}
      (chain now times) := by
  have bound := chain_le_length now times
  refine ⟨⟨bound, (isChain_take_iff bound).mpr (Nat.le_refl _)⟩, ?_⟩
  rintro k ⟨inside, linked⟩
  exact (isChain_take_iff inside).mp linked

/-- The counter of an account whose logins failed at these instants, the latest first. -/
def counter? (now : Instant) : List Instant → Option Entry
  | [] => none
  | last :: earlier =>
    if Linked now last then
      some {
        value := toString (Int.ofNat (chain last earlier + 1))
        deadline := some (last + window.nanos) }
    else none

private theorem chain_cons {now last : Instant} (linked : Linked now last) (earlier : List Instant) :
    chain now (last :: earlier) = chain last earlier + 1 := by
  rw [chain, if_pos linked]

/-- Time takes the entry away when it breaks the chain. -/
theorem counter?_later {now later : Instant} (after : now ≤ later) (times : List Instant) :
    (counter? now times).filter (fun e => !e.isExpired later) = counter? later times := by
  cases times with
  | nil => rfl
  | cons last earlier =>
    by_cases linked : Linked later last
    · have before : Linked now last := Nat.lt_of_le_of_lt after linked
      have fresh : decide (last + window.nanos ≤ later) = false :=
        decide_eq_false (Nat.not_le_of_gt linked)
      rw [counter?, counter?, if_pos linked, if_pos before, Option.filter_some]
      exact if_pos (congrArg not fresh)
    · rw [counter?, counter?, if_neg linked]
      by_cases before : Linked now last
      · have expired : decide (last + window.nanos ≤ later) = true :=
          decide_eq_true (Nat.le_of_not_gt linked)
        rw [if_pos before, Option.filter_some]
        exact if_neg fun kept => Bool.false_ne_true ((congrArg not expired).symm.trans kept)
      · rw [if_neg before, Option.filter_none]

theorem successor?_toString {n : Nat} (room : (n : Int) < Text.int64Max) :
    Memory.successor? (toString (Int.ofNat n)) = some (Int.ofNat (n + 1)) := by
  have low : Text.int64Min ≤ Int.ofNat n := Int.le_trans (by decide) (Int.natCast_nonneg n)
  exact Memory.successor?_toString low room

private theorem tally_none (now : Instant) :
    tally now none = (.ok (Int.ofNat (0 + 1)), some {
      value := toString (Int.ofNat (0 + 1))
      deadline := some (now + window.nanos) }) := by
  have one : toString (Int.ofNat (0 + 1)) = "1" := by decide
  rw [one]
  rfl

/-- A record lengthens the chain by one, and the new counter expires a window from now. -/
theorem tally_counter? {now : Instant} {times : List Instant}
    (room : (chain now times : Int) < Text.int64Max) :
    tally now (counter? now times) =
      (.ok (Int.ofNat (chain now times + 1)), counter? now (now :: times)) := by
  have linked : Linked now now := Nat.lt_add_of_pos_right (by decide)
  have started : counter? now (now :: times) = some {
      value := toString (Int.ofNat (chain now times + 1))
      deadline := some (now + window.nanos) } := if_pos linked
  rw [started]
  cases times with
  | nil => exact tally_none now
  | cons last earlier =>
    rw [counter?]
    by_cases linkedLast : Linked now last
    · have same := chain_cons linkedLast earlier
      rw [same] at room ⊢
      rw [if_pos linkedLast]
      simp only [tally, successor?_toString room]
    · rw [if_neg linkedLast, chain, if_neg linkedLast, tally_none]

/-- A counter past the limit refuses until its deadline. -/
theorem verdict_counter? {now : Instant} {times : List Instant}
    (fits : (chain now times : Int) ≤ Text.int64Max) :
    verdict now (counter? now times) =
      if chain now times ≤ 5 then .ok ()
      else .error (.tooManyAttempts { nanos := times.headD 0 + window.nanos - now }) := by
  cases times with
  | nil => rfl
  | cons last earlier =>
    rw [counter?]
    by_cases linked : Linked now last
    · rw [chain_cons linked earlier] at fits ⊢
      have low : Text.int64Min ≤ Int.ofNat (chain last earlier + 1) :=
        Int.le_trans (by decide) (Int.natCast_nonneg _)
      have read := Text.int64?_toString low fits
      have nonempty : toString (Int.ofNat (chain last earlier + 1)) ≠ "" := by
        intro empty
        have blank : Text.int64? "" = none := by decide
        rw [empty, blank] at read
        exact absurd read (by simp)
      rw [if_pos linked, verdict, if_neg nonempty, attemptsIn, read, Option.getD_some]
      by_cases few : chain last earlier + 1 ≤ 5
      · have tolerated : Int.ofNat (chain last earlier + 1) ≤ maxAttempts := Int.ofNat_le.mpr few
        rw [if_pos few, if_pos tolerated]
      · have tooMany : ¬ Int.ofNat (chain last earlier + 1) ≤ maxAttempts :=
          fun small => few (Int.ofNat_le.mp small)
        rw [if_neg few, if_neg tooMany]
        rfl
    · rw [if_neg linked, chain, if_neg linked]
      rfl

end Throttle

namespace Store

open Throttle (chain counter? Linked)

variable {ε : Type} (ofCache : CacheError → ε)

private theorem calm_conditions (now : Instant) : Conditions.Calm { now := now, outage := calm } :=
  fun _ _ => rfl

/-- What is not done under the key leaves its entry to the clock. -/
theorem live?_step_of_other {key : String} {event : Event ε} (other : event.countsUnder key = false)
    (counter : ∀ session, key ≠ Marker.key session) (outage : Outage) (s : State) :
    (s.step ofCache outage event).live? key = s.cache.memory.live? (event.after s.now) key := by
  cases event with
  | check userType account =>
    exact State.live?_perform (Throttle.avoids_check userType account key) s outage
  | record userType account =>
    have different : key ≠ Throttle.key userType account := by
      intro same
      exact absurd (decide_eq_true same.symm) (Bool.eq_false_iff.mp other)
    exact State.live?_perform (Throttle.avoids_record different) s outage
  | validate session time verify =>
    exact State.live?_perform (Marker.avoids_validate ofCache (counter session) time verify) s outage
  | sweep => exact Memory.live?_sweep
  | advance span => rfl

/-- One event keeps the counter true to the chain. -/
theorem live?_step {userType account : String} {s : State} {times : List Instant}
    (counted : s.live? (Throttle.key userType account) = counter? s.now times) (event : Event ε)
    (room : event.countsUnder (Throttle.key userType account) = true →
      (chain s.now times : Int) < Text.int64Max) :
    (s.step ofCache calm event).live? (Throttle.key userType account) =
      counter? (event.after s.now)
        (if event.countsUnder (Throttle.key userType account) then s.now :: times else times) := by
  cases counts : event.countsUnder (Throttle.key userType account) with
  | false =>
    rw [live?_step_of_other ofCache counts (Throttle.key_ne_markerKey userType account) calm s,
      Memory.live?_later (event.le_after s.now), ← State.live?, counted,
      Throttle.counter?_later (event.le_after s.now)]
    rfl
  | true =>
    cases event with
    | record otherType other =>
      have same : Throttle.key otherType other = Throttle.key userType account :=
        of_decide_eq_true counts
      have after := (Throttle.run_record (calm_conditions s.now) s.cache otherType other).2
      rw [same] at after
      refine after.trans ?_
      rw [← State.live?, counted, Throttle.tally_counter? (room counts)]
      rfl
    | _ => exact absurd counts Bool.false_ne_true

theorem check_eq_verdict (s : State) (userType account : String) :
    (s.perform calm (Throttle.check userType account)).1 =
      Throttle.verdict s.now (s.live? (Throttle.key userType account)) :=
  Throttle.run_check (calm_conditions s.now) s.cache userType account

theorem record_eq_tally (s : State) (userType account : String) :
    (s.perform calm (Throttle.record userType account)).1 =
      (Throttle.tally s.now (s.live? (Throttle.key userType account))).1 :=
  (Throttle.run_record (calm_conditions s.now) s.cache userType account).1

/-- The counter is true to the chain after every history. -/
theorem live?_run {start : Instant} {events : List (Event ε)} {userType account : String}
    (few : (events.countP (Event.countsUnder (Throttle.key userType account)) : Int) ≤ Text.int64Max) :
    (run ofCache calm start events).live? (Throttle.key userType account) =
      counter? (clock start events)
        (instants (Event.countsUnder (Throttle.key userType account)) start events).reverse := by
  induction events using List.reverseRecOn with
  | nil => rfl
  | append_singleton events event inductionHypothesis =>
    rw [List.countP_append, Int.natCast_add] at few
    have counted := inductionHypothesis (Int.le_trans (Int.le_add_of_nonneg_right (Int.natCast_nonneg _)) few)
    have room : event.countsUnder (Throttle.key userType account) = true →
        (chain (clock start events) (instants (Event.countsUnder (Throttle.key userType account)) start
          events).reverse : Int) < Text.int64Max := by
      intro counts
      have bound := Throttle.chain_le_length (clock start events)
        (instants (Event.countsUnder (Throttle.key userType account)) start events).reverse
      rw [List.length_reverse, length_instants] at bound
      rw [List.countP_singleton, if_pos counts] at few
      omega
    rw [← now_run ofCache calm] at counted room
    rw [run_append_singleton, live?_step ofCache counted event room, instants_append_singleton,
      List.reverse_append, now_run, clock_append_singleton]
    split
    · rfl
    · rfl

/-- A call for another account or session, or a sweep. -/
def Event.Foreign (userType account : String) : Event ε → Prop
  | record otherType other => Plain otherType ∧ ¬ (otherType = userType ∧ other = account)
  | advance _ => False
  | _ => True

private theorem Event.Foreign.countsUnder_eq_false {userType account : String} (plain : Plain userType)
    {event : Event ε} (foreign : event.Foreign userType account) :
    event.countsUnder (Throttle.key userType account) = false ∧ ∀ now, event.after now = now := by
  cases event with
  | record otherType other =>
    refine ⟨decide_eq_false fun same => foreign.2 ?_, fun _ => rfl⟩
    exact Throttle.key_injective foreign.1 plain same
  | advance _ => exact absurd foreign id
  | _ => exact ⟨rfl, fun _ => rfl⟩

theorem live?_step_of_foreign {userType account : String} (plain : Plain userType) {event : Event ε}
    (foreign : event.Foreign userType account) (s : State) :
    (s.step ofCache calm event).now = s.now ∧
      (s.step ofCache calm event).live? (Throttle.key userType account) =
        s.live? (Throttle.key userType account) := by
  rcases foreign.countsUnder_eq_false plain with ⟨other, still⟩
  rw [State.now_step, live?_step_of_other ofCache other (Throttle.key_ne_markerKey userType account),
    still]
  exact ⟨rfl, rfl⟩

/-- After every history of fewer than `2 ^ 63` calls without failures, a check of an account passes
just when at most five records of it are chained to now, and otherwise says how long it is until a
window after the last of them; a record counts one more than the chain.  What is done for other
accounts and sessions changes neither. -/
theorem answers_eq_chain (start : Instant) {events : List (Event ε)} {userType : String}
    (account : String) (plain : Plain userType) (plainRecords : ∀ event ∈ events, event.PlainRecord)
    (few : (events.countP Event.isCall + 1 : Int) ≤ Text.int64Max) :
    let s := run ofCache calm start events
    let times := (instants (Event.isRecordOf userType account) start events).reverse
    let n := chain s.now times
    IsGreatest {k | k ≤ times.length ∧ List.IsChain Linked (s.now :: times.take k)} n ∧
    ((s.perform calm (Throttle.check userType account)).1 = .ok () ↔ n ≤ 5) ∧
    (5 < n → ∃ last retryAfter, times.head? = some last ∧
      s.now + retryAfter.nanos = last + Throttle.window.nanos ∧
      0 < retryAfter.nanos ∧ retryAfter.nanos ≤ Throttle.window.nanos ∧
      (s.perform calm (Throttle.check userType account)).1 = .error (.tooManyAttempts retryAfter)) ∧
    (s.perform calm (Throttle.record userType account)).1 = .ok (n + 1) ∧
    ∀ event : Event ε, event.Foreign userType account →
      ((s.step ofCache calm event).perform calm (Throttle.check userType account)).1 =
        (s.perform calm (Throttle.check userType account)).1 ∧
      ((s.step ofCache calm event).perform calm (Throttle.record userType account)).1 =
        (s.perform calm (Throttle.record userType account)).1 := by
  intro s times n
  have sameTimes : instants (Event.countsUnder (Throttle.key userType account)) start events =
      instants (Event.isRecordOf userType account) start events :=
    instants_congr fun event listed => Event.countsUnder_eq_isRecordOf plain (plainRecords event listed)
  have calls : events.countP (Event.countsUnder (Throttle.key userType account)) ≤
      events.countP Event.isCall :=
    List.countP_mono_left fun event _ => Event.isCall_of_countsUnder
  have bound : n ≤ events.countP Event.isCall := by
    have short := Throttle.chain_le_length s.now times
    rw [List.length_reverse, ← sameTimes, length_instants] at short
    exact Nat.le_trans short calls
  have room : (n : Int) < Text.int64Max := by
    change (events.countP Event.isCall + 1 : Int) ≤ 9223372036854775807 at few
    change (n : Int) < 9223372036854775807
    omega
  have counted : s.live? (Throttle.key userType account) = counter? s.now times := by
    have fits : (events.countP (Event.countsUnder (Throttle.key userType account)) : Int) ≤
        Text.int64Max := by
      change (events.countP Event.isCall + 1 : Int) ≤ 9223372036854775807 at few
      change _ ≤ (9223372036854775807 : Int)
      omega
    exact (live?_run ofCache fits).trans (by rw [sameTimes, ← now_run ofCache calm])
  have checked := check_eq_verdict s userType account
  rw [counted, Throttle.verdict_counter? (Int.le_of_lt room)] at checked
  have recorded := record_eq_tally s userType account
  rw [counted, Throttle.tally_counter? room] at recorded
  refine ⟨Throttle.isGreatest_chain s.now times, ?_, ?_, recorded, ?_⟩
  · rw [checked]
    constructor
    · intro passed
      by_contra many
      rw [if_neg many] at passed
      exact absurd passed (by simp)
    · intro small
      rw [if_pos small]
  · intro many
    rcases Throttle.linked_of_chain_pos (Nat.lt_trans (by decide) many) with ⟨last, latest, linked⟩
    have listed : last ∈ times := List.mem_of_head? latest
    have past : last ≤ s.now := by
      rw [now_run]
      exact le_clock_of_mem_instants (List.mem_reverse.mp listed)
    refine ⟨last, { nanos := last + Throttle.window.nanos - s.now }, latest, ?_, ?_, ?_, ?_⟩
    · exact Nat.add_sub_cancel' (Nat.le_of_lt linked)
    · exact Nat.sub_pos_of_lt linked
    · exact Nat.sub_le_iff_le_add'.mpr (Nat.add_le_add_right past _)
    · rw [checked, if_neg (Nat.not_le_of_gt many), List.headD_eq_head?_getD, latest]
      rfl
  · intro event foreign
    rcases live?_step_of_foreign ofCache plain foreign s with ⟨still, same⟩
    rw [check_eq_verdict, check_eq_verdict, record_eq_tally, record_eq_tally, still, same]
    exact ⟨rfl, rfl⟩

/-- Six failed logins, each a second after the last one. -/
def sixFailures : List (Event GatewayError) :=
  (List.replicate 6 [Event.record "local" "alice", Event.advance (.ofSeconds 1)]).flatten

theorem answers_eq_chain_sixFailures :
    let s := run GatewayError.ofCache calm 0 sixFailures
    (∀ event ∈ sixFailures, event.PlainRecord) ∧ sixFailures.countP Event.isCall = 6 ∧
      (s.perform calm (Throttle.check "local" "alice")).1 =
        .error (.tooManyAttempts (.ofSeconds 599)) ∧
      (s.perform calm (Throttle.record "local" "alice")).1 = .ok 7 := by
  intro s
  have plainRecords : ∀ event ∈ sixFailures, event.PlainRecord := by decide
  have calls : sixFailures.countP Event.isCall = 6 := by decide
  have chained : chain s.now (instants (Event.isRecordOf "local" "alice") 0 sixFailures).reverse = 6 := by
    rw [now_run]
    decide
  rcases answers_eq_chain GatewayError.ofCache 0 "alice" (show Plain "local" by decide) plainRecords
    (show (sixFailures.countP Event.isCall + 1 : Int) ≤ Text.int64Max by rw [calls]; decide) with
    ⟨-, -, refused, recorded, -⟩
  rcases refused (by rw [chained]; decide) with ⟨last, retryAfter, latest, time, -, -, checked⟩
  refine ⟨plainRecords, calls, ?_, ?_⟩
  · rw [checked]
    rw [now_run] at time
    have lastTime : last = 5000000000 := Option.some.inj (latest.symm.trans (by decide))
    rw [lastTime] at time
    have span : retryAfter.nanos = 599000000000 :=
      Nat.add_left_cancel (show 6000000000 + retryAfter.nanos = 6000000000 + 599000000000 from time)
    exact congrArg (fun n => Except.error (StoreError.tooManyAttempts { nanos := n })) span
  · rw [recorded, chained]
    rfl

end Store

end AuthGateway
