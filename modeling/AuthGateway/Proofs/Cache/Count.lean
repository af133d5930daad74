import AuthGateway.Proofs.Cache.Ideal
import AuthGateway.Proofs.Text.Integer
import Mathlib.Logic.Function.Basic

namespace AuthGateway

/-!
# A counter counts, or is left alone

A counter is kept as text.  A text counts up when it is a numeral of a number of 64 bits that has a next
one; every other text is reported as it is, and nothing changes.  So a key that is absent counts from
one, without gaps, up to the greatest number of 64 bits, and no calls for other keys, sweeps or passing
of time disturb the count (`Memory.incr_counts_up`).
-/

open Time (Instant)
open Text (int64Max int64Min)

namespace Memory

/-- The text is a numeral of this number, which fits into 64 bits and is not the greatest that does. -/
def Countable (value : String) (n : Int) : Prop :=
  Text.Numeral value n ∧ int64Min ≤ n ∧ n < int64Max

theorem successor?_eq_some_iff {value : String} {k : Int} :
    successor? value = some k ↔ ∃ n, Countable value n ∧ n + 1 = k := by
  constructor
  · intro counted
    unfold successor? at counted
    split at counted
    · rename_i n read
      rcases Text.int64?_eq_some_iff.mp read with ⟨numeral, low, -⟩
      split at counted
      · rename_i room
        exact ⟨n, ⟨numeral, low, room⟩, Option.some.inj counted⟩
      · exact absurd counted (by simp)
    · exact absurd counted (by simp)
  · rintro ⟨n, ⟨numeral, low, room⟩, rfl⟩
    rw [successor?, Text.int64?_eq_some_iff.mpr ⟨numeral, low, Int.le_of_lt room⟩]
    exact if_pos room

theorem successor?_eq_none_iff {value : String} :
    successor? value = none ↔ ∀ n, ¬ Countable value n := by
  constructor
  · intro stuck n countable
    rw [successor?_eq_some_iff.mpr ⟨n, countable, rfl⟩] at stuck
    exact absurd stuck (by simp)
  · intro uncountable
    cases counted : successor? value with
    | none => rfl
    | some k =>
      rcases successor?_eq_some_iff.mp counted with ⟨n, countable, -⟩
      exact absurd countable (uncountable n)

example : successor? "+007" = some 8 ∧ successor? "9223372036854775807" = none ∧
    successor? "" = none := by decide

theorem successor?_toString {n : Int} (low : int64Min ≤ n) (room : n < int64Max) :
    successor? (toString n) = some (n + 1) :=
  successor?_eq_some_iff.mpr ⟨n, ⟨Text.numeral_toString n, low, room⟩, rfl⟩

variable {m : Memory} {now : Instant} {key : String} {deadline : Option Instant} {n : Nat}

theorem stored?_put (m : Memory) (key : String) (e : Entry) :
    (m.put key e).stored? = Function.update m.stored? key (some e) := by
  funext other
  by_cases same : other = key
  · rw [same, stored?_put_self, Function.update_self]
  · rw [stored?_put_of_ne same, Function.update_of_ne same]

theorem incr_of_uncountable {e : Entry} (live : m.live? now key = some e)
    (uncountable : ∀ n, ¬ Countable e.value n) :
    m.incr now key = (.error (.notANumber e.value), m) := by
  have stuck := successor?_eq_none_iff.mpr uncountable
  rw [incr, live]
  simp only [stuck]

/-- The number that a counter shows after so many increments. -/
def reached (n : Nat) : Int :=
  min n int64Max

/-- What the next increment answers after so many. -/
def answerAfter (n : Nat) : Except CacheError Int :=
  if (n : Int) < int64Max then .ok (n + 1) else .error (.notANumber (toString int64Max))

/-- A counter with this deadline after so many increments. -/
def counter (deadline : Option Instant) : Nat → Option Entry
  | 0 => none
  | n + 1 => some { value := toString (reached (n + 1)), deadline }

theorem reached_of_le (fits : (n : Int) ≤ int64Max) : reached n = n :=
  Int.min_eq_left fits

theorem reached_of_ge (full : int64Max ≤ (n : Int)) : reached n = int64Max :=
  Int.min_eq_right full

theorem get_of_counter (counted : m.live? now key = counter deadline n) :
    m.get now key = if n = 0 then "" else toString (reached n) := by
  cases n with
  | zero => exact get_of_dead counted
  | succ n =>
    rw [if_neg (Nat.succ_ne_zero n), get_of_live? counted]

/-- An increment answers with its own number, and the counter has counted it.  A counter that has not
started yet starts without a deadline. -/
theorem incr_counter (counted : m.live? now key = counter deadline n) :
    (m.incr now key).1 = answerAfter n ∧
      (m.incr now key).2.live? now key =
        counter (if n = 0 then none else deadline) (n + 1) := by
  cases n with
  | zero =>
    have one : toString (reached 1) = "1" := by decide
    have first : answerAfter 0 = .ok 1 := if_pos (by decide)
    rw [incr_of_dead counted, if_pos rfl, counter, one, first]
    exact ⟨rfl, live?_put_self rfl⟩
  | succ n =>
    have fresh := not_isExpired_of_live? counted
    rw [if_neg (Nat.succ_ne_zero n)]
    by_cases room : ((n + 1 : Nat) : Int) < int64Max
    · have low : int64Min ≤ ((n + 1 : Nat) : Int) :=
        Int.le_trans (by decide) (Int.natCast_nonneg (n + 1))
      have next : successor? (toString (reached (n + 1))) = some (reached (n + 1 + 1)) := by
        rw [reached_of_le (Int.le_of_lt room), reached_of_le room]
        exact successor?_toString low room
      rw [incr_of_live? counted next, answerAfter, if_pos room, reached_of_le room]
      refine ⟨rfl, ?_⟩
      rw [counter, reached_of_le room]
      exact live?_put_self (Entry.isExpired_of_deadline fresh rfl)
    · have full : int64Max ≤ ((n + 1 : Nat) : Int) := Int.not_lt.mp room
      have last : reached (n + 1) = int64Max := reached_of_ge full
      have still : reached (n + 1 + 1) = int64Max :=
        reached_of_ge (Int.le_trans full (Int.ofNat_le.mpr (Nat.le_succ _)))
      have stuck : successor? (toString int64Max) = none := by decide
      rw [counter, last] at counted
      have kept : m.incr now key = (.error (.notANumber (toString int64Max)), m) := by
        rw [incr, counted]
        simp only [stuck]
      rw [kept, answerAfter, if_neg room, counter, still]
      exact ⟨rfl, counted⟩

/-- The event is an increment of the key. -/
def Event.counts (key : String) (event : Event) : Bool :=
  event = incr key

/-- The event gives the key another text or another deadline. -/
def Event.rewrites (key : String) : Event → Bool
  | set other _ | expire other _ => other = key
  | _ => false

/-- Time does not take away a counter without a deadline, and calls for other keys do not touch it. -/
private theorem live?_step_of_idle {s : State}
    (counted : s.memory.live? s.now key = counter none n) {event : Event}
    (keeps : event.rewrites key = false) (idle : event.counts key = false) :
    (s.step event).2.memory.live? (s.step event).2.now key = counter none n := by
  cases event with
  | get asked => exact counted
  | set asked value =>
    have different : asked ≠ key := of_decide_eq_false keeps
    exact (live?_set_of_ne different.symm value).trans counted
  | expire asked span =>
    have different : asked ≠ key := of_decide_eq_false keeps
    rw [State.step]
    split
    · rename_i memory done
      rw [← expire_of_expire? done]
      exact (live?_expire_of_ne different.symm span).trans counted
    · exact counted
  | ttl asked => exact counted
  | incr asked =>
    have different : asked ≠ key := by simpa [Event.counts] using idle
    exact (live?_incr_of_ne different.symm).trans counted
  | sweep => exact live?_sweep.trans counted
  | advance span =>
    change s.memory.live? (s.now + span.nanos) key = counter none n
    rw [live?_later (Nat.le_add_right s.now span.nanos), counted]
    cases n with
    | zero => rfl
    | succ n => rfl

/-- Every event but a rewrite keeps the count, and an increment answers with its number. -/
theorem step_counter {s : State} (counted : s.memory.live? s.now key = counter none n) {event : Event}
    (keeps : event.rewrites key = false) :
    (event.counts key = true → (s.step event).1 = .counted (answerAfter n)) ∧
      (s.step event).2.memory.live? (s.step event).2.now key =
        counter none (if event.counts key then n + 1 else n) := by
  cases counts : event.counts key with
  | false =>
    exact ⟨fun other => absurd other Bool.false_ne_true, live?_step_of_idle counted keeps counts⟩
  | true =>
    obtain rfl : event = .incr key := of_decide_eq_true counts
    rcases incr_counter counted with ⟨answer, next⟩
    rw [ite_self] at next
    exact ⟨fun _ => congrArg Reply.counted answer, next⟩

/-- What the increments of the key are told, one after another. -/
def answers (key : String) (s : State) (events : List Event) : List Reply :=
  ((replies State.step s events).filter fun told => told.1.counts key).map (·.2)

/-- A run without rewrites numbers the increments on from where the counter stands. -/
theorem run_counter {s : State} (counted : s.memory.live? s.now key = counter none n)
    {events : List Event} (keep : ∀ event ∈ events, event.rewrites key = false) :
    let count := events.countP (·.counts key)
    let left := final State.step s events
    answers key s events = (List.range' n count).map (fun k => .counted (answerAfter k)) ∧
      left.memory.live? left.now key = counter none (n + count) := by
  induction events generalizing s n with
  | nil => exact ⟨rfl, counted⟩
  | cons event rest inductionHypothesis =>
    rcases step_counter counted (keep event List.mem_cons_self) with ⟨answer, next⟩
    have later := inductionHypothesis next fun other listed => keep other (List.mem_cons_of_mem _ listed)
    by_cases counts : event.counts key = true
    · rw [if_pos counts] at later
      rw [answers, replies, List.filter_cons_of_pos (by exact counts), List.map_cons, answer counts,
        List.countP_cons_of_pos counts, ← answers, later.1]
      refine ⟨rfl, later.2.trans ?_⟩
      rw [Nat.add_assoc, Nat.add_comm 1]
    · rw [if_neg counts] at later
      rw [answers, replies, List.filter_cons_of_neg (by exact counts),
        List.countP_cons_of_neg counts]
      exact later

/-- An increment of a key that is absent or expired answers one, which is then stored without expiry.
A live text that is a numeral of a number with a next one becomes the decimal text of this next one, and
keeps its deadline.  Every other live text is reported, and the memory stays as it is.

So the increments of an absent key, with anything in between but a new text or a new deadline for it,
answer one, two, three and so on up to the greatest number, and then fail; and the text under the key is
that of the number of increments. -/
theorem incr_counts_up (m : Memory) (now : Instant) (key : String) :
    (m.live? now key = none →
      (m.incr now key).1 = .ok 1 ∧
        (m.incr now key).2.stored? =
          Function.update m.stored? key (some { value := "1", deadline := none })) ∧
    (∀ e, m.live? now key = some e → ∀ n, Countable e.value n →
      (m.incr now key).1 = .ok (n + 1) ∧
        (m.incr now key).2.stored? =
          Function.update m.stored? key (some { e with value := toString (n + 1) })) ∧
    (∀ e, m.live? now key = some e → (∀ n, ¬ Countable e.value n) →
      m.incr now key = (.error (.notANumber e.value), m)) ∧
    (m.live? now key = none → ∀ events : List Event,
      (∀ event ∈ events, event.rewrites key = false) →
      let count := events.countP (·.counts key)
      let left := final State.step { now, memory := m } events
      answers key { now, memory := m } events =
          (List.range count).map (fun k => .counted (answerAfter k)) ∧
        left.memory.get left.now key = if count = 0 then "" else toString (reached count)) := by
  refine ⟨fun dead => ?_, fun e live n countable => ?_, fun e live uncountable => ?_,
    fun dead events keep => ?_⟩
  · rw [incr_of_dead dead]
    exact ⟨rfl, stored?_put m key _⟩
  · rw [incr_of_live? live (successor?_eq_some_iff.mpr ⟨n, countable, rfl⟩)]
    exact ⟨rfl, stored?_put m key _⟩
  · exact incr_of_uncountable live uncountable
  · rcases run_counter (s := { now, memory := m }) (n := 0) dead keep with ⟨told, left⟩
    rw [Nat.zero_add] at left
    rw [← List.range_eq_range'] at told
    exact ⟨told, get_of_counter left⟩

end Memory

end AuthGateway
