import AuthGateway.Proofs.Store.Throttle
import Mathlib.Data.List.Nodup

namespace AuthGateway

/-!
# Guesses that race

A guess of a password is checked by the throttle, and recorded if it is wrong.  That takes up to three
operations on the cache, and the operations of other guesses may come in between, so guesses can pass
the check before those are counted that have passed it earlier.

Whatever the order of the operations, no guess is lost: the records are numbered one after another, in
the order of their increments, and when all is done the counter has the number of them and expires a
window later.  How many guesses pass depends on how many of them are ever between the check and the
increment: if these are never more than `k`, at most `k` guesses pass beyond the five that are tolerated
(`Throttle.racing_guesses`).

The invariant is that a guess that has passed is waiting for its increment or has its place in the order
of the increments, and that the counter shows the length of this order.
-/

open Time (Instant)

namespace Script

variable {α : Type}

/-- The operation that comes next, unless the script is done. -/
def next? : Script α → Option Operation
  | done _ => none
  | get _ _ => some .get
  | set _ _ _ => some .set
  | expire _ _ _ => some .expire
  | ttl _ _ => some .ttl
  | incr _ _ => some .incr

def isDone (script : Script α) : Bool :=
  script.next?.isNone

/-- A script that goes on after each of its operations ends as one that is run in one go. -/
theorem run_step (env : Conditions) (c : Cache) (script : Script α) :
    (script.step env c).1.run env (script.step env c).2 = script.run env c := by
  cases script with
  | _ => rfl

end Script

namespace Throttle

/-- What comes of a guess. -/
inductive Outcome where
  /-- It has not passed the check. -/
  | refused (e : StoreError)
  /-- The password was right. -/
  | right
  /-- The password was wrong, and this is the answer of the record. -/
  | counted (answer : Except StoreError Int)

/-- What is left to do for a wrong guess that has passed the check. -/
def recording (userType account : String) : Script Outcome :=
  (record userType account).bind fun answer => .done (.counted answer)

/-- What is left to do for a guess after the check. -/
def afterCheck (userType account : String) (wrong : Bool) : Except StoreError Unit → Script Outcome
  | .error e => .done (.refused e)
  | .ok () => if wrong then recording userType account else .done .right

/-- A guess of a password: the check, and the record if the password is wrong. -/
def guess (userType account : String) (wrong : Bool) : Script Outcome :=
  (check userType account).bind (afterCheck userType account wrong)

/-- The guess has passed the check, and its increment is still to come. -/
def isWaiting (script : Script Outcome) : Bool :=
  script.next? = some .incr

/-- The record of the guess has been answered. -/
def isCounted : Script Outcome → Bool
  | .done (.counted _) => true
  | _ => false

/-- The guess is wrong and has passed the check. -/
def hasPassed (script : Script Outcome) : Bool :=
  isWaiting script || script.next? = some .expire || isCounted script

/-- Guesses of different clients, each as far as it has come, and their cache. -/
structure Race where
  guesses : List (Script Outcome)
  cache : Cache
  /-- The clients whose increments have been done, in the order of these. -/
  order : List Nat

namespace Race

/-- The guesses are still to be made; each is wrong or right. -/
def start (userType account : String) (cache : Cache) (wrong : List Bool) : Race where
  guesses := wrong.map (guess userType account)
  cache := cache
  order := []

variable (env : Conditions)

/-- The next operation of a client. -/
def turn (race : Race) (client : Nat) : Race :=
  match race.guesses[client]? with
  | none => race
  | some script =>
    let (rest, cache) := script.step env race.cache
    { guesses := race.guesses.set client rest
      cache
      order := if isWaiting script then race.order ++ [client] else race.order }

/-- The race after these turns, each the one of a client. -/
def after (race : Race) (turns : List Nat) : Race :=
  turns.foldl (turn env) race

variable {env}

/-- The guesses that are between the check and the increment. -/
def waiting (race : Race) : Nat :=
  race.guesses.countP isWaiting

/-- The wrong guesses that have passed the check so far. -/
def passed (race : Race) : Nat :=
  race.guesses.countP hasPassed

/-- The records that have been answered. -/
def records (race : Race) : Nat :=
  race.guesses.countP isCounted

/-- The record of the client has been answered so. -/
def Answered (race : Race) (client : Nat) (answer : Except StoreError Int) : Prop :=
  race.guesses[client]? = some (.done (.counted answer))

def isOver (race : Race) : Bool :=
  race.guesses.all Script.isDone

end Race

/-- The answer of the record that has this place in the order; the numbers are of 64 bits. -/
def answerAt (place : Nat) : Except StoreError Int :=
  if (place : Int) < Text.int64Max then .ok (place + 1)
  else .error (.cache (.notANumber (toString Text.int64Max)))

/-- The number that a counter shows after so many increments; it is of 64 bits. -/
def shown (n : Nat) : Int :=
  min n Text.int64Max

/-- The counter after so many increments, with this deadline. -/
def counterAfter (deadline : Option Instant) : Nat → Option Entry
  | 0 => none
  | n + 1 => some { value := toString (shown (n + 1)), deadline }

section

variable {env : Conditions} {c : Cache} {userType account : String} {deadline : Option Instant} {n : Nat}

private theorem int64?_shown (n : Nat) : Text.int64? (toString (shown n)) = some (shown n) := by
  have low : Text.int64Min ≤ shown n :=
    Int.le_min.mpr ⟨Int.le_trans (by decide) (Int.natCast_nonneg n), by decide⟩
  exact Text.int64?_toString low (Int.min_le_right _ _)

private theorem shown_le_iff (n : Nat) : shown n ≤ maxAttempts ↔ n ≤ 5 := by
  simp only [shown, maxAttempts, Text.int64Max]
  omega

/-- A check lets a guess pass just when the counter shows at most five. -/
private theorem check_counter
    (counter : c.memory.live? env.now (key userType account) = counterAfter deadline n) :
    c.memory.get env.now (key userType account) = "" ∨
      attemptsIn (c.memory.get env.now (key userType account)) ≤ maxAttempts ↔ n ≤ 5 := by
  cases n with
  | zero => exact iff_of_true (Or.inl (Memory.get_of_dead counter)) (Nat.zero_le 5)
  | succ n =>
    have value := Memory.get_of_live? counter
    have read := int64?_shown (n + 1)
    have nonempty : toString (shown (n + 1)) ≠ "" := by
      intro empty
      have blank : Text.int64? "" = none := by decide
      rw [empty, blank] at read
      exact absurd read (by simp)
    rw [value, or_iff_right nonempty, attemptsIn, read, Option.getD_some, shown_le_iff]

private theorem counterAfter_eq (deadline : Option Instant) (n : Nat) :
    counterAfter deadline n = Memory.counter deadline n := by
  cases n with
  | zero => rfl
  | succ n => rfl

/-- One more increment; at the greatest number of 64 bits the counter stays. -/
private theorem incr_counter {m : Memory}
    (counter : m.live? env.now (key userType account) = counterAfter deadline n) :
    ∃ deadline', (m.incr env.now (key userType account)).2.live? env.now (key userType account) =
        counterAfter deadline' (n + 1) ∧
      (deadline' = deadline ∨ n = 0 ∧ deadline' = none) ∧
      ((n : Int) < Text.int64Max ∧ (m.incr env.now (key userType account)).1 = .ok (n + 1) ∨
        ¬ (n : Int) < Text.int64Max ∧ (m.incr env.now (key userType account)).1 =
          .error (.notANumber (toString Text.int64Max))) := by
  rw [counterAfter_eq] at counter
  rcases Memory.incr_counter counter with ⟨answer, left⟩
  refine ⟨if n = 0 then none else deadline, ?_, ?_, ?_⟩
  · rw [counterAfter_eq]
    exact left
  · by_cases first : n = 0
    · exact Or.inr ⟨first, if_pos first⟩
    · exact Or.inl (if_neg first)
  · by_cases room : (n : Int) < Text.int64Max
    · exact Or.inl ⟨room, answer.trans (if_pos room)⟩
    · exact Or.inr ⟨room, answer.trans (if_neg room)⟩

variable (calm : env.Calm)
  (counter : c.memory.live? env.now (key userType account) = counterAfter deadline n)

include calm counter

/-- The first operation of a guess decides whether it passes. -/
theorem step_guess_of_few (few : n ≤ 5) (wrong : Bool) :
    (guess userType account wrong).step env c =
      (afterCheck userType account wrong (.ok ()), c.called c.memory) := by
  have passes := (check_counter counter).mpr few
  rw [guess, check, Script.bind, Script.step, Cache.attempt_of_calm calm]
  dsimp only at passes ⊢
  by_cases empty : c.memory.get env.now (key userType account) = ""
  · rw [if_pos empty]
    rfl
  · rw [if_neg empty, if_pos (passes.resolve_left empty)]
    rfl

theorem step_guess_of_many (many : 5 < n) (wrong : Bool) :
    ∃ next, (guess userType account wrong).step env c =
        (.ttl (key userType account) next, c.called c.memory) ∧
      ∀ answer, ∃ e, next answer = .done (.refused e) := by
  have fails := mt (check_counter counter).mp (Nat.not_le_of_gt many)
  rw [guess, check, Script.bind, Script.step, Cache.attempt_of_calm calm]
  dsimp only at fails ⊢
  rw [if_neg fun empty => fails (Or.inl empty), if_neg fun few => fails (Or.inr few), Script.bind]
  refine ⟨_, rfl, ?_⟩
  rintro (e | retryAfter)
  · exact ⟨_, rfl⟩
  · exact ⟨_, rfl⟩

/-- The increment gives the guess its place; only a number that does not fit ends it at once. -/
theorem step_recording :
    ∃ rest memory deadline', (recording userType account).step env c = (rest, c.called memory) ∧
      memory.live? env.now (key userType account) = counterAfter deadline' (n + 1) ∧
      (deadline' = deadline ∨ n = 0 ∧ deadline' = none) ∧
      ((∃ next, rest = .expire (key userType account) window next ∧
          next (.ok ()) = .done (.counted (answerAt n))) ∨
        rest = .done (.counted (answerAt n)) ∧ ∀ number, answerAt n ≠ .ok number) := by
  rcases incr_counter counter with ⟨deadline', left, kept, answer⟩
  rw [recording, record, Script.bind, Script.step, Cache.attempt_of_calm calm]
  refine ⟨_, _, deadline', rfl, left, kept, ?_⟩
  rcases answer with ⟨room, answer⟩ | ⟨full, answer⟩
  · left
    rw [answer, answerAt, if_pos room]
    exact ⟨_, rfl, rfl⟩
  · right
    rw [answer, answerAt, if_neg full]
    exact ⟨rfl, fun number same => by cases same⟩

/-- Then the deadline is set. -/
theorem step_dating (positive : 0 < n) (next : Except CacheError Unit → Script Outcome) :
    ∃ memory, (Script.expire (key userType account) window next).step env c =
        (next (.ok ()), c.called memory) ∧
      memory.live? env.now (key userType account) =
        counterAfter (some (env.now + window.nanos)) n := by
  have span : 0 < window.nanos := by decide
  cases n with
  | zero => exact absurd positive (Nat.lt_irrefl 0)
  | succ n =>
    rw [Script.step, Cache.attempt_of_calm calm]
    exact ⟨_, rfl, Memory.live?_expire_self counter span⟩

end

/-- How far a guess has come: from its increment on it has a place in the order. -/
inductive Stage (userType account : String) (order : List Nat) (client : Nat) :
    Script Outcome → Prop where
  | fresh (early : client ∉ order) (wrong : Bool) :
      Stage userType account order client (guess userType account wrong)
  | refused (out : client ∉ order) {next : Except CacheError Time.Duration → Script Outcome}
      (ends : ∀ answer, ∃ e, next answer = .done (.refused e)) :
      Stage userType account order client (.ttl (key userType account) next)
  | passed (early : client ∉ order) :
      Stage userType account order client (recording userType account)
  | numbered {place : Nat} (placed : order[place]? = some client)
      {next : Except CacheError Unit → Script Outcome}
      (ends : next (.ok ()) = .done (.counted (answerAt place))) :
      Stage userType account order client (.expire (key userType account) window next)
  | out (out : client ∉ order) {outcome : Outcome} (other : ∀ answer, outcome ≠ .counted answer) :
      Stage userType account order client (.done outcome)
  | counted {place : Nat} (placed : order[place]? = some client) :
      Stage userType account order client (.done (.counted (answerAt place)))

theorem Stage.append {userType account : String} {order : List Nat} {client : Nat}
    {script : Script Outcome} (stage : Stage userType account order client script) {other : Nat}
    (different : client ≠ other) : Stage userType account (order ++ [other]) client script := by
  have early : client ∉ order → client ∉ order ++ [other] := by
    intro absent listed
    rcases List.mem_append.mp listed with before | last
    · exact absent before
    · exact different (List.mem_singleton.mp last)
  have placed : ∀ {place : Nat}, order[place]? = some client →
      (order ++ [other])[place]? = some client := by
    intro place found
    rw [List.getElem?_append_left (List.getElem?_eq_some_iff.mp found).1]
    exact found
  cases stage with
  | fresh absent wrong => exact .fresh (early absent) wrong
  | refused absent ends => exact .refused (early absent) ends
  | passed absent => exact .passed (early absent)
  | numbered found ends => exact .numbered (placed found) ends
  | out absent others => exact .out (early absent) others
  | counted found => exact .counted (placed found)

/-- A guess whose record has been answered has its place, and the answer of this place. -/
theorem Stage.place_of_counted {userType account : String} {order : List Nat} {client : Nat}
    {script : Script Outcome} (stage : Stage userType account order client script)
    {answer : Except StoreError Int} (ended : script = .done (.counted answer)) :
    ∃ place, order[place]? = some client ∧ answer = answerAt place := by
  cases stage with
  | fresh _ wrong => exact absurd ended (by simp [guess, check, Script.bind])
  | refused _ _ => exact absurd ended (by simp)
  | passed _ => exact absurd ended (by simp [recording, record, Script.bind])
  | numbered _ _ => exact absurd ended (by simp)
  | out _ other => exact absurd (Script.done.inj ended) (other answer)
  | counted placed => exact ⟨_, placed, (Outcome.counted.inj (Script.done.inj ended)).symm⟩

namespace Race

variable {env : Conditions} {userType account : String} {race : Race} {client : Nat}

/-- Every guess is at a stage, and the counter shows the length of the order. -/
structure Sound (env : Conditions) (userType account : String) (race : Race) : Prop where
  staged : ∀ client script, race.guesses[client]? = some script →
    Stage userType account race.order client script
  distinct : race.order.Nodup
  inside : ∀ client ∈ race.order, client < race.guesses.length
  counter : ∃ deadline,
    race.cache.memory.live? env.now (key userType account) =
      counterAfter deadline race.order.length ∧
    (deadline = none ∨ deadline = some (env.now + window.nanos)) ∧
    ∀ client number, race.Answered client (.ok number) → deadline ≠ none
  balance : race.passed = race.waiting + race.order.length

theorem sound_start {cache : Cache}
    (fresh : cache.memory.live? env.now (key userType account) = none) (wrong : List Bool) :
    Sound env userType account (start userType account cache wrong) := by
  have unmade : ∀ script ∈ (start userType account cache wrong).guesses,
      ∃ wrong, script = guess userType account wrong := by
    intro script listed
    rcases List.mem_map.mp listed with ⟨wrong, -, rfl⟩
    exact ⟨wrong, rfl⟩
  refine ⟨?_, List.nodup_nil, fun _ listed => absurd listed List.not_mem_nil,
    ⟨none, fresh, Or.inl rfl, ?_⟩, ?_⟩
  · intro client script found
    rcases unmade script (List.mem_of_getElem? found) with ⟨wrong, rfl⟩
    exact .fresh List.not_mem_nil wrong
  · intro client number found
    rcases unmade _ (List.mem_of_getElem? found) with ⟨wrong, same⟩
    exact absurd same (by simp [guess, check, Script.bind])
  · have idle : ∀ p : Script Outcome → Bool, (∀ wrong, p (guess userType account wrong) = false) →
        (start userType account cache wrong).guesses.countP p = 0 := by
      intro p none
      rw [List.countP_eq_zero]
      intro script listed
      rcases unmade script listed with ⟨wrong, rfl⟩
      rw [none wrong]
      exact Bool.false_ne_true
    rw [passed, waiting, idle hasPassed fun _ => rfl, idle isWaiting fun _ => rfl]
    rfl

private theorem countP_set (p : Script Outcome → Bool) {guesses : List (Script Outcome)}
    {script : Script Outcome} (found : guesses[client]? = some script) (rest : Script Outcome) :
    (guesses.set client rest).countP p + (p script).toNat = guesses.countP p + (p rest).toNat := by
  rcases List.getElem?_eq_some_iff.mp found with ⟨inside, here⟩
  have counted : (p script).toNat ≤ guesses.countP p := by
    cases chosen : p script with
    | false => exact Nat.zero_le _
    | true => exact List.countP_pos_iff.mpr ⟨script, List.mem_of_getElem? found, chosen⟩
  have unit : ∀ b : Bool, (if b = true then 1 else 0) = b.toNat := by decide
  rw [List.countP_set inside, here, unit, unit]
  omega

/-- One guess goes on, and takes its place in the order if it is counted. -/
private theorem Sound.update (sound : race.Sound env userType account) {script rest : Script Outcome}
    (found : race.guesses[client]? = some script) {cache : Cache} {order : List Nat}
    (grown : order = race.order ∨ order = race.order ++ [client] ∧ client ∉ race.order)
    (stage : Stage userType account order client rest)
    (counter : ∃ deadline,
      cache.memory.live? env.now (key userType account) = counterAfter deadline order.length ∧
      (deadline = none ∨ deadline = some (env.now + window.nanos)) ∧
      ∀ other number, Answered { guesses := race.guesses.set client rest, cache, order } other
        (.ok number) → deadline ≠ none)
    (balance : (hasPassed rest).toNat + (isWaiting script).toNat + race.order.length =
      (hasPassed script).toNat + (isWaiting rest).toNat + order.length) :
    Sound env userType account { guesses := race.guesses.set client rest, cache, order } := by
  rcases List.getElem?_eq_some_iff.mp found with ⟨inside, -⟩
  refine ⟨?_, ?_, ?_, counter, ?_⟩
  case refine_1 =>
    intro other script' found'
    by_cases same : client = other
    · subst same
      rw [List.getElem?_set_self inside] at found'
      exact Option.some.inj found' ▸ stage
    · rw [List.getElem?_set_ne same] at found'
      have before := sound.staged other script' found'
      rcases grown with rfl | ⟨rfl, -⟩
      · exact before
      · exact before.append fun equal => same equal.symm
  case refine_2 =>
    rcases grown with rfl | ⟨rfl, new⟩
    · exact sound.distinct
    · refine List.nodup_append.mpr ⟨sound.distinct, List.nodup_singleton client, ?_⟩
      rintro other listed _ last rfl
      exact new (List.mem_singleton.mp last ▸ listed)
  case refine_3 =>
    intro other listed
    rw [List.length_set]
    rcases grown with rfl | ⟨rfl, -⟩
    · exact sound.inside other listed
    · rcases List.mem_append.mp listed with before | last
      · exact sound.inside other before
      · exact List.mem_singleton.mp last ▸ inside
  case refine_4 =>
    have passes := countP_set hasPassed found rest
    have waits := countP_set isWaiting found rest
    have balanced := sound.balance
    simp only [passed, waiting] at balanced ⊢
    omega

private theorem answered_set {rest : Script Outcome} {cache : Cache} {order : List Nat} {other : Nat}
    {answer : Except StoreError Int}
    (answered : Answered { guesses := race.guesses.set client rest, cache, order } other answer) :
    rest = .done (.counted answer) ∨ race.Answered other answer := by
  by_cases same : client = other
  · subst same
    have inside : client < (race.guesses.set client rest).length :=
      (List.getElem?_eq_some_iff.mp answered).1
    rw [List.length_set] at inside
    rw [Answered, List.getElem?_set_self inside] at answered
    exact Or.inl (Option.some.inj answered)
  · rw [Answered, List.getElem?_set_ne same] at answered
    exact Or.inr answered

/-- The next race has one guess more that has passed only if at most five increments have been done. -/
def Admits (race next : Race) : Prop :=
  next.passed = race.passed ∨ next.order = race.order ∧ race.order.length ≤ 5

private theorem admits_set {script rest : Script Outcome}
    (found : race.guesses[client]? = some script) (same : hasPassed script = hasPassed rest)
    {cache : Cache} {order : List Nat} :
    race.Admits { guesses := race.guesses.set client rest, cache, order } := by
  have passes := countP_set hasPassed found rest
  rw [same] at passes
  exact Or.inl (Nat.add_right_cancel passes)

/-- A guess goes on that has no place in the order, and reads the cache only. -/
private theorem Sound.look (sound : race.Sound env userType account) {script rest : Script Outcome}
    (found : race.guesses[client]? = some script) (early : hasPassed script = false)
    (stage : Stage userType account race.order client rest)
    (unanswered : ∀ answer, rest ≠ .done (.counted answer))
    (balance : hasPassed rest = isWaiting rest) :
    Sound env userType account {
      guesses := race.guesses.set client rest
      cache := race.cache.called race.cache.memory
      order := race.order } := by
  rcases sound.counter with ⟨deadline, counter, dated, answered⟩
  have unready : isWaiting script = false := by
    rw [hasPassed, Bool.or_eq_false_iff, Bool.or_eq_false_iff] at early
    exact early.1.1
  refine sound.update found (Or.inl rfl) stage ⟨deadline, counter, dated, ?_⟩ ?_
  · intro other number now
    exact answered other number ((answered_set now).resolve_left (unanswered _))
  · rw [early, unready, balance]
    omega

section

variable {script rest : Script Outcome} {cache : Cache} (found : race.guesses[client]? = some script)
  (stepped : script.step env race.cache = (rest, cache))

include found stepped

private theorem turn_eq (order : List Nat)
    (grown : order = if isWaiting script then race.order ++ [client] else race.order) :
    race.turn env client = { guesses := race.guesses.set client rest, cache, order } := by
  rw [Race.turn, found, grown]
  dsimp only
  rw [stepped]

private theorem turn_of_waiting (waits : isWaiting script = true) :
    race.turn env client = {
      guesses := race.guesses.set client rest
      cache
      order := race.order ++ [client] } :=
  turn_eq found stepped _ (if_pos waits).symm

private theorem turn_of_not_waiting (goesOn : isWaiting script = false) :
    race.turn env client = { guesses := race.guesses.set client rest, cache, order := race.order } :=
  turn_eq found stepped _ (if_neg (Bool.eq_false_iff.mp goesOn)).symm

end

private theorem turn_of_done {outcome : Outcome} (found : race.guesses[client]? = some (.done outcome)) :
    race.turn env client = race := by
  rw [turn_of_not_waiting found rfl rfl]
  congr 1
  apply List.ext_getElem?
  intro other
  by_cases same : client = other
  · subst same
    rw [List.getElem?_set_self (List.getElem?_eq_some_iff.mp found).1, found]
  · rw [List.getElem?_set_ne same]

/-- What each turn preserves. -/
theorem Sound.turn (calm : env.Calm) (sound : race.Sound env userType account) (client : Nat) :
    (race.turn env client).Sound env userType account ∧ race.Admits (race.turn env client) := by
  cases found : race.guesses[client]? with
  | none =>
    rw [Race.turn, found]
    exact ⟨sound, Or.inl rfl⟩
  | some script =>
    rcases sound.counter with ⟨deadline, counter, dated, answered⟩
    -- Only an increment makes the order longer, and only the check of a fresh guess lets one more pass.
    cases sound.staged client script found with
    | fresh early wrong =>
      by_cases few : race.order.length ≤ 5
      · rw [turn_of_not_waiting found (step_guess_of_few calm counter few wrong) rfl]
        refine ⟨?_, Or.inr ⟨rfl, few⟩⟩
        cases wrong with
        | true => exact sound.look found rfl (.passed early) (fun _ same => by cases same) rfl
        | false =>
          exact sound.look found rfl (.out early fun _ same => by cases same)
            (fun _ same => by cases same) rfl
      · rcases step_guess_of_many calm counter (Nat.lt_of_not_ge few) wrong with ⟨next, stepped, ends⟩
        rw [turn_of_not_waiting found stepped rfl]
        refine ⟨?_, admits_set found ?_⟩
        · exact sound.look found rfl (.refused early ends) (fun _ same => by cases same) rfl
        · rfl
    | @refused out next ends =>
      rcases ends (.ok (race.cache.memory.ttl env.now (key userType account))) with ⟨e, refused⟩
      have stepped : (Script.ttl (key userType account) next).step env race.cache =
          (.done (.refused e), race.cache.called race.cache.memory) := by
        rw [Script.step, Cache.attempt_of_calm calm, ← refused]
      rw [turn_of_not_waiting found stepped rfl]
      refine ⟨?_, admits_set found ?_⟩
      · exact sound.look found rfl (.out out fun _ same => by cases same)
          (fun _ same => by cases same) rfl
      · rfl
    | passed early =>
      rcases step_recording calm counter with ⟨rest, memory, deadline', stepped, left, kept, next⟩
      have placed : (race.order ++ [client])[race.order.length]? = some client :=
        List.getElem?_concat_length
      have stage : Stage userType account (race.order ++ [client]) client rest ∧
          hasPassed rest = true ∧ isWaiting rest = false ∧
          ∀ number, rest ≠ .done (.counted (.ok number)) := by
        rcases next with ⟨next, rfl, ends⟩ | ⟨rfl, failed⟩
        · exact ⟨.numbered placed ends, rfl, rfl, fun _ same => by cases same⟩
        · exact ⟨.counted placed, rfl, rfl, fun number same =>
            failed number (Outcome.counted.inj (Script.done.inj same))⟩
      rcases stage with ⟨stage, passed, counted, unanswered⟩
      rw [turn_of_waiting found stepped rfl]
      refine ⟨sound.update found (Or.inr ⟨rfl, early⟩) stage ⟨deadline', ?_, ?_, ?_⟩ ?_,
        admits_set found passed.symm⟩
      case refine_1 =>
        rw [List.length_append]
        exact left
      case refine_2 =>
        rcases kept with rfl | ⟨-, rfl⟩
        · exact dated
        · exact Or.inl rfl
      case refine_3 =>
        intro other number now
        have before := (answered_set now).resolve_left (unanswered number)
        rcases kept with rfl | ⟨empty, -⟩
        · exact answered other number before
        · rcases (sound.staged other _ before).place_of_counted rfl with ⟨place, found', -⟩
          rw [List.length_eq_zero_iff.mp empty] at found'
          exact absurd found' (by simp)
      case refine_4 =>
        have ready : hasPassed (recording userType account) = true ∧
            isWaiting (recording userType account) = true := ⟨rfl, rfl⟩
        rw [passed, counted, ready.1, ready.2, List.length_append]
        simp only [Bool.toNat_true, Bool.toNat_false, List.length_singleton]
        omega
    | @numbered place placed next ends =>
      have positive : 0 < race.order.length :=
        Nat.lt_of_le_of_lt (Nat.zero_le place) (List.getElem?_eq_some_iff.mp placed).1
      rcases step_dating calm counter positive next with ⟨memory, stepped, left⟩
      rw [ends] at stepped
      rw [turn_of_not_waiting found stepped rfl]
      refine ⟨sound.update found (Or.inl rfl) (.counted placed)
        ⟨some (env.now + window.nanos), left, Or.inr rfl, fun _ _ _ => by simp⟩ ?_,
        admits_set found ?_⟩
      · rfl
      · rfl
    | out out other =>
      rw [turn_of_done found]
      exact ⟨sound, Or.inl rfl⟩
    | counted placed =>
      rw [turn_of_done found]
      exact ⟨sound, Or.inl rfl⟩

theorem after_append_singleton (race : Race) (turns : List Nat) (client : Nat) :
    race.after env (turns ++ [client]) = (race.after env turns).turn env client := by
  rw [after, List.foldl_append]
  rfl

/-- What a whole race preserves. -/
theorem Sound.after (calm : env.Calm) (sound : race.Sound env userType account) (turns : List Nat) :
    (race.after env turns).Sound env userType account := by
  induction turns using List.reverseRecOn with
  | nil => exact sound
  | append_singleton turns client inductionHypothesis =>
    rw [after_append_singleton]
    exact (inductionHypothesis.turn calm client).1

/-- If never more than `k` guesses wait, at most `k` pass beyond the five that are tolerated. -/
theorem Sound.passed_after_le (calm : env.Calm) (sound : race.Sound env userType account) {k : Nat}
    (few : race.passed ≤ 5 + k) {turns : List Nat}
    (crowd : ∀ front, front <+: turns → (race.after env front).waiting ≤ k) :
    (race.after env turns).passed ≤ 5 + k := by
  induction turns using List.reverseRecOn with
  | nil => exact few
  | append_singleton turns client inductionHypothesis =>
    have before := inductionHypothesis fun front part =>
      crowd front (part.trans (List.prefix_append turns [client]))
    have waits := crowd (turns ++ [client]) (List.prefix_refl _)
    rw [after_append_singleton] at waits ⊢
    rcases (sound.after calm turns).turn calm client with ⟨next, same | ⟨order, early⟩⟩
    · rw [same]
      exact before
    · -- At most five increments had been done, and all others that have passed are still waiting.
      rw [next.balance, order]
      omega

/-- When all guesses are made, each one in the order has been answered. -/
theorem Sound.answered_of_isOver (sound : race.Sound env userType account)
    (finished : race.isOver = true)
    {place client : Nat} (placed : race.order[place]? = some client) :
    race.Answered client (answerAt place) := by
  have listed : client ∈ race.order := List.mem_of_getElem? placed
  cases found : race.guesses[client]? with
  | none => exact absurd (sound.inside client listed) (Nat.not_lt_of_ge (List.getElem?_eq_none_iff.mp found))
  | some script =>
    have done := List.all_eq_true.mp finished script (List.mem_of_getElem? found)
    rw [Answered, found]
    cases sound.staged client script found with
    | fresh early _ => exact absurd listed early
    | refused out _ => exact absurd listed out
    | passed early => exact absurd listed early
    | numbered _ _ => exact absurd done Bool.false_ne_true
    | out out _ => exact absurd listed out
    | @counted place' placed' =>
      have inside := (List.getElem?_eq_some_iff.mp placed).1
      have same : place = place' :=
        (List.getElem?_inj inside sound.distinct).mp (placed.trans placed'.symm)
      rw [same]

theorem Sound.records_of_isOver (sound : race.Sound env userType account)
    (finished : race.isOver = true) :
    race.order.length = race.records := by
  have same : ∀ script ∈ race.guesses, isWaiting script = false ∧ hasPassed script = isCounted script := by
    intro script listed
    have done := List.all_eq_true.mp finished script listed
    cases script with
    | done outcome => exact ⟨rfl, rfl⟩
    | _ => exact absurd done Bool.false_ne_true
  have waits : race.waiting = 0 :=
    List.countP_eq_zero.mpr fun script listed => Bool.eq_false_iff.mp (same script listed).1
  have passes : race.passed = race.records :=
    List.countP_congr fun script listed => by rw [(same script listed).2]
  rw [← passes, sound.balance, waits, Nat.zero_add]

/-- Then the counter is dated, if there is one. -/
theorem Sound.counter_of_isOver (sound : race.Sound env userType account)
    (finished : race.isOver = true) :
    race.cache.memory.live? env.now (key userType account) =
      counterAfter (some (env.now + window.nanos)) race.records := by
  rcases sound.counter with ⟨deadline, counter, dated, answered⟩
  rw [← sound.records_of_isOver finished, counter]
  cases first : race.order[0]? with
  | none =>
    have empty : race.order = [] := by simpa using first
    rw [empty]
    rfl
  | some client =>
    have one : answerAt 0 = .ok 1 := by decide
    have present := answered client 1 (one ▸ sound.answered_of_isOver finished first)
    rw [dated.resolve_left present]

end Race

/-- Guesses of any number of clients, wrong or right, race for one account while the clock stands still
and the cache works, from an empty counter on.  Their records are answered with one number after another,
in the order of their increments.  When all guesses are made the counter shows how many were recorded, and
it expires a window later.  If never more than `k` guesses are between the check and the increment, at
most `5 + k` wrong ones pass. -/
theorem racing_guesses {env : Conditions} (calm : env.Calm) {userType account : String} {cache : Cache}
    (fresh : cache.memory.live? env.now (key userType account) = none) (wrong : List Bool)
    (turns : List Nat) :
    let start := Race.start userType account cache wrong
    let race := start.after env turns
    race.order.Nodup ∧
    (∀ client answer, race.Answered client answer →
      ∃ place, race.order[place]? = some client ∧ answer = answerAt place) ∧
    (race.isOver = true →
      (∀ place client, race.order[place]? = some client → race.Answered client (answerAt place)) ∧
      race.order.length = race.records ∧
      race.cache.memory.live? env.now (key userType account) =
        counterAfter (some (env.now + window.nanos)) race.records) ∧
    ∀ k, (∀ front, front <+: turns → (start.after env front).waiting ≤ k) → race.passed ≤ 5 + k := by
  intro start race
  have ready : start.Sound env userType account := Race.sound_start fresh wrong
  have sound : race.Sound env userType account := ready.after calm turns
  refine ⟨sound.distinct, ?_, ?_, ?_⟩
  · intro client answer answered
    exact (sound.staged client _ answered).place_of_counted rfl
  · intro finished
    exact ⟨fun place client => sound.answered_of_isOver finished, sound.records_of_isOver finished,
      sound.counter_of_isOver finished⟩
  · intro k crowd
    have few : start.passed ≤ 5 + k := by
      have waits := crowd [] (List.nil_prefix)
      rw [ready.balance]
      exact Nat.le_trans waits (Nat.le_add_left k 5)
    exact ready.passed_after_le calm few crowd

/-- Five guesses one after another, then two at a time, and one that comes too late. -/
def twoAtATime : List Nat :=
  (List.range 5).flatMap (fun client => [client, client, client]) ++ [5, 6, 5, 6, 6, 5, 7, 7]

theorem racing_guesses_twoAtATime :
    let env : Conditions := { now := 0, outage := Store.calm }
    let start := Race.start "local" "alice" .empty (List.replicate 8 true)
    let race := start.after env twoAtATime
    Cache.empty.memory.live? env.now (key "local" "alice") = none ∧
      race.isOver = true ∧ race.order = [0, 1, 2, 3, 4, 5, 6] ∧ race.Answered 6 (.ok 7) ∧
      race.cache.memory.live? env.now (key "local" "alice") =
        some { value := "7", deadline := some 600000000000 } ∧
      (∀ front, front <+: twoAtATime → (start.after env front).waiting ≤ 2) ∧
      race.passed = 5 + 2 := by
  intro env start race
  have finished : race.isOver = true := by decide +kernel
  have order : race.order = [0, 1, 2, 3, 4, 5, 6] := by decide +kernel
  have crowd : ∀ front, front <+: twoAtATime → (start.after env front).waiting ≤ 2 := by
    have bounded : ∀ n < twoAtATime.length + 1,
        (start.after env (twoAtATime.take n)).waiting ≤ 2 := by decide +kernel
    intro front part
    rw [List.prefix_iff_eq_take.mp part]
    exact bounded _ (Nat.lt_succ_of_le part.length_le)
  have calm : env.Calm := fun _ _ => rfl
  have fresh : Cache.empty.memory.live? env.now (key "local" "alice") = none := rfl
  rcases racing_guesses calm fresh (List.replicate 8 true) twoAtATime with ⟨-, -, ended, few⟩
  rcases ended finished with ⟨answered, records, counter⟩
  have all : race.records = 7 := by
    rw [← records]
    exact congrArg List.length order
  have seven : counterAfter (some (env.now + window.nanos)) 7 =
      some { value := "7", deadline := some 600000000000 } := by decide +kernel
  have many : 5 + 2 ≤ race.passed := by decide +kernel
  refine ⟨fresh, finished, order, ?_, ?_, crowd, Nat.le_antisymm (few 2 crowd) many⟩
  · have last : answerAt 6 = .ok 7 := by decide
    exact last ▸ answered 6 6 (congrArg (fun order : List Nat => order[6]?) order)
  · rw [counter, all, seven]

end Throttle

end AuthGateway
