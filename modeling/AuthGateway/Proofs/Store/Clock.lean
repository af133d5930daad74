import AuthGateway.Proofs.Store.Keys
import AuthGateway.Proofs.Store.Race

namespace AuthGateway

/-!
# Deadlines that the clock can show

A script that sets a deadline asks for the instant a span ahead.  On a clock that ends there may be none,
and then the script breaks off.  One whose spans all lead to instants runs as if the clock had no end
(`Script.runOnClock_of_dates`).  The spans of the throttle and of the markers are their two windows.
-/

open Time (Duration Timestamp)

namespace Script

variable {α β : Type} {Right : Duration → Prop}

/-- The script sets deadlines only so far ahead. -/
def Dates (Right : Duration → Prop) : Script α → Prop
  | done _ => True
  | get _ next => ∀ answer, (next answer).Dates Right
  | set _ _ next => ∀ answer, (next answer).Dates Right
  | expire _ span next => Right span ∧ ∀ answer, (next answer).Dates Right
  | ttl _ next => ∀ answer, (next answer).Dates Right
  | incr _ next => ∀ answer, (next answer).Dates Right

theorem Dates.bind {script : Script α} (first : script.Dates Right) {next : α → Script β}
    (second : ∀ result, (next result).Dates Right) : (script.bind next).Dates Right := by
  induction script with
  | done result => exact second result
  | get _ _ inductionHypothesis => exact fun answer => inductionHypothesis answer (first answer)
  | set _ _ _ inductionHypothesis => exact fun answer => inductionHypothesis answer (first answer)
  | expire _ _ _ inductionHypothesis =>
    exact ⟨first.1, fun answer => inductionHypothesis answer (first.2 answer)⟩
  | ttl _ _ inductionHypothesis => exact fun answer => inductionHypothesis answer (first answer)
  | incr _ _ inductionHypothesis => exact fun answer => inductionHypothesis answer (first answer)

theorem ReadsOnly.dates {script : Script α} (reads : script.ReadsOnly) : script.Dates Right := by
  induction script with
  | done result => trivial
  | get _ _ inductionHypothesis => exact fun answer => inductionHypothesis answer (reads answer)
  | ttl _ _ inductionHypothesis => exact fun answer => inductionHypothesis answer (reads answer)
  | set _ _ _ _ => exact reads.elim
  | expire _ _ _ _ => exact reads.elim
  | incr _ _ _ => exact reads.elim

/-- The script without its result. -/
def quietly (script : Script α) : Script Unit :=
  script.bind fun _ => .done ()

theorem Dates.quietly {script : Script α} (dates : script.Dates Right) : script.quietly.Dates Right :=
  dates.bind fun _ => trivial

theorem run_quietly (script : Script α) (env : Conditions) (c : Cache) :
    (script.quietly.run env c).2 = (script.run env c).2 := by
  rw [Script.quietly, run_bind]
  rfl

/-- The whole script, unless it asks for a deadline that the clock cannot show. -/
def runOnClock (env : Conditions) (c : Cache) : Script α → Option (α × Cache)
  | done result => some (result, c)
  | get key next =>
    let (answer, c) := c.attempt env .get (.ok (c.memory.get env.now key), c.memory)
    (next answer).runOnClock env c
  | set key value next =>
    let (answer, c) := c.attempt env .set (.ok (), c.memory.set key value)
    (next answer).runOnClock env c
  | expire key span next =>
    match Time.after? env.now span with
    | none => none
    | some _ =>
      let (answer, c) := c.attempt env .expire (.ok (), c.memory.expire env.now key span)
      (next answer).runOnClock env c
  | ttl key next =>
    let (answer, c) := c.attempt env .ttl (.ok (c.memory.ttl env.now key), c.memory)
    (next answer).runOnClock env c
  | incr key next =>
    let (answer, c) := c.attempt env .incr (c.memory.incr env.now key)
    (next answer).runOnClock env c

/-- Where every deadline is an instant, the end of the clock does not matter. -/
theorem runOnClock_of_dates {env : Conditions} {script : Script α}
    (dates : script.Dates fun span => (Time.after? env.now span).isSome = true) (c : Cache) :
    script.runOnClock env c = some (script.run env c) := by
  induction script generalizing c with
  | done result => rfl
  | get _ _ inductionHypothesis => exact inductionHypothesis _ (dates _) _
  | set _ _ _ inductionHypothesis => exact inductionHypothesis _ (dates _) _
  | expire key span next inductionHypothesis =>
    rcases Option.isSome_iff_exists.mp dates.1 with ⟨deadline, shown⟩
    rw [runOnClock, shown]
    exact inductionHypothesis _ (dates.2 _) _
  | ttl _ _ inductionHypothesis => exact inductionHypothesis _ (dates _) _
  | incr _ _ inductionHypothesis => exact inductionHypothesis _ (dates _) _

end Script

variable {Right : Duration → Prop}

namespace Throttle

theorem dates_record (right : Right window) (userType account : String) :
    (record userType account).Dates Right := by
  rintro (_ | attempts)
  · trivial
  · refine ⟨right, ?_⟩
    rintro (_ | _)
    · trivial
    · trivial

theorem dates_guess (right : Right window) (userType account : String) (wrong : Bool) :
    (guess userType account wrong).Dates Right := by
  refine (readsOnly_check userType account).dates.bind ?_
  rintro (_ | _)
  · trivial
  · cases wrong with
    | false => trivial
    | true => exact (dates_record right userType account).bind fun _ => trivial

end Throttle

namespace Marker

theorem dates_validate (right : Right validity) {ε : Type} (ofCache : CacheError → ε) (session : String)
    (time : Timestamp) (verify : Except ε Bool) :
    (validate ofCache session time verify).Dates Right := by
  have leaves : (leave session time).Dates Right := by
    rintro (_ | _)
    · trivial
    · exact ⟨right, fun _ => trivial⟩
  have finds : (find session).Dates Right := fun _ => trivial
  refine finds.bind ?_
  rintro (_ | (_ | _))
  · trivial
  · cases verify with
    | error _ => trivial
    | ok valid =>
      cases valid with
      | false => trivial
      | true =>
        refine leaves.bind ?_
        rintro (_ | _)
        · trivial
        · trivial
  · trivial

end Marker

end AuthGateway
