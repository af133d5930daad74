import AuthGateway.Proofs.Cache.Script
import AuthGateway.Proofs.Time.Rfc3339
import AuthGateway.Session.Marker

namespace AuthGateway

/-!
# What a validation does

What comes of a validation depends on three things: whether the search for the marker works, whether
it finds one, and what the provider says.  Only a yes of the provider is written down, as a text and
a deadline, by two calls of which each can fail.
-/

open Time (Instant Timestamp)

namespace Marker

/-- The text of a marker is never mistaken for a missing one. -/
theorem text_ne_empty (time : Timestamp) : text time ≠ "" := by
  intro empty
  have read : Time.Rfc3339.parse? (text time) = some time :=
    Time.Rfc3339.parse?_format (by decide) .numeric time
  have nothing : Time.Rfc3339.parse? "" = none := by decide
  rw [empty, nothing] at read
  exact absurd read (by simp)

variable {env : Conditions} {c : Cache} (session : String) (time : Timestamp)

theorem run_find_of_fails {reason : String} (fails : env.outage c.calls .get = some reason) :
    (find session).run env c = (.error (.backend reason), c.called c.memory) := by
  rw [find, Script.run, Cache.attempt_of_fails fails]
  rfl

theorem run_find_of_works (works : env.outage c.calls .get = none) :
    (find session).run env c =
      (.ok (decide (c.memory.get env.now (key session) ≠ "")), c.called c.memory) := by
  rw [find, Script.run, Cache.attempt_of_works works]
  rfl

theorem run_leave_of_unset {reason : String} (fails : env.outage c.calls .set = some reason) :
    (leave session time).run env c = (.error (.backend reason), c.called c.memory) := by
  rw [leave, Script.run, Cache.attempt_of_fails fails]
  rfl

theorem run_leave_of_endless (works : env.outage c.calls .set = none) {reason : String}
    (fails : env.outage (c.calls + 1) .expire = some reason) :
    let marked := c.memory.set (key session) (text time)
    (leave session time).run env c = (.error (.backend reason), (c.called marked).called marked) := by
  rw [leave, Script.run, Cache.attempt_of_works works]
  dsimp only
  rw [Script.run, Cache.attempt_of_fails fails]
  rfl

variable (env c) in
theorem run_leave_of_works (set : env.outage c.calls .set = none)
    (expire : env.outage (c.calls + 1) .expire = none) :
    let marked := c.memory.set (key session) (text time)
    (leave session time).run env c =
      (.ok (), (c.called marked).called (marked.expire env.now (key session) validity)) := by
  rw [leave, Script.run, Cache.attempt_of_works set]
  dsimp only
  rw [Script.run, Cache.attempt_of_works expire]
  rfl

variable (env c) in
/-- Where there was no marker there is one if it could be set, for as long as it holds if its
deadline could be set too. -/
theorem get_run_leave {later : Instant} (missing : c.memory.get later (key session) = "") :
    ((leave session time).run env c).2.memory.get later (key session) ≠ "" ↔
      env.outage c.calls .set = none ∧
        (env.outage (c.calls + 1) .expire = none → later < env.now + validity.nanos) := by
  cases set : env.outage c.calls .set with
  | some reason =>
    rw [run_leave_of_unset session time set]
    exact iff_of_false (fun found => found missing) (by simp)
  | none =>
    cases expire : env.outage (c.calls + 1) .expire with
    | some reason =>
      have kept : (c.memory.set (key session) (text time)).get later (key session) = text time :=
        Memory.get_put_self { value := text time, deadline := none }
      rw [run_leave_of_endless session time set expire]
      change (c.memory.set (key session) (text time)).get later (key session) ≠ "" ↔ _
      rw [kept]
      exact iff_of_true (text_ne_empty time) (by simp)
    | none =>
      let marker : Entry := { value := text time, deadline := some (env.now + validity.nanos) }
      rw [run_leave_of_works env c session time set expire]
      change ((c.memory.set (key session) (text time)).expire _ _ _).get _ _ ≠ "" ↔ _
      rw [Memory.expire_set, Memory.get_put_self]
      by_cases holds : later < env.now + validity.nanos
      · have fresh : marker.isExpired later = false := decide_eq_false (Nat.not_le_of_gt holds)
        rw [fresh]
        exact iff_of_true (text_ne_empty time) ⟨rfl, fun _ => holds⟩
      · have expired : marker.isExpired later = true := decide_eq_true (Nat.le_of_not_gt holds)
        rw [expired]
        exact iff_of_false (fun found => found rfl) fun both => holds (both.2 rfl)

variable {ε : Type} (ofCache : CacheError → ε) (verify : Except ε Bool)

/-- When the search for the marker fails, nothing is known of the session. -/
theorem run_validate_of_fails {reason : String} (fails : env.outage c.calls .get = some reason) :
    (validate ofCache session time verify).run env c =
      ({ result := .error (ofCache (.backend reason)), verified := false }, c.called c.memory) := by
  rw [validate.eq_def, Script.bind_eq, Script.run_bind, run_find_of_fails session fails]
  rfl

/-- A marker that is found is trusted. -/
theorem run_validate_of_found (works : env.outage c.calls .get = none)
    (found : c.memory.get env.now (key session) ≠ "") :
    (validate ofCache session time verify).run env c =
      ({ result := .ok true, verified := false }, c.called c.memory) := by
  rw [validate.eq_def, Script.bind_eq, Script.run_bind, run_find_of_works session works,
    decide_eq_true found]
  rfl

/-- Without a marker the provider is asked, and all but a yes is passed on as it is. -/
theorem run_validate_of_denied (works : env.outage c.calls .get = none)
    (missing : c.memory.get env.now (key session) = "") (denied : verify ≠ .ok true) :
    (validate ofCache session time verify).run env c =
      ({ result := verify, verified := true }, c.called c.memory) := by
  rw [validate.eq_def, Script.bind_eq, Script.run_bind, run_find_of_works session works,
    decide_eq_false (not_not_intro missing)]
  cases verify with
  | error failure => rfl
  | ok valid =>
    cases valid with
    | false => rfl
    | true => exact absurd rfl denied

/-- A yes is remembered. -/
theorem run_validate_of_confirmed (works : env.outage c.calls .get = none)
    (missing : c.memory.get env.now (key session) = "") :
    (validate ofCache session time (.ok true)).run env c =
      ({ result := (((leave session time).run env (c.called c.memory)).1.mapError ofCache).map
          fun () => true
         verified := true },
        ((leave session time).run env (c.called c.memory)).2) := by
  rw [validate, Script.bind_eq, Script.run_bind, run_find_of_works session works,
    decide_eq_false (not_not_intro missing)]
  simp only [Script.bind_eq, Script.run_bind]
  cases ((leave session time).run env (c.called c.memory)).1 with
  | error failure => rfl
  | ok _ => rfl

end Marker

end AuthGateway
