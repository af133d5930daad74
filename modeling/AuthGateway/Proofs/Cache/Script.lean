import AuthGateway.Cache.Script
import AuthGateway.Proofs.Cache.Memory

namespace AuthGateway

/-!
# What a script leaves alone

A script that writes under other keys only leaves what is seen under this one, whichever of its
calls fail, and one that only reads leaves the whole memory.  Without failures an operation of a script
answers and acts as the memory does.
-/

open Time (Duration Instant)

/-- No call fails. -/
def Conditions.Calm (env : Conditions) : Prop :=
  ∀ call operation, env.outage call operation = none

namespace Cache

variable {α : Type} {c : Cache} {env : Conditions} {operation : Operation}
  {effect : Except CacheError α × Memory}

theorem attempt_of_works (works : env.outage c.calls operation = none) :
    c.attempt env operation effect = (effect.1, c.called effect.2) := by
  rw [attempt, failure?, works]
  rfl

/-- A call that fails changes nothing but the count of calls. -/
theorem attempt_of_fails {reason : String} (fails : env.outage c.calls operation = some reason) :
    c.attempt env operation effect = (.error (.backend reason), c.called c.memory) := by
  rw [attempt, failure?, fails]
  rfl

theorem attempt_of_calm (calm : env.Calm) :
    c.attempt env operation effect = (effect.1, c.called effect.2) :=
  attempt_of_works (calm c.calls operation)

/-- A call acts or fails. -/
theorem memory_attempt (c : Cache) (env : Conditions) (operation : Operation)
    (effect : Except CacheError α × Memory) :
    (c.attempt env operation effect).2.memory = c.memory ∨
      (c.attempt env operation effect).2.memory = effect.2 := by
  rw [attempt]
  split
  · exact Or.inl rfl
  · exact Or.inr rfl

end Cache

namespace Script

variable {α β : Type}

/-- The script never writes under the key. -/
def Avoids (key : String) : Script α → Prop
  | done _ => True
  | get _ next => ∀ answer, (next answer).Avoids key
  | set other _ next => key ≠ other ∧ ∀ answer, (next answer).Avoids key
  | expire other _ next => key ≠ other ∧ ∀ answer, (next answer).Avoids key
  | ttl _ next => ∀ answer, (next answer).Avoids key
  | incr other next => key ≠ other ∧ ∀ answer, (next answer).Avoids key

theorem Avoids.bind {key : String} {script : Script α} (first : script.Avoids key)
    {next : α → Script β} (second : ∀ result, (next result).Avoids key) :
    (script.bind next).Avoids key := by
  induction script with
  | done result => exact second result
  | get _ _ inductionHypothesis => exact fun answer => inductionHypothesis answer (first answer)
  | set _ _ _ inductionHypothesis =>
    exact ⟨first.1, fun answer => inductionHypothesis answer (first.2 answer)⟩
  | expire _ _ _ inductionHypothesis =>
    exact ⟨first.1, fun answer => inductionHypothesis answer (first.2 answer)⟩
  | ttl _ _ inductionHypothesis => exact fun answer => inductionHypothesis answer (first answer)
  | incr _ _ inductionHypothesis =>
    exact ⟨first.1, fun answer => inductionHypothesis answer (first.2 answer)⟩

/-- Nothing changes under a key that is avoided, at this instant or at another. -/
theorem live?_run_of_avoids {key : String} {script : Script α} (avoids : script.Avoids key)
    (env : Conditions) (c : Cache) (now : Instant) :
    (script.run env c).2.memory.live? now key = c.memory.live? now key := by
  have kept : ∀ {γ : Type} {c : Cache} {operation : Operation} {effect : Except CacheError γ × Memory},
      effect.2.live? now key = c.memory.live? now key →
      (c.attempt env operation effect).2.memory.live? now key = c.memory.live? now key := by
    intro γ c operation effect same
    rcases c.memory_attempt env operation effect with failed | acted
    · rw [failed]
    · rw [acted, same]
  induction script generalizing c with
  | done result => rfl
  | get _ _ inductionHypothesis =>
    exact (inductionHypothesis _ (avoids _) _).trans (kept rfl)
  | set other value _ inductionHypothesis =>
    exact (inductionHypothesis _ (avoids.2 _) _).trans (kept (Memory.live?_set_of_ne avoids.1 value))
  | expire other span _ inductionHypothesis =>
    exact (inductionHypothesis _ (avoids.2 _) _).trans
      (kept (Memory.live?_expire_of_ne avoids.1 span))
  | ttl _ _ inductionHypothesis =>
    exact (inductionHypothesis _ (avoids _) _).trans (kept rfl)
  | incr other _ inductionHypothesis =>
    exact (inductionHypothesis _ (avoids.2 _) _).trans (kept (Memory.live?_incr_of_ne avoids.1))

/-- The script never writes. -/
def ReadsOnly : Script α → Prop
  | done _ => True
  | get _ next => ∀ answer, (next answer).ReadsOnly
  | ttl _ next => ∀ answer, (next answer).ReadsOnly
  | set _ _ _ | expire _ _ _ | incr _ _ => False

theorem ReadsOnly.avoids {script : Script α} (reads : script.ReadsOnly) (key : String) :
    script.Avoids key := by
  induction script with
  | done result => trivial
  | get _ _ inductionHypothesis => exact fun answer => inductionHypothesis answer (reads answer)
  | ttl _ _ inductionHypothesis => exact fun answer => inductionHypothesis answer (reads answer)
  | set _ _ _ _ => exact reads.elim
  | expire _ _ _ _ => exact reads.elim
  | incr _ _ _ => exact reads.elim

theorem ReadsOnly.memory_run {script : Script α} (reads : script.ReadsOnly) (env : Conditions)
    (c : Cache) : (script.run env c).2.memory = c.memory := by
  have kept : ∀ {γ : Type} {c : Cache} {operation : Operation} {answer : Except CacheError γ},
      (c.attempt env operation (answer, c.memory)).2.memory = c.memory := by
    intro γ c operation answer
    rcases c.memory_attempt env operation (answer, c.memory) with failed | acted
    · exact failed
    · exact acted
  induction script generalizing c with
  | done result => rfl
  | get _ _ inductionHypothesis => exact (inductionHypothesis _ (reads _) _).trans kept
  | ttl _ _ inductionHypothesis => exact (inductionHypothesis _ (reads _) _).trans kept
  | set _ _ _ _ => exact reads.elim
  | expire _ _ _ _ => exact reads.elim
  | incr _ _ _ => exact reads.elim

theorem bind_eq (script : Script α) (next : α → Script β) : script >>= next = script.bind next :=
  rfl

/-- Two scripts in a row are run one after the other. -/
theorem run_bind (script : Script α) (next : α → Script β) (env : Conditions) (c : Cache) :
    (script.bind next).run env c = (next (script.run env c).1).run env (script.run env c).2 := by
  induction script generalizing c with
  | done result => rfl
  | get _ _ inductionHypothesis => exact inductionHypothesis _ _
  | set _ _ _ inductionHypothesis => exact inductionHypothesis _ _
  | expire _ _ _ inductionHypothesis => exact inductionHypothesis _ _
  | ttl _ _ inductionHypothesis => exact inductionHypothesis _ _
  | incr _ _ inductionHypothesis => exact inductionHypothesis _ _

section

variable {env : Conditions} {c : Cache} {key : String}

theorem run_expire (calm : env.Calm) (span : Duration) (next : Except CacheError Unit → Script α) :
    (expire key span next).run env c =
      (next (.ok ())).run env (c.called (c.memory.expire env.now key span)) := by
  rw [run, Cache.attempt_of_calm calm]

theorem run_incr (calm : env.Calm) (next : Except CacheError Int → Script α) :
    (incr key next).run env c =
      (next (c.memory.incr env.now key).1).run env (c.called (c.memory.incr env.now key).2) := by
  rw [run, Cache.attempt_of_calm calm]

end

end Script

end AuthGateway
