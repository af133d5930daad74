import AuthGateway.Time.Duration

namespace AuthGateway

namespace Time

/-!
Readings of a steady clock.  They only serve to measure: a deadline is a reading plus a
duration, and it is missing if the clock could never show it.
-/

/-- A reading of the clock, in nanoseconds. -/
abbrev Instant := Nat

/-- The clock counts its seconds in 63 bits. -/
def instantLimit : Nat := (1 <<< 63) * 1000000000

/-- The reading after a duration, if the clock can show it. -/
def after? (now : Instant) (d : Duration) : Option Instant :=
  if now + d.nanos < instantLimit then some (now + d.nanos) else none

variable {now deadline : Instant} {d : Duration}

theorem isSome_after?_iff : (after? now d).isSome = true ↔ now + d.nanos < instantLimit := by
  rw [after?]
  split
  · rename_i shown
    exact iff_of_true rfl shown
  · rename_i unshown
    exact iff_of_false Bool.false_ne_true unshown

theorem after?_eq_none_iff : after? now d = none ↔ instantLimit ≤ now + d.nanos := by
  rw [← Option.not_isSome_iff_eq_none, isSome_after?_iff, Nat.not_lt]

theorem eq_of_after? (shown : after? now d = some deadline) : deadline = now + d.nanos := by
  rw [after?] at shown
  split at shown
  · exact (Option.some.inj shown).symm
  · exact absurd shown (by simp)

end Time

end AuthGateway
