import AuthGateway.Time.Instant

namespace AuthGateway

/-!
The flood limiter of the login form, which caps the logins of all users together.

Logins are thought of as evenly spaced.  Each one that passes moves the planned instant of the
next one by one space, and one that comes a whole minute's worth of spaces too early is refused.
-/

open Time (Instant)

/-- The planned instant of the next login, once there has been one. -/
structure Flood where
  planned : Option Instant
deriving DecidableEq, Repr

namespace Flood

def start : Flood where
  planned := none

/-- The number of logins in a minute; there is always one. -/
def burst (perMinute : Nat) : Nat :=
  max perMinute 1

/-- The time between two logins, in nanoseconds. -/
def space (perMinute : Nat) : Nat :=
  60000000000 / burst perMinute

/-- Whether a login passes now, and what is planned after it. -/
def check (f : Flood) (perMinute : Nat) (now : Instant) : Bool × Flood :=
  let planned := f.planned.getD (now + space perMinute)
  if now < planned - burst perMinute * space perMinute then (false, f)
  else (true, { planned := some (max planned now + space perMinute) })

/-- So many checks at one instant. -/
def checks (perMinute : Nat) (now : Instant) : Nat → Flood → List Bool
  | 0, _ => []
  | count + 1, f =>
    let (passed, f) := f.check perMinute now
    passed :: checks perMinute now count f

end Flood

end AuthGateway
