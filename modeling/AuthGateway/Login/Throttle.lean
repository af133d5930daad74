import AuthGateway.Cache.Script

namespace AuthGateway

/-!
The login throttle: failed logins of an account are counted, and after too many of them further
logins are refused until none has been added for a while.
-/

open Time (Duration)

namespace Throttle

/-- Failed attempts that are tolerated. -/
def maxAttempts : Int := 5

/-- How long an attempt counts after the latest one. -/
def window : Duration :=
  .ofSeconds (10 * 60)

def key (userType account : String) : String :=
  "secure-proxy:user:" ++ userType ++ ":" ++ account ++ ":login-count"

/-- The number that a counter shows; what is no number counts as none. -/
def attemptsIn (value : String) : Int :=
  (Text.int64? value).getD 0

def check (userType account : String) : Script (Except StoreError Unit) :=
  let key := key userType account
  .get key fun
  | .error e => .done (.error (.cache e))
  | .ok value =>
    if value = "" then .done (.ok ())
    else if attemptsIn value ≤ maxAttempts then .done (.ok ())
    else
      .ttl key fun
      | .error e => .done (.error (.cache e))
      | .ok retryAfter => .done (.error (.tooManyAttempts retryAfter))

/-- Counts a failed login and starts the window anew. -/
def record (userType account : String) : Script (Except StoreError Int) :=
  let key := key userType account
  .incr key fun
  | .error e => .done (.error (.cache e))
  | .ok attempts =>
    .expire key window fun
    | .error e => .done (.error (.cache e))
    | .ok () => .done (.ok attempts)

end Throttle

end AuthGateway
