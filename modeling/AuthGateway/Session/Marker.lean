import AuthGateway.Cache.Script
import AuthGateway.Time.Rfc3339

namespace AuthGateway

/-!
Markers of sessions that have been checked with their provider lately.  A session with a marker
is trusted without asking again.
-/

open Time (Duration Timestamp)

namespace Marker

/-- How long a session is trusted after a check. -/
def validity : Duration :=
  .ofSeconds (6 * 60 * 60)

def key (session : String) : String :=
  "secure-proxy:session:" ++ session

/-- The stored text: the instant of the check. -/
def text (time : Timestamp) : String :=
  Time.Rfc3339.format .shortest .numeric time

def find (session : String) : Script (Except CacheError Bool) :=
  .get (key session) fun answer => .done (answer.map (· ≠ ""))

def leave (session : String) (time : Timestamp) : Script (Except CacheError Unit) :=
  .set (key session) (text time) fun
  | .error e => .done (.error e)
  | .ok () => .expire (key session) validity .done

end Marker

/-- How the check of a session ended, and whether its provider was asked. -/
structure Validation (ε : Type) where
  result : Except ε Bool
  verified : Bool

namespace Marker

/--
Whether the session is valid.  Without a marker `verify` is the answer of the provider; it is
remembered if it is yes, and passed on whatever it is.
-/
def validate {ε : Type} (ofCache : CacheError → ε) (session : String) (time : Timestamp)
    (verify : Except ε Bool) : Script (Validation ε) := do
  match ← find session with
  | .error e => return { result := .error (ofCache e), verified := false }
  | .ok true => return { result := .ok true, verified := false }
  | .ok false =>
    match verify with
    | .error e => return { result := .error e, verified := true }
    | .ok false => return { result := .ok false, verified := true }
    | .ok true =>
      match ← leave session time with
      | .error e => return { result := .error (ofCache e), verified := true }
      | .ok () => return { result := .ok true, verified := true }

end Marker

end AuthGateway
