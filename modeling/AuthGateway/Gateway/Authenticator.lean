import AuthGateway.Gateway.Outbound
import AuthGateway.Provider.Basic
import AuthGateway.Session.Cookie
import AuthGateway.Session.Marker

namespace AuthGateway

/-!
From the cookie of a request to a user whom the provider still knows.

The provider is only asked if the session has no marker.  Whoever cannot be told to be a user is
none: a session that cannot be read, or whose account is gone or disabled, is no session.
-/

open Net (HeaderMap)
open Time (Instant Timestamp)

structure Surroundings where
  /-- The steady clock, and the state of the cache service. -/
  conditions : Conditions
  /-- The calendar. -/
  time : Timestamp
  /-- The clock of the flood limiter. -/
  floodClock : Instant
  /-- The twelve bytes that make the next token unlike all others. -/
  nonce : Text.Bytes
  provider : Provider
  network : OutboundRequest → Exchange

/-- Why a request is not handled further. -/
inductive Failure where
  | error (e : GatewayError)
  /-- Something has crashed. -/
  | crash (message : String)

/-- A result, the calls on the way to it, and the cache after it. -/
structure Authentication where
  result : Except Failure (Option Session)
  calls : List Call
  cache : Cache

structure Authenticator where
  cookie : SessionCookie
  /-- Whether the provider wants the user type in front of the name. -/
  prefixed : Bool
deriving DecidableEq

namespace Authenticator

/-- The name under which the provider knows the owner of a session. -/
def accountOf (a : Authenticator) (info : Session) : String :=
  if a.prefixed then info.userType ++ ":" ++ info.username else info.username

/-- Whether the provider vouches for the session. -/
def verdict : Ending Identity → Except Failure Bool
  | .value _ => .ok true
  | .refused .noSuchUser => .ok false
  | .refused .accountDisabled => .ok false
  | .refused e => .error (.error (.ofAuth e))
  | .crashed message => .error (.crash message)

/-- Whether the session is valid, by its marker or by the provider. -/
def check (a : Authenticator) (env : Surroundings) (cache : Cache) (info : Session) :
    Validation Failure × List Call × Cache :=
  let answer := env.provider.get (a.accountOf info)
  let ofCache e := Failure.error (.ofCache e)
  let (validation, cache) :=
    (Marker.validate ofCache info.id env.time (verdict answer.ending)).run env.conditions cache
  (validation, if validation.verified then answer.calls else [], cache)

/-- The session that the request brings, if it brings one of somebody. -/
def claimed (a : Authenticator) (env : Surroundings) (headers : HeaderMap) : Option Session :=
  match a.cookie.sessionIn env.time.unixSeconds headers with
  | .ok info => if info.isAuthenticated then some info else none
  | .error _ => none

def authenticate (a : Authenticator) (env : Surroundings) (cache : Cache) (headers : HeaderMap) :
    Authentication :=
  match a.claimed env headers with
  | none => { result := .ok none, calls := [], cache }
  | some info =>
    let (validation, calls, cache) := a.check env cache info
    match validation.result with
    | .error failure => { result := .error failure, calls, cache }
    | .ok valid => { result := .ok (if valid then some info else none), calls, cache }

end Authenticator

end AuthGateway
