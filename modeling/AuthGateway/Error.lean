import AuthGateway.Time.Duration

namespace AuthGateway

/-!
What can go wrong, as causes, and the message that each cause gives.

Each part of the gateway has its own errors.  An error that reaches a client is a
`GatewayError`, which knows its status code; the errors of the parts become one by `ofCache`,
`ofAuth`, `ofCookie`, `ofConfig` and `ofStore`.
-/

open Time (Duration)

inductive CacheError where
  /-- The stored value cannot be counted up. -/
  | notANumber (stored : String)
  | backend (reason : String)
deriving DecidableEq, Repr

def CacheError.message : CacheError → String
  | .notANumber stored => "value is not a number: " ++ stored
  | .backend reason => "cache backend error: " ++ reason

inductive AuthError where
  | noSuchUser
  | invalidPassword
  | accountDisabled
  | notImplemented
  | directory (reason : String)
deriving DecidableEq, Repr

def AuthError.message : AuthError → String
  | .noSuchUser => "user not found"
  | .invalidPassword => "invalid password"
  | .accountDisabled => "account is disabled"
  | .notImplemented => "authentication provider not implemented"
  | .directory reason => "directory service error: " ++ reason

inductive CookieError where
  | encoding (reason : String)
  | invalidToken
deriving DecidableEq, Repr

def CookieError.message : CookieError → String
  | .encoding reason => "failed to encode session: " ++ reason
  | .invalidToken => "invalid session token"

/-- Errors of the login throttle and the session markers. -/
inductive StoreError where
  | tooManyAttempts (retryAfter : Duration)
  | cache (error : CacheError)
deriving DecidableEq, Repr

def StoreError.message : StoreError → String
  | .tooManyAttempts retryAfter =>
    "too many login attempts, retry in " ++ toString retryAfter.seconds ++ "s"
  | .cache error => error.message

inductive ConfigError where
  /-- The file cannot be read as text. -/
  | unreadable
  /-- The text is not a document of the expected shape. -/
  | malformed
  | invalid (reason : String)
deriving DecidableEq, Repr

def ConfigError.message : ConfigError → String
  | .unreadable => "cannot read config"
  | .malformed => "invalid config document"
  | .invalid reason => "invalid config: " ++ reason

inductive GatewayError where
  | badRequest (reason : String)
  | forbidden (host name : String)
  | notImplemented (reason : String)
  | badGateway (reason : String)
  | gatewayTimeout (limit : Duration)
  | tooManyRequests (reason : String)
  | internal (reason : String)
deriving DecidableEq, Repr

namespace GatewayError

def status : GatewayError → Nat
  | badRequest _ => 400
  | forbidden _ _ => 403
  | notImplemented _ => 501
  | badGateway _ => 502
  | gatewayTimeout _ => 504
  | tooManyRequests _ => 429
  | internal _ => 500

def message : GatewayError → String
  | badRequest reason => "Bad request: " ++ reason
  | forbidden host name => "User " ++ name ++ " has no access to " ++ host
  | notImplemented reason => "Not implemented: " ++ reason
  | badGateway reason => "Upstream error: " ++ reason
  | gatewayTimeout limit => "Upstream timed out after " ++ limit.text
  | tooManyRequests reason => "Too many requests: " ++ reason
  | internal reason => "Internal error: " ++ reason

/-- A cache error is internal. -/
def ofCache (e : CacheError) : GatewayError :=
  .internal e.message

/-- A provider error that no one has handled is internal. -/
def ofAuth (e : AuthError) : GatewayError :=
  .internal e.message

/-- A cookie that cannot be made is internal. -/
def ofCookie (e : CookieError) : GatewayError :=
  .internal e.message

/-- A configuration that cannot be used is internal. -/
def ofConfig (e : ConfigError) : GatewayError :=
  .internal e.message

/-- Too many attempts are the client's doing, a failing cache is not. -/
def ofStore : StoreError → GatewayError
  | .tooManyAttempts retryAfter => .tooManyRequests (StoreError.tooManyAttempts retryAfter).message
  | .cache e => ofCache e

end GatewayError

end AuthGateway
