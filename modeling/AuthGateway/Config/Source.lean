import AuthGateway.Config.Format
import AuthGateway.Config.Validation
import AuthGateway.Json.Parser

namespace AuthGateway

namespace Config

/-!
Where a configuration comes from: a file, and variables of the environment that override some of
its fields.  A variable that cannot be used is ignored.
-/

/-- The value of an environment variable, if it is set. -/
abbrev Environment := String → Option String

/-- An empty text says that there is nothing. -/
def nonEmpty (s : String) : Option String :=
  if s = "" then none else some s

def isYes (s : String) : Bool :=
  ["1", "true", "yes"].contains (Text.lower s)

/-- The configuration with the fields that the environment overrides. -/
def override (env : Environment) (c : Config) : Config :=
  let text (name fallback : String) := (env name).getD fallback
  let optional (name : String) (fallback : Option String) :=
    match env name with
    | some value => nonEmpty value
    | none => fallback
  { c with
    listen := text "SECURE_PROXY_LISTEN" c.listen
    authType := match (env "SECURE_PROXY_AUTH_TYPE").map AuthType.parse with
      | some (.ok authType) => authType
      | _ => c.authType
    clientIpHeader := optional "SECURE_PROXY_CLIENT_IP_HEADER" c.clientIpHeader
    verbose := ((env "SECURE_PROXY_VERBOSE").map isYes).getD c.verbose
    session := { c.session with
      hashKey := text "SECURE_PROXY_HASH_KEY" c.session.hashKey
      blockKey := text "SECURE_PROXY_BLOCK_KEY" c.session.blockKey
      cookieDomain := optional "SECURE_PROXY_COOKIE_DOMAIN" c.session.cookieDomain }
    cache := {
      driver := match (env "SECURE_PROXY_CACHE_DRIVER").map CacheDriver.parse with
        | some (.ok driver) => driver
        | _ => c.cache.driver
      redisUrl := text "SECURE_PROXY_REDIS_URL" c.cache.redisUrl } }

/-- The configuration without a file. -/
def ofEnvironment (env : Environment) : Config :=
  standard.override env

/-- The configuration in the bytes of a file, or in none. -/
def load (file : Option Text.Bytes) (env : Environment) : Except ConfigError Config :=
  match file with
  | none => .error .unreadable
  | some bytes =>
    match Text.decode? bytes with
    | none => .error .unreadable
    | some _ =>
      match (Json.parse? bytes).bind ofJson? with
      | none => .error .malformed
      | some c =>
        let c := c.override env
        match c.validate with
        | .error e => .error e
        | .ok () => .ok c

end Config

end AuthGateway
