import AuthGateway.Cache.Script
import AuthGateway.Config.Basic

namespace AuthGateway

/-!
The cache that a configuration asks for: one in memory, or one on a server that must be reached
first.
-/

inductive CacheHome where
  | memory (cache : Cache)
  | server (address : String)

/-- The cache of a configuration; `connect` says why a server cannot be reached, if it cannot. -/
def CacheHome.ofConfig (c : CacheConfig) (connect : String → Option String) :
    Except CacheError CacheHome :=
  match c.driver with
  | .memory => .ok (.memory .empty)
  | .redis =>
    match connect c.redisUrl with
    | some reason => .error (.backend reason)
    | none => .ok (.server c.redisUrl)

end AuthGateway
