import AuthGateway.Backend
import AuthGateway.Error
import AuthGateway.Text.Lowercase

namespace AuthGateway

/-!
The configuration of the gateway as it is written, with the value that each field has when it is
left out.
-/

inductive AuthType where
  | localUsers
  | ldap
  | database
  /-- Both of the first two. -/
  | composite
deriving DecidableEq, Repr

namespace AuthType

def text : AuthType → String
  | .localUsers => "local"
  | .ldap => "ldap"
  | .database => "database"
  | .composite => "composite"

def names : List (String × AuthType) :=
  [("local", .localUsers), ("ldap", .ldap), ("database", .database), ("composite", .composite),
    ("misc", .composite), ("ldap+local", .composite)]

/-- The type that a text names in any case. -/
def parse (s : String) : Except ConfigError AuthType :=
  let name := Text.lower s
  match names.lookup name with
  | some authType => .ok authType
  | none =>
    .error (.invalid ("invalid auth_type " ++ name
      ++ ": must be one of local|ldap|database|composite"))

/-- The user type of every login, unless the login form asks for it. -/
def fixedUserType? : AuthType → Option String
  | .localUsers => some "local"
  | .ldap => some "ldap"
  | .database => some "database"
  | .composite => none

end AuthType

inductive CacheDriver where
  | memory
  | redis
deriving DecidableEq, Repr

namespace CacheDriver

def text : CacheDriver → String
  | .memory => "memory"
  | .redis => "redis"

def names : List (String × CacheDriver) :=
  [("memory", .memory), ("redis", .redis)]

/-- The driver that a text names in any case. -/
def parse (s : String) : Except ConfigError CacheDriver :=
  let name := Text.lower s
  match names.lookup name with
  | some driver => .ok driver
  | none => .error (.invalid ("invalid cache driver " ++ name ++ ": must be memory|redis"))

end CacheDriver

/-- The one group and the several groups of a user, without empty names. -/
def mergeGroups (group : String) (groups : List String) : TextSet :=
  .ofList ((groups ++ [group]).filter (· ≠ ""))

structure LocalUser where
  account : String
  name : String
  password : String
  /-- How the password is stored. -/
  algo : String
  group : String
  groups : List String
  disabled : Bool
deriving DecidableEq

namespace LocalUser

/-- A user of whom nothing is said. -/
def blank : LocalUser where
  account := ""
  name := ""
  password := ""
  algo := ""
  group := ""
  groups := []
  disabled := false

def userGroups (user : LocalUser) : TextSet :=
  mergeGroups user.group user.groups

end LocalUser

/-- What is added to a user of the directory. -/
structure DirectoryUser where
  account : String
  group : String
  groups : List String
deriving DecidableEq

def DirectoryUser.userGroups (user : DirectoryUser) : TextSet :=
  mergeGroups user.group user.groups

structure Users where
  /-- An ending that is taken off a typed name. -/
  ignoreAccountSuffix : String
  locals : List LocalUser
  directory : List DirectoryUser
deriving DecidableEq

/-- A rule for a header: an empty value removes it. -/
structure HeaderRule where
  key : String
  value : String
deriving DecidableEq

structure BackendConfig where
  host : String
  /-- Where the service is. -/
  address : String
  privilege : Privilege
  groups : List String
  users : List String
  headers : List HeaderRule
deriving DecidableEq

structure SessionConfig where
  hashKey : String
  blockKey : String
  cookieName : String
  cookieDomain : Option String
  /-- Seconds that a session lasts; zero for as long as the browser keeps it. -/
  maxAge : Int
deriving DecidableEq

/-- A session cookie without keys. -/
def SessionConfig.standard : SessionConfig where
  hashKey := ""
  blockKey := ""
  cookieName := "secure-proxy-auth"
  cookieDomain := none
  maxAge := 86400

structure LdapConfig where
  url : String
  baseDn : String
  username : String
  password : String
  /-- The attribute with the name to show. -/
  displayName : String
  /-- The attribute with the account. -/
  uid : String
  /-- The filter that every user passes. -/
  userFilter : String
  /-- The attribute that lists the groups of a user, if one does. -/
  groupAttribute : Option String
deriving DecidableEq

/-- A directory that has not been named. -/
def LdapConfig.standard : LdapConfig where
  url := ""
  baseDn := ""
  username := ""
  password := ""
  displayName := "displayName"
  uid := "sAMAccountName"
  userFilter := "(objectClass=person)"
  groupAttribute := none

structure CacheConfig where
  driver : CacheDriver
  redisUrl : String
deriving DecidableEq

def CacheConfig.standard : CacheConfig where
  driver := .memory
  redisUrl := "redis://127.0.0.1:6379"

structure Config where
  verbose : Bool
  listen : String
  authType : AuthType
  /-- The header that carries the address of the client, if one does. -/
  clientIpHeader : Option String
  requestTimeoutSecs : Nat
  assetsDir : String
  loginRatePerMinute : Nat
  users : Users
  backends : List BackendConfig
  session : SessionConfig
  ldap : LdapConfig
  cache : CacheConfig
deriving DecidableEq

/-- The configuration that says nothing. -/
def Config.standard : Config where
  verbose := false
  listen := "0.0.0.0:8080"
  authType := .localUsers
  clientIpHeader := none
  requestTimeoutSecs := 60
  assetsDir := "assets"
  loginRatePerMinute := 60
  users := { ignoreAccountSuffix := "", locals := [], directory := [] }
  backends := []
  session := .standard
  ldap := .standard
  cache := .standard

/-- The longest that a request to a backend may take. -/
def Config.requestTimeout (c : Config) : Time.Duration :=
  .ofSeconds c.requestTimeoutSecs

end AuthGateway
