import AuthGateway.Crypto.Sha256
import AuthGateway.Json.Printer
import AuthGateway.Json.Reader
import AuthGateway.TextSet
import AuthGateway.Time.Rfc3339

namespace AuthGateway

/-!
Identities as a provider finds them, and the session record that a login makes of one.

The record travels inside the session cookie as JSON.  Its `id` names the marker that says that
the session has been checked lately.
-/

open Time (Timestamp)

def TextSet.toJson (set : TextSet) : Json :=
  Json.texts set.toList

def TextSet.ofJson? (value : Json) : Option TextSet :=
  (value.asList? Json.asText?).map TextSet.ofList

structure Identity where
  /-- The kind of provider that knows the user. -/
  userType : String
  uuid : String
  name : String
  account : String
  groups : TextSet
  /-- One for an enabled user, zero for a disabled one. -/
  status : Int
deriving DecidableEq

namespace Identity

def toJson (user : Identity) : Json :=
  .record [
    ("type", .text user.userType),
    ("uuid", .text user.uuid),
    ("name", .text user.name),
    ("account", .text user.account),
    ("groups", user.groups.toJson),
    ("status", .int user.status)]

/-- Every field must be given. -/
def ofJson? (value : Json) : Option Identity := do
  let [userType, uuid, name, account, groups, status] ←
    value.fields? ["type", "uuid", "name", "account", "groups", "status"] | none
  return {
    userType := ← Json.required? Json.asText? userType
    uuid := ← Json.required? Json.asText? uuid
    name := ← Json.required? Json.asText? name
    account := ← Json.required? Json.asText? account
    groups := ← Json.required? TextSet.ofJson? groups
    status := ← Json.required? (Json.asInt? (-128) 127) status }

end Identity

/-- What a session cookie says about its owner. -/
structure Session where
  userType : String
  /-- The name that was typed at the login. -/
  username : String
  account : String
  uuid : String
  name : String
  groups : TextSet
  loginHost : String
  createdAt : Timestamp
deriving DecidableEq

namespace Session

/-- The record of nobody. -/
def empty : Session where
  userType := ""
  username := ""
  account := ""
  uuid := ""
  name := ""
  groups := .empty
  loginHost := ""
  createdAt := .epoch

/-- The record of a user who has just logged in. -/
def ofIdentity (user : Identity) (username loginHost : String) (now : Timestamp) : Session where
  userType := user.userType
  username := username
  account := user.account
  uuid := user.uuid
  name := user.name
  groups := user.groups
  loginHost := loginHost
  createdAt := now

/-- Only a record with an account belongs to somebody. -/
def isAuthenticated (s : Session) : Bool :=
  s.account ≠ ""

def createdText (s : Session) : String :=
  Time.Rfc3339.format .shortest .letter s.createdAt

/-- The parts that tell sessions apart: the identity and the instant of its login. -/
def idParts (s : Session) : List String :=
  [s.userType, s.account, s.uuid, Time.Rfc3339.format .nine .letter s.createdAt]

/-- The bytes that are digested into the id, each part closed by a zero byte. -/
def idBytes (s : Session) : Text.Bytes :=
  s.idParts.flatMap fun part => Text.encode part ++ [0]

def id (s : Session) : String :=
  Text.hex (Crypto.Sha256.digest s.idBytes)

def fieldNames : List String :=
  ["user_type", "username", "account", "uuid", "name", "groups", "login_host", "created_at"]

def toJson (s : Session) : Json :=
  .record [
    ("user_type", .text s.userType),
    ("username", .text s.username),
    ("account", .text s.account),
    ("uuid", .text s.uuid),
    ("name", .text s.name),
    ("groups", s.groups.toJson),
    ("login_host", .text s.loginHost),
    ("created_at", .text s.createdText)]

def instant? (value : Json) : Option Timestamp :=
  value.asText?.bind Time.Rfc3339.parse?

/-- A field that is not given is empty. -/
def ofJson? (value : Json) : Option Session := do
  let [userType, username, account, uuid, name, groups, loginHost, createdAt] ←
    value.fields? fieldNames | none
  return {
    userType := ← Json.orElse? "" Json.asText? userType
    username := ← Json.orElse? "" Json.asText? username
    account := ← Json.orElse? "" Json.asText? account
    uuid := ← Json.orElse? "" Json.asText? uuid
    name := ← Json.orElse? "" Json.asText? name
    groups := ← Json.orElse? .empty TextSet.ofJson? groups
    loginHost := ← Json.orElse? "" Json.asText? loginHost
    createdAt := ← Json.orElse? .epoch instant? createdAt }

end Session

end AuthGateway
