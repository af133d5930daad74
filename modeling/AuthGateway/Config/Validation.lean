import AuthGateway.Config.Basic
import AuthGateway.Net.Url.Parser
import AuthGateway.Text.Base64

namespace AuthGateway

/-!
What a configuration must satisfy, and what is made of its texts once it does: keys, header
names, and the table of backends.  The first check that fails gives the error.
-/

open Net (HeaderName HeaderValue Url)
open Text (Bytes)

/-- The bytes of a key, which is written in base64. -/
def decodeKey (field text : String) : Except ConfigError Bytes :=
  if text = "" then .error (.invalid (field ++ " is required"))
  else
    match Text.Base64.decode? Text.Base64.standard (Text.trim text) with
    | some key => .ok key
    | none => .error (.invalid (field ++ " must be a base64 encoded string"))

/-- The scheme and the rest of an address; without a scheme plain HTTP is meant. -/
def splitScheme (address : String) : Net.Scheme × String :=
  let starts (scheme : String) := scheme.toList.isPrefixOf address.toList
  let after (scheme : String) := String.ofList (address.toList.drop scheme.toList.length)
  if starts "http://" then (.http, after "http:")
  else if starts "https://" then (.https, after "https:")
  else (.http, "//" ++ address)

def normalizeAddress (address : String) : String :=
  let (scheme, rest) := splitScheme address
  scheme.text ++ ":" ++ rest

def parseAddress (address : String) : Except Url.ParseError Url :=
  let (scheme, rest) := splitScheme address
  Url.parse scheme rest

namespace BackendConfig

/-- A rule with its texts checked; an empty value removes the header. -/
def edit (b : BackendConfig) (rule : HeaderRule) : Except ConfigError HeaderEdit :=
  match HeaderName.parse? rule.key with
  | none => .error (.invalid ("invalid header name " ++ rule.key ++ " for " ++ b.host))
  | some name =>
    if rule.value = "" then .ok { name, value := none }
    else
      match HeaderValue.ofText? rule.value with
      | some value => .ok { name, value := some value }
      | none => .error (.invalid ("invalid header value for " ++ rule.key ++ " on " ++ b.host))

def toBackend (b : BackendConfig) : Except ConfigError Backend :=
  if b.host = "" ∨ b.address = "" then
    .error (.invalid ("host and upstream are required for " ++ b.host ++ ":" ++ b.address))
  else
    match parseAddress b.address with
    | .error e => .error (.invalid ("invalid upstream for " ++ b.host ++ ": " ++ e.message))
    | .ok address =>
      match b.headers.mapM b.edit with
      | .error e => .error e
      | .ok edits =>
        .ok {
          host := b.host
          address
          privilege := b.privilege
          groups := .ofList b.groups
          users := .ofList b.users
          edits }

end BackendConfig

namespace Config

/-- The key that signs cookies: at least 32 bytes. -/
def hashKey (c : Config) : Except ConfigError Bytes :=
  match decodeKey "session.hash_key" c.session.hashKey with
  | .error e => .error e
  | .ok key =>
    if key.length < 32 then
      .error (.invalid "session.hash_key must decode to at least 32 bytes")
    else .ok key

/-- The key that hides the content of cookies: 32 bytes. -/
def blockKey (c : Config) : Except ConfigError Bytes :=
  match decodeKey "session.block_key" c.session.blockKey with
  | .error e => .error e
  | .ok key =>
    if key.length = 32 then .ok key
    else .error (.invalid "session.block_key must decode to exactly 32 bytes")

/-- The name of the header that carries the address of the client. -/
def clientIpHeaderName (c : Config) : Option HeaderName :=
  c.clientIpHeader.bind HeaderName.parse?

/-- The backends that follow those before, which come first. -/
def addBackends (before : List Backend) : List BackendConfig → Except ConfigError (List Backend)
  | [] => .ok before
  | b :: rest =>
    match b.toBackend with
    | .error e => .error e
    | .ok backend =>
      if before.any (·.host = backend.host) then
        .error (.invalid ("duplicate backend host " ++ backend.host))
      else addBackends (before ++ [backend]) rest

def backendTable (c : Config) : Except ConfigError BackendTable :=
  (addBackends [] c.backends).map BackendTable.mk

def validate (c : Config) : Except ConfigError Unit :=
  match c.hashKey with
  | .error e => .error e
  | .ok _ =>
    match c.blockKey with
    | .error e => .error e
    | .ok _ =>
      if c.session.maxAge < 0 then .error (.invalid "session.max_age must not be negative")
      else
        match c.clientIpHeader with
        | some header =>
          match HeaderName.parse? header with
          | some _ => c.backendTable.map fun _ => ()
          | none => .error (.invalid ("invalid client_ip_header " ++ header))
        | none => c.backendTable.map fun _ => ()

end Config

end AuthGateway
