import AuthGateway.Config.Basic
import AuthGateway.Json.Reader

namespace AuthGateway

/-!
The configuration as JSON.  Reading fills in what is left out; writing leaves out the passwords
and nothing else, so that what is read back differs in them alone.
-/

open Json (required? orElse? asText? asBool? asInt? asNat? asList? asOption? asVariant?)

def Privilege.ofJson? : Json → Option Privilege :=
  asVariant? [("internal", .internal), ("private", .restricted)]

def AuthType.ofJson? : Json → Option AuthType :=
  asVariant? AuthType.names

def CacheDriver.ofJson? : Json → Option CacheDriver :=
  asVariant? CacheDriver.names

namespace LocalUser

/-- A field that is not given is blank. -/
def ofJson? (value : Json) : Option LocalUser := do
  let [account, name, password, algo, group, groups, disabled] ←
    value.fields? ["account", "name", "password", "algo", "group", "groups", "disabled"] | none
  return {
    account := ← orElse? "" asText? account
    name := ← orElse? "" asText? name
    password := ← orElse? "" asText? password
    algo := ← orElse? "" asText? algo
    group := ← orElse? "" asText? group
    groups := ← orElse? [] (asList? asText?) groups
    disabled := ← orElse? false asBool? disabled }

/-- All but the password. -/
def toJson (user : LocalUser) : Json :=
  .record [
    ("account", .text user.account),
    ("name", .text user.name),
    ("algo", .text user.algo),
    ("group", .text user.group),
    ("groups", .texts user.groups),
    ("disabled", .bool user.disabled)]

end LocalUser

namespace DirectoryUser

/-- A field that is not given is blank. -/
def ofJson? (value : Json) : Option DirectoryUser := do
  let [account, group, groups] ← value.fields? ["account", "group", "groups"] | none
  return {
    account := ← orElse? "" asText? account
    group := ← orElse? "" asText? group
    groups := ← orElse? [] (asList? asText?) groups }

def toJson (user : DirectoryUser) : Json :=
  .record [
    ("account", .text user.account),
    ("group", .text user.group),
    ("groups", .texts user.groups)]

end DirectoryUser

namespace Users

/-- A list that is not given is empty. -/
def ofJson? (value : Json) : Option Users := do
  let [suffix, locals, directory] ←
    value.fields? ["ignore_account_suffix", "local", "ldap"] | none
  return {
    ignoreAccountSuffix := ← orElse? "" asText? suffix
    locals := ← orElse? [] (asList? LocalUser.ofJson?) locals
    directory := ← orElse? [] (asList? DirectoryUser.ofJson?) directory }

def toJson (users : Users) : Json :=
  .record [
    ("ignore_account_suffix", .text users.ignoreAccountSuffix),
    ("local", .array (users.locals.map LocalUser.toJson)),
    ("ldap", .array (users.directory.map DirectoryUser.toJson))]

end Users

namespace HeaderRule

/-- The key must be given. -/
def ofJson? (value : Json) : Option HeaderRule := do
  let [key, text] ← value.fields? ["key", "value"] | none
  return {
    key := ← required? asText? key
    value := ← orElse? "" asText? text }

def toJson (rule : HeaderRule) : Json :=
  .record [("key", .text rule.key), ("value", .text rule.value)]

end HeaderRule

namespace BackendConfig

/-- Host and address must be given. -/
def ofJson? (value : Json) : Option BackendConfig := do
  let [host, address, privilege, groups, users, headers] ←
    value.fields? ["host", "upstream", "privilege", "groups", "users", "headers"] | none
  return {
    host := ← required? asText? host
    address := ← required? asText? address
    privilege := ← orElse? .internal Privilege.ofJson? privilege
    groups := ← orElse? [] (asList? asText?) groups
    users := ← orElse? [] (asList? asText?) users
    headers := ← orElse? [] (asList? HeaderRule.ofJson?) headers }

def toJson (b : BackendConfig) : Json :=
  .record [
    ("host", .text b.host),
    ("upstream", .text b.address),
    ("privilege", .text b.privilege.text),
    ("groups", .texts b.groups),
    ("users", .texts b.users),
    ("headers", .array (b.headers.map HeaderRule.toJson))]

end BackendConfig

namespace SessionConfig

/-- A field that is not given is standard. -/
def ofJson? (value : Json) : Option SessionConfig := do
  let [hashKey, blockKey, cookieName, cookieDomain, maxAge] ←
    value.fields? ["hash_key", "block_key", "cookie_name", "cookie_domain", "max_age"] | none
  return {
    hashKey := ← orElse? standard.hashKey asText? hashKey
    blockKey := ← orElse? standard.blockKey asText? blockKey
    cookieName := ← orElse? standard.cookieName asText? cookieName
    cookieDomain := ← orElse? standard.cookieDomain (asOption? asText?) cookieDomain
    maxAge := ← orElse? standard.maxAge (asInt? Text.int64Min Text.int64Max) maxAge }

def toJson (s : SessionConfig) : Json :=
  .record [
    ("hash_key", .text s.hashKey),
    ("block_key", .text s.blockKey),
    ("cookie_name", .text s.cookieName),
    ("cookie_domain", .ofOption .text s.cookieDomain),
    ("max_age", .int s.maxAge)]

end SessionConfig

namespace LdapConfig

/-- A field that is not given is standard. -/
def ofJson? (value : Json) : Option LdapConfig := do
  let [url, baseDn, username, password, displayName, uid, userFilter, groupAttribute] ←
    value.fields? ["url", "base_dn", "username", "password", "display_name", "uid",
      "user_filter", "group_attribute"] | none
  return {
    url := ← orElse? standard.url asText? url
    baseDn := ← orElse? standard.baseDn asText? baseDn
    username := ← orElse? standard.username asText? username
    password := ← orElse? standard.password asText? password
    displayName := ← orElse? standard.displayName asText? displayName
    uid := ← orElse? standard.uid asText? uid
    userFilter := ← orElse? standard.userFilter asText? userFilter
    groupAttribute := ← orElse? standard.groupAttribute (asOption? asText?) groupAttribute }

/-- All but the password. -/
def toJson (l : LdapConfig) : Json :=
  .record [
    ("url", .text l.url),
    ("base_dn", .text l.baseDn),
    ("username", .text l.username),
    ("display_name", .text l.displayName),
    ("uid", .text l.uid),
    ("user_filter", .text l.userFilter),
    ("group_attribute", .ofOption .text l.groupAttribute)]

end LdapConfig

namespace CacheConfig

/-- A field that is not given is standard. -/
def ofJson? (value : Json) : Option CacheConfig := do
  let [driver, redisUrl] ← value.fields? ["driver", "redis_url"] | none
  return {
    driver := ← orElse? standard.driver CacheDriver.ofJson? driver
    redisUrl := ← orElse? standard.redisUrl asText? redisUrl }

def toJson (c : CacheConfig) : Json :=
  .record [("driver", .text c.driver.text), ("redis_url", .text c.redisUrl)]

end CacheConfig

namespace Config

def fieldNames : List String :=
  ["verbose", "listen", "auth_type", "client_ip_header", "request_timeout_secs", "assets_dir",
    "login_rate_per_minute", "users", "backends", "session", "ldap", "cache"]

/-- A field that is not given is standard. -/
def ofJson? (value : Json) : Option Config := do
  let [verbose, listen, authType, clientIpHeader, requestTimeoutSecs, assetsDir,
    loginRatePerMinute, users, backends, session, ldap, cache] ←
    value.fields? fieldNames | none
  return {
    verbose := ← orElse? standard.verbose asBool? verbose
    listen := ← orElse? standard.listen asText? listen
    authType := ← orElse? standard.authType AuthType.ofJson? authType
    clientIpHeader := ← orElse? standard.clientIpHeader (asOption? asText?) clientIpHeader
    requestTimeoutSecs := ← orElse? standard.requestTimeoutSecs (asNat? 64) requestTimeoutSecs
    assetsDir := ← orElse? standard.assetsDir asText? assetsDir
    loginRatePerMinute := ← orElse? standard.loginRatePerMinute (asNat? 32) loginRatePerMinute
    users := ← orElse? standard.users Users.ofJson? users
    backends := ← orElse? standard.backends (asList? BackendConfig.ofJson?) backends
    session := ← orElse? standard.session SessionConfig.ofJson? session
    ldap := ← orElse? standard.ldap LdapConfig.ofJson? ldap
    cache := ← orElse? standard.cache CacheConfig.ofJson? cache }

def toJson (c : Config) : Json :=
  .record [
    ("verbose", .bool c.verbose),
    ("listen", .text c.listen),
    ("auth_type", .text c.authType.text),
    ("client_ip_header", .ofOption .text c.clientIpHeader),
    ("request_timeout_secs", .nat c.requestTimeoutSecs),
    ("assets_dir", .text c.assetsDir),
    ("login_rate_per_minute", .nat c.loginRatePerMinute),
    ("users", c.users.toJson),
    ("backends", .array (c.backends.map BackendConfig.toJson)),
    ("session", c.session.toJson),
    ("ldap", c.ldap.toJson),
    ("cache", c.cache.toJson)]

end Config

end AuthGateway
