import AuthGateway.Config.Source
import AuthGateway.Proofs.Json.Reader

namespace AuthGateway

/-!
# A configuration comes back without its passwords

Every record of a configuration is written under distinct names, with all fields but the passwords.  A
reader finds each field under its name and reads it by its kind, and a password, which is not there, is
empty.  So what is read back of a configuration differs in the passwords alone, and what is written of it
does not depend on them (`Config.reads_back`).

The numbers of a configuration are those of the widths in which they are read.  Whatever a gateway starts
from has such numbers (`Config.inRange_of_load`, `Config.inRange_ofEnvironment`).
-/

open Json (fields?_record_declared orElse? required?)

@[simp]
theorem Privilege.ofJson?_text (privilege : Privilege) :
    ofJson? (.text privilege.text) = some privilege := by
  cases privilege <;> rfl

@[simp]
theorem AuthType.ofJson?_text (authType : AuthType) : ofJson? (.text authType.text) = some authType := by
  cases authType <;> rfl

@[simp]
theorem CacheDriver.ofJson?_text (driver : CacheDriver) : ofJson? (.text driver.text) = some driver := by
  cases driver <;> rfl

/-! ## The parts of a configuration -/

namespace LocalUser

def withoutPassword (user : LocalUser) : LocalUser :=
  { user with password := "" }

theorem ofJson?_toJson (user : LocalUser) : ofJson? user.toJson = some user.withoutPassword := by
  rw [ofJson?, toJson, fields?_record_declared (by simp)]
  simp [List.lookup_cons, orElse?, withoutPassword]

theorem toJson_withoutPassword (user : LocalUser) : user.withoutPassword.toJson = user.toJson :=
  rfl

theorem isPlain_toJson (user : LocalUser) : user.toJson.isPlain = true := by
  rw [toJson, Json.isPlain_record]
  simp

end LocalUser

namespace DirectoryUser

theorem ofJson?_toJson (user : DirectoryUser) : ofJson? user.toJson = some user := by
  rw [ofJson?, toJson, fields?_record_declared (by simp)]
  simp [List.lookup_cons, orElse?]

theorem isPlain_toJson (user : DirectoryUser) : user.toJson.isPlain = true := by
  rw [toJson, Json.isPlain_record]
  simp

end DirectoryUser

namespace Users

def withoutPasswords (users : Users) : Users :=
  { users with locals := users.locals.map LocalUser.withoutPassword }

theorem ofJson?_toJson (users : Users) : ofJson? users.toJson = some users.withoutPasswords := by
  have locals := Json.asList?_map_of LocalUser.ofJson?_toJson users.locals
  have directory := Json.asList?_map DirectoryUser.ofJson?_toJson users.directory
  rw [ofJson?, toJson, fields?_record_declared (by simp)]
  simp [List.lookup_cons, orElse?, locals, directory, withoutPasswords]

theorem toJson_withoutPasswords (users : Users) : users.withoutPasswords.toJson = users.toJson := by
  have same : LocalUser.toJson ∘ LocalUser.withoutPassword = LocalUser.toJson :=
    funext LocalUser.toJson_withoutPassword
  rw [toJson, toJson, withoutPasswords, List.map_map, same]

theorem isPlain_toJson (users : Users) : users.toJson.isPlain = true := by
  have locals := Json.isPlain_array_map LocalUser.isPlain_toJson users.locals
  have directory := Json.isPlain_array_map DirectoryUser.isPlain_toJson users.directory
  rw [toJson, Json.isPlain_record]
  simp [locals, directory]

end Users

namespace HeaderRule

theorem ofJson?_toJson (rule : HeaderRule) : ofJson? rule.toJson = some rule := by
  rw [ofJson?, toJson, fields?_record_declared (by simp)]
  simp [List.lookup_cons, orElse?, required?]

theorem isPlain_toJson (rule : HeaderRule) : rule.toJson.isPlain = true := by
  rw [toJson, Json.isPlain_record]
  simp

end HeaderRule

namespace BackendConfig

theorem ofJson?_toJson (b : BackendConfig) : ofJson? b.toJson = some b := by
  have headers := Json.asList?_map HeaderRule.ofJson?_toJson b.headers
  rw [ofJson?, toJson, fields?_record_declared (by simp)]
  simp [List.lookup_cons, orElse?, required?, headers]

theorem isPlain_toJson (b : BackendConfig) : b.toJson.isPlain = true := by
  have headers := Json.isPlain_array_map HeaderRule.isPlain_toJson b.headers
  rw [toJson, Json.isPlain_record]
  simp [headers]

end BackendConfig

namespace SessionConfig

theorem ofJson?_toJson {s : SessionConfig} (least : Text.int64Min ≤ s.maxAge)
    (greatest : s.maxAge ≤ Text.int64Max) : ofJson? s.toJson = some s := by
  have maxAge := Json.asInt?_int least greatest
  rw [ofJson?, toJson, fields?_record_declared (by simp)]
  simp [List.lookup_cons, orElse?, maxAge]

theorem isPlain_toJson (s : SessionConfig) : s.toJson.isPlain = true := by
  have domain := Json.isPlain_ofOption Json.isPlain_text s.cookieDomain
  rw [toJson, Json.isPlain_record]
  simp [domain]

theorem maxAge_of_ofJson? {value : Json} {s : SessionConfig} (read : ofJson? value = some s) :
    Text.int64Min ≤ s.maxAge ∧ s.maxAge ≤ Text.int64Max := by
  simp only [ofJson?, Option.bind_eq_bind, Option.bind_eq_some_iff] at read
  rcases read with ⟨fields, -, read⟩
  split at read
  · simp only [Option.bind_eq_some_iff] at read
    rcases read with ⟨_, -, _, -, _, -, _, -, maxAge, given, whole⟩
    rw [← Option.some.inj whole]
    exact Json.orElse?_induction (motive := fun n => Text.int64Min ≤ n ∧ n ≤ Text.int64Max)
      (by decide) Json.range_of_asInt? given
  · exact absurd read (by simp)

end SessionConfig

namespace LdapConfig

def withoutPassword (l : LdapConfig) : LdapConfig :=
  { l with password := "" }

theorem ofJson?_toJson (l : LdapConfig) : ofJson? l.toJson = some l.withoutPassword := by
  rw [ofJson?, toJson, fields?_record_declared (by simp)]
  simp [List.lookup_cons, orElse?, standard, withoutPassword]

theorem toJson_withoutPassword (l : LdapConfig) : l.withoutPassword.toJson = l.toJson :=
  rfl

theorem isPlain_toJson (l : LdapConfig) : l.toJson.isPlain = true := by
  have groups := Json.isPlain_ofOption Json.isPlain_text l.groupAttribute
  rw [toJson, Json.isPlain_record]
  simp [groups]

end LdapConfig

namespace CacheConfig

theorem ofJson?_toJson (c : CacheConfig) : ofJson? c.toJson = some c := by
  rw [ofJson?, toJson, fields?_record_declared (by simp)]
  simp [List.lookup_cons, orElse?]

theorem isPlain_toJson (c : CacheConfig) : c.toJson.isPlain = true := by
  rw [toJson, Json.isPlain_record]
  simp

end CacheConfig

namespace Config

/-! ## The whole -/

/-- Each number is one of the width in which it is read. -/
structure InRange (c : Config) : Prop where
  requestTimeoutSecs : c.requestTimeoutSecs < 1 <<< 64
  loginRatePerMinute : c.loginRatePerMinute < 1 <<< 32
  leastMaxAge : Text.int64Min ≤ c.session.maxAge
  greatestMaxAge : c.session.maxAge ≤ Text.int64Max

theorem inRange_of_ofJson? {value : Json} {c : Config} (read : ofJson? value = some c) : c.InRange := by
  simp only [ofJson?, Option.bind_eq_bind, Option.bind_eq_some_iff] at read
  rcases read with ⟨fields, -, read⟩
  split at read
  · simp only [Option.bind_eq_some_iff] at read
    rcases read with ⟨_, -, _, -, _, -, _, -, timeout, timeoutGiven, _, -, rate, rateGiven, _, -, _, -,
      session, sessionGiven, _, -, _, -, whole⟩
    rw [← Option.some.inj whole]
    have maxAge := Json.orElse?_induction
      (motive := fun s : SessionConfig => Text.int64Min ≤ s.maxAge ∧ s.maxAge ≤ Text.int64Max)
      (by decide) SessionConfig.maxAge_of_ofJson? sessionGiven
    exact {
      requestTimeoutSecs :=
        Json.orElse?_induction (motive := (· < 1 <<< 64)) (by decide) Json.lt_of_asNat? timeoutGiven
      loginRatePerMinute :=
        Json.orElse?_induction (motive := (· < 1 <<< 32)) (by decide) Json.lt_of_asNat? rateGiven
      leastMaxAge := maxAge.1
      greatestMaxAge := maxAge.2 }
  · exact absurd read (by simp)

theorem inRange_standard : standard.InRange where
  requestTimeoutSecs := by decide
  loginRatePerMinute := by decide
  leastMaxAge := by decide
  greatestMaxAge := by decide

/-- The environment overrides no number. -/
theorem InRange.override {c : Config} (inRange : c.InRange) (env : Environment) :
    (c.override env).InRange where
  requestTimeoutSecs := inRange.requestTimeoutSecs
  loginRatePerMinute := inRange.loginRatePerMinute
  leastMaxAge := inRange.leastMaxAge
  greatestMaxAge := inRange.greatestMaxAge

theorem inRange_ofEnvironment (env : Environment) : (ofEnvironment env).InRange :=
  inRange_standard.override env

theorem inRange_of_load {file : Option Text.Bytes} {env : Environment} {c : Config}
    (loaded : load file env = .ok c) : c.InRange := by
  unfold load at loaded
  split at loaded
  · exact absurd loaded (by simp)
  · split at loaded
    · exact absurd loaded (by simp)
    · split at loaded
      · exact absurd loaded (by simp)
      · rename_i read
        rcases Option.bind_eq_some_iff.mp read with ⟨value, -, given⟩
        dsimp only at loaded
        split at loaded
        · exact absurd loaded (by simp)
        · exact Except.ok.inj loaded ▸ (inRange_of_ofJson? given).override env

def withoutPasswords (c : Config) : Config :=
  { c with users := c.users.withoutPasswords, ldap := c.ldap.withoutPassword }

theorem ofJson?_toJson {c : Config} (inRange : c.InRange) : ofJson? c.toJson = some c.withoutPasswords := by
  have timeout := Json.asNat?_nat inRange.requestTimeoutSecs
  have rate := Json.asNat?_nat inRange.loginRatePerMinute
  have users := Users.ofJson?_toJson c.users
  have backends := Json.asList?_map BackendConfig.ofJson?_toJson c.backends
  have session := SessionConfig.ofJson?_toJson inRange.leastMaxAge inRange.greatestMaxAge
  have ldap := LdapConfig.ofJson?_toJson c.ldap
  have cache := CacheConfig.ofJson?_toJson c.cache
  rw [ofJson?, toJson, fields?_record_declared (by simp), fieldNames]
  simp [List.lookup_cons, orElse?, timeout, rate, users, backends, session, ldap, cache, withoutPasswords]

theorem toJson_withoutPasswords (c : Config) : c.withoutPasswords.toJson = c.toJson := by
  rw [toJson, toJson, withoutPasswords]
  rw [Users.toJson_withoutPasswords, LdapConfig.toJson_withoutPassword]

theorem isPlain_toJson (c : Config) : c.toJson.isPlain = true := by
  have header := Json.isPlain_ofOption Json.isPlain_text c.clientIpHeader
  have backends := Json.isPlain_array_map BackendConfig.isPlain_toJson c.backends
  rw [toJson, Json.isPlain_record]
  simp [header, backends, c.users.isPlain_toJson, c.session.isPlain_toJson, c.ldap.isPlain_toJson,
    c.cache.isPlain_toJson]

theorem ofJson?_compact {c : Config} (inRange : c.InRange) :
    (Json.parse? (Text.encode c.toJson.compact)).bind ofJson? = some c.withoutPasswords := by
  rw [Json.parse?_encode_compact c.isPlain_toJson, Option.bind_some, ofJson?_toJson inRange]

/-- What is written of a configuration is read back as the configuration without its passwords, as a
value and as a text.  Another one is written as the same text exactly if the two differ in no more than
the passwords. -/
theorem reads_back (c : Config) (inRange : c.InRange) :
    ofJson? c.toJson = some c.withoutPasswords ∧
    (Json.parse? (Text.encode c.toJson.compact)).bind ofJson? = some c.withoutPasswords ∧
    ∀ other : Config, other.InRange →
      (other.toJson.compact = c.toJson.compact ↔ other.withoutPasswords = c.withoutPasswords) := by
  refine ⟨ofJson?_toJson inRange, ofJson?_compact inRange, fun other otherInRange => ?_⟩
  constructor
  · intro same
    have read := ofJson?_compact otherInRange
    rw [same, ofJson?_compact inRange] at read
    exact (Option.some.inj read).symm
  · intro same
    rw [← other.toJson_withoutPasswords, same, toJson_withoutPasswords]

/-- Numbers at the ends of their ranges, and two passwords. -/
def guarded (password bindPassword : String) : Config :=
  { standard with
    requestTimeoutSecs := (1 <<< 64) - 1
    loginRatePerMinute := (1 <<< 32) - 1
    users := { standard.users with
      locals := [{ LocalUser.blank with account := "alice", password, groups := ["ops"] }] }
    session := { standard.session with maxAge := Text.int64Min }
    ldap := { standard.ldap with password := bindPassword, groupAttribute := some "memberOf" } }

theorem reads_back_guarded :
    (guarded "secret" "bind").InRange ∧ (guarded "other" "").InRange ∧
      ofJson? (guarded "secret" "bind").toJson = some (guarded "" "") ∧
      (Json.parse? (Text.encode (guarded "secret" "bind").toJson.compact)).bind ofJson? =
        some (guarded "" "") ∧
      (guarded "other" "").toJson.compact = (guarded "secret" "bind").toJson.compact := by
  have inRange (password bindPassword : String) : (guarded password bindPassword).InRange := {
    requestTimeoutSecs := Nat.sub_lt (by decide) Nat.one_pos
    loginRatePerMinute := Nat.sub_lt (by decide) Nat.one_pos
    leastMaxAge := Int.le_refl _
    greatestMaxAge := (by decide : Text.int64Min ≤ Text.int64Max) }
  rcases reads_back (guarded "secret" "bind") (inRange "secret" "bind") with ⟨value, text, same⟩
  exact ⟨inRange _ _, inRange _ _, value, text, (same _ (inRange "other" "")).mpr rfl⟩

end Config

end AuthGateway
