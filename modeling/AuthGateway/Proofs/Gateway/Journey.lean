import AuthGateway.Proofs.Config.Privilege
import AuthGateway.Proofs.Gateway.Dispatch
import AuthGateway.Proofs.Gateway.Login
import AuthGateway.Proofs.Gateway.Name
import AuthGateway.Proofs.Gateway.Outbound
import AuthGateway.Proofs.Gateway.Traffic
import AuthGateway.Proofs.Provider.Local
import AuthGateway.Proofs.Session.Issue
import AuthGateway.Proofs.Text.Form
import AuthGateway.Proofs.Time.Timestamp

namespace AuthGateway

/-!
# From the login form to a backend

A listed user types an account and a password, perhaps with blanks around them, and sends the form.
The gateway answers with one cookie.  As long as that is not too old, every request that brings its
pair back is for the user: it is sent to the backend of its host under the account of the user, or is
refused there if the backend is not open to the user (`Gateway.login_then_browse`).

Each part of the way reads what the part before it has written.  The form is decoded to the account
and the password, the provider finds their user, the cookie holds the session of the user, the session
comes back from the pair, and the provider still knows its account.
-/

open Net (HeaderValue Request Response)

/-- A backend is open to everybody, or to the account or a group of the user. -/
def Backend.Admits (b : Backend) (user : LocalUser) : Prop :=
  b.privilege = .internal ∨ user.account ∈ b.users ∨
    ∃ group ∈ user.group :: user.groups, group ≠ "" ∧ group ∈ b.groups

namespace LocalUser

/-- The user can log in with the password, under an account that a header can carry. -/
structure LogsIn (user : LocalUser) (users : Users) (password : String) : Prop where
  first : users.locals.find? (·.account = user.account) = some user
  enabled : user.disabled = false
  stores : user.Stores password
  account_ne : user.account ≠ ""
  account_trim : Text.trim user.account = user.account
  password_ne : password ≠ ""
  password_trim : Text.trim password = password
  /-- The ending that is taken off typed names is not that of the account. -/
  whole : users.ignoreAccountSuffix = "" ∨
    ¬ users.ignoreAccountSuffix.toList <:+ user.account.toList
  sendable : (HeaderValue.ofText? user.account).isSome = true

/-- Blanks are taken off the typed account, and nothing else. -/
theorem LogsIn.normalName_eq {user : LocalUser} {users : Users} {password : String}
    (logsIn : user.LogsIn users password) {typed : String} (padded : Text.Padded user.account typed) :
    Gateway.normalName users.ignoreAccountSuffix typed = user.account := by
  have trimmed : Text.trim typed = user.account := padded.trim_eq.trans logsIn.account_trim
  rw [← trimmed]
  refine Gateway.normalName_of_kept (logsIn.whole.imp_right fun whole front ends => whole ?_)
  rw [← trimmed, ends, String.toList_append]
  exact List.suffix_append _ _

/-- The session of the user who has just logged in. -/
def session (user : LocalUser) (host : String) (time : Time.Timestamp) : Session :=
  Session.ofIdentity user.identity user.account host time

theorem mem_userGroups {user : LocalUser} {group : String} :
    group ∈ user.userGroups ↔ group ∈ user.group :: user.groups ∧ group ≠ "" := by
  rw [userGroups, mergeGroups, TextSet.mem_ofList, List.mem_filter, List.mem_append,
    List.mem_singleton, List.mem_cons, decide_eq_true_eq, or_comm]

/-- The session is privileged just where the user is admitted. -/
theorem hasPrivilege_session (user : LocalUser) (host : String) (time : Time.Timestamp) (b : Backend) :
    b.hasPrivilege (user.session host time) = true ↔ b.Admits user := by
  have grouped : (∃ group ∈ user.userGroups, group ≠ "" ∧ group ∈ b.groups) ↔
      ∃ group ∈ user.group :: user.groups, group ≠ "" ∧ group ∈ b.groups := by
    simp only [mem_userGroups, and_assoc, and_self_left]
  exact Backend.hasPrivilege_iff.trans (or_congr Iff.rfl (or_congr Iff.rfl grouped))

end LocalUser

/-- The users are those that the configuration lists, and its cookie can be set. -/
structure Config.ServesListed (c : Config) : Prop where
  valid : c.validate = .ok ()
  authType : c.authType = .localUsers
  cookieName : c.session.cookieName.toList.all Net.isTokenChar = true
  cookieDomain : ∀ domain, c.session.cookieDomain = some domain →
    (HeaderValue.ofText? domain).isSome = true

/-- The cache works, and the provider is that of the configuration. -/
structure Config.Surrounds (c : Config) (env : Surroundings) : Prop where
  calm : env.conditions.Calm
  provider : ∃ service, Provider.ofConfig c service = .ok env.provider
  nonce : env.nonce.length = Crypto.Gcm.nonceLength

/-- Then the provider is that of the listed users. -/
theorem Config.ServesListed.provider_eq {c : Config} (serves : c.ServesListed) {env : Surroundings}
    (around : c.Surrounds env) : env.provider = .localUsers .standard c.users.locals := by
  rcases around.provider with ⟨service, asked⟩
  simp only [Provider.ofConfig, serves.authType] at asked
  exact (Except.ok.inj asked).symm

/-- The fields of a login form, of which none is given twice. -/
structure LoginForm.Fills (fields : List (String × String)) (account password : String) : Prop where
  single : ((fields.map (·.1)).filter fieldNames.contains).Nodup
  account : ∃ typed, fields.lookup "username" = some typed ∧ Text.Padded account typed
  password : ∃ typed, fields.lookup "password" = some typed ∧ Text.Padded password typed

/-- The request sends a login form with the account and the password. -/
structure LoginForm.Sends (request : Request) (account password : String) : Prop where
  path : Route.ofPath request.uri.path = .loginForm
  method : request.method = "POST"
  typed : isForm request.headers = true
  complete : request.bodyFault = none
  written : ∃ fields, Text.Form.Writes request.body.data.toList fields ∧ Fills fields account password

/-- A whole request for a service, which brings the pair among its cookies. -/
structure SessionCookie.Browses (cookie : SessionCookie) (pair : String) (request : Request) : Prop where
  legal : request.uri.LegalAuthority
  service : Route.ofPath request.uri.path = .service
  whole : Inbound.isUpgrade request.headers = false
  readable : request.body.size ≤ Gateway.maxBody ∧ request.bodyFault = none
  brings : cookie.Brings request.headers pair

namespace Gateway

section

variable {c : Config} {g : Gateway}

/-- A valid configuration makes a gateway. -/
theorem exists_ofConfig (valid : c.validate = .ok ()) : ∃ g, ofConfig c = .ok g := by
  unfold Config.validate at valid
  split at valid
  · exact absurd valid (by simp)
  · rename_i hashKey signs
    split at valid
    · exact absurd valid (by simp)
    · rename_i blockKey hides
      cases lists : c.backendTable with
      | ok table =>
        unfold ofConfig
        rw [signs, hides, lists]
        exact ⟨_, rfl⟩
      | error e =>
        rw [lists] at valid
        repeat' split at valid
        all_goals exact absurd valid (by simp [Except.map])

/-- What a gateway takes over from its configuration. -/
structure MadeOf (g : Gateway) (c : Config) : Prop where
  config : g.config = c
  cookieName : g.authenticator.cookie.name = c.session.cookieName
  cookieDomain : g.authenticator.cookie.domain = c.session.cookieDomain
  maxAge : g.authenticator.cookie.maxAge = c.session.maxAge
  prefixed : g.authenticator.prefixed = decide (c.authType = .composite)

theorem madeOf_of_ofConfig (built : ofConfig c = .ok g) : MadeOf g c := by
  unfold ofConfig at built
  repeat' split at built
  · exact absurd built (by simp)
  · exact absurd built (by simp)
  · exact absurd built (by simp)
  · rw [← Except.ok.inj built]
    exact { config := rfl, cookieName := rfl, cookieDomain := rfl, maxAge := rfl, prefixed := rfl }

end

section

variable {g : Gateway} {c : Config} (made : MadeOf g c) (serves : c.ServesListed)
  {user : LocalUser} {password : String} (logsIn : user.LogsIn c.users password)

include made serves

theorem cleanName_cookie : g.authenticator.cookie.CleanName := by
  refine SessionCookie.cleanName_of_isTokenChar ?_
  rw [made.cookieName]
  exact serves.cookieName

/-- The session is opened with one cookie, whose pair ends at the first semicolon. -/
theorem openSession_eq (env : Surroundings) (info : Session) :
    ∃ header, g.openSession env info = .ok ((Response.seeOther "/").withHeader .setCookie header) ∧
      header.bytes.takeWhile (· ≠ 0x3B) = Text.encode (g.authenticator.cookie.pairText
        (g.authenticator.cookie.encode env.time.unixSeconds env.nonce info)) := by
  have domain : ∀ text, g.authenticator.cookie.domain = some text →
      (HeaderValue.ofText? text).isSome = true := by
    rw [made.cookieDomain]
    exact serves.cookieDomain
  rcases SessionCookie.setHeader_eq_ok (cleanName_cookie made serves) domain
    (g.authenticator.cookie.issue env.time.unixSeconds env.nonce info) with ⟨header, set, pair⟩
  refine ⟨header, ?_, pair⟩
  change g.authenticator.cookie.setHeader
    (g.authenticator.cookie.encode env.time.unixSeconds env.nonce info) = _ at set
  simp only [openSession, set]

include logsIn

/-- A form of the user that is not too long is an attempt. -/
theorem attempt?_of_sends {request : Request} (sends : LoginForm.Sends request user.account password)
    (short : request.body.size ≤ LoginForm.maxSize) :
    g.attempt? request = some { userType := LocalUser.userType, username := user.account, password } := by
  rcases sends.written with ⟨fields, writes, fills⟩
  rcases fills.account with ⟨name, named, paddedName⟩
  rcases fills.password with ⟨secret, told, paddedSecret⟩
  have parsed : LoginForm.parse request.body.data.toList = .ok {
      userType := Text.Form.value "user_type" fields, username := name, password := secret } := by
    simp only [LoginForm.parse, Text.Form.decodePairs_of_writes writes,
      Text.Form.repeated?_eq_none fills.single, Text.Form.value, named, told, Option.getD_some]
  have read : LoginForm.ofRequest request = .ok {
      userType := Text.Form.value "user_type" fields, username := name, password := secret } := by
    simp only [LoginForm.ofRequest, sends.typed, Nat.not_lt.mpr short, sends.complete, parsed,
      Bool.not_true, Bool.false_eq_true, if_false]
  have complete : ¬ (user.account = "" ∨ password = "") := by
    rintro (nobody | nothing)
    · exact logsIn.account_ne nobody
    · exact logsIn.password_ne nothing
  rw [attempt?, if_pos ⟨sends.path, sends.method⟩, read]
  simp only [LoginForm.attempt?, made.config, logsIn.normalName_eq paddedName, paddedSecret.trim_eq,
    logsIn.password_trim, if_neg complete, userTypeOf?, serves.authType, AuthType.fixedUserType?,
    Option.map_some, LocalUser.userType]

/-- The provider lets the user in, and the session of the user is opened. -/
theorem tryLogin_of_logsIn {env : Surroundings} (around : c.Surrounds env) (cache : Cache)
    (host : String) :
    ∃ header, (g.tryLogin env cache LocalUser.userType user.account password host).result =
        .ok ((Response.seeOther "/").withHeader .setCookie header) ∧
      header.bytes.takeWhile (· ≠ 0x3B) = Text.encode (g.authenticator.cookie.pairText
        (g.authenticator.cookie.encode env.time.unixSeconds env.nonce (user.session host env.time))) := by
  have answer : (env.provider.login
      (providerAccount g.config.authType LocalUser.userType user.account) password).ending =
        .value user.identity := by
    have account : providerAccount g.config.authType LocalUser.userType user.account = user.account := by
      rw [made.config, serves.authType]
      rfl
    rw [account, serves.provider_eq around]
    exact congrArg Ending.ofExcept
      (LocalUser.login_of_stores logsIn.first logsIn.enabled logsIn.stores)
  rcases openSession_eq made serves env (user.session host env.time) with ⟨header, opened, pair⟩
  refine ⟨header, ?_, pair⟩
  unfold LocalUser.session at opened
  simp only [tryLogin, answer, opened]

/-- A form of the user that nothing stops is answered with one cookie. -/
theorem response_of_sends (assets : Assets) {env : Surroundings} (around : c.Surrounds env) {state : State}
    (passed : (state.flood.check c.loginRatePerMinute env.floodClock).1 = true)
    (allowed : ((Throttle.check LocalUser.userType user.account).run env.conditions state.cache).1 = .ok ())
    {request : Request} (sends : LoginForm.Sends request user.account password)
    (short : request.body.size ≤ LoginForm.maxSize) :
    ∃ response header, (g.handle assets env state request).response = .ok response ∧
      response.status = 303 ∧ response.headers.getAll .location = [.ofVisible "/"] ∧
      response.headers.getAll .setCookie = [header] ∧
      header.bytes.takeWhile (· ≠ 0x3B) = Text.encode (g.authenticator.cookie.pairText
        (g.authenticator.cookie.encode env.time.unixSeconds env.nonce
          (user.session (hostOf request) env.time))) := by
  have tried := attempt?_of_sends made serves logsIn sends short
  -- The flood limiter takes its rate from the gateway, which has it from the configuration.
  have passes : g.Passes env state
      { userType := LocalUser.userType, username := user.account, password } :=
    ⟨made.config ▸ passed, allowed⟩
  rcases tryLogin_of_logsIn made serves logsIn around
    (checked env state.cache { userType := LocalUser.userType, username := user.account, password }).2
    (hostOf request) with ⟨header, opened, pair⟩
  refine ⟨((Response.seeOther "/").withHeader .setCookie header).sized, header, ?_, ?_, ?_, ?_, pair⟩
  · rw [response_of_passes assets tried passes, opened]
    rfl
  · rw [Response.status_sized]
    rfl
  · rw [Response.getAll_sized (by decide), Response.withHeader,
      Net.HeaderMap.getAll_insert_of_ne _ (by decide), Response.seeOther, Response.withHeader,
      Net.HeaderMap.getAll_insert_self]
  · rw [Response.getAll_sized (by decide), Response.withHeader, Net.HeaderMap.getAll_insert_self]

/-- The session comes back with the pair, and the provider still knows the user. -/
theorem authenticate_of_brings {env later : Surroundings} (around : c.Surrounds env)
    (surrounds : c.Surrounds later) {host : String} {headers : Net.HeaderMap}
    (brings : g.authenticator.cookie.Brings headers (g.authenticator.cookie.pairText
      (g.authenticator.cookie.encode env.time.unixSeconds env.nonce (user.session host env.time))))
    (fresh : c.session.maxAge = 0 ∨
      later.time.unixSeconds - env.time.unixSeconds ≤ c.session.maxAge) (cache : Cache) :
    (g.authenticator.authenticate later cache headers).result =
      .ok (some (user.session host env.time)) := by
  rcases env.time.unixSeconds_bounds with ⟨low, high⟩
  have young : g.authenticator.cookie.isStale later.time.unixSeconds env.time.unixSeconds = false := by
    rw [SessionCookie.isStale_eq_false_iff, made.maxAge]
    exact fresh.imp Int.le_of_eq id
  have read : g.authenticator.cookie.sessionIn later.time.unixSeconds headers =
      .ok (user.session host env.time) :=
    SessionCookie.sessionIn_of_brings (cleanName_cookie made serves) low high around.nonce _ brings young
  have authenticated : (user.session host env.time).isAuthenticated = true :=
    decide_eq_true logsIn.account_ne
  refine Authenticator.authenticate_of_vouched surrounds.calm
    (Authenticator.claimed_of_sessionIn read authenticated) ?_
  have account : g.authenticator.accountOf (user.session host env.time) = user.account := by
    rw [Authenticator.accountOf, made.prefixed, serves.authType]
    rfl
  rw [account, serves.provider_eq surrounds]
  exact congrArg (Authenticator.verdict ∘ Ending.ofExcept)
    (LocalUser.get_of_enabled logsIn.first logsIn.enabled)

end

section

variable {g : Gateway} {env : Surroundings} {request : Request} {info : Session} {host : String}
  {backend : Backend} (assets : Assets) {state : State}

private theorem handle_of_service (service : Route.ofPath request.uri.path = .service) :
    g.handle assets env state request = g.handleService env state request := by
  simp only [handle, service]

/-- A request of an admitted user is sent on under the account of the user. -/
theorem handle_of_allowed (service : Route.ofPath request.uri.path = .service)
    (legal : request.uri.LegalAuthority) (allowed : Allowed g env state.cache request info host backend)
    (whole : Inbound.isUpgrade request.headers = false)
    (readable : request.body.size ≤ maxBody ∧ request.bodyFault = none)
    (sendable : (HeaderValue.ofText? info.account).isSome = true) :
    ∃ out, (g.handle assets env state request).sent = some out ∧ out.method = request.method ∧
      out.address = Outbound.address backend.address request.uri ∧ out.body = request.body ∧
      Outbound.Named request.headers backend (g.senderOf info request) false out.headers := by
  have served := serve_of_whole allowed whole readable
  rcases headers_eq (isSome_ofText?_host legal allowed.named allowed.found)
    (g.senderOf info request) false with ⟨illegal, -⟩ | ⟨-, headers, made⟩
  · rw [show HeaderValue.ofText? info.account = none from illegal] at sendable
    exact absurd sendable Bool.false_ne_true
  · rw [made] at served
    refine ⟨outbound request backend headers, ?_, rfl, rfl, ?_, ?_⟩
    · rw [handle_of_service assets service]
      simp only [handleService, dispatch, allowed.known]
      exact served
    · rw [outbound, whole]
      rfl
    · exact Outbound.named_of_headers
        (Inbound.isEntry_clientIp request.headers g.clientIpHeader request.remote) made

/-- A request of any other user is refused. -/
theorem handle_of_forbidden (service : Route.ofPath request.uri.path = .service)
    (known : (g.authenticator.authenticate env state.cache request.headers).result = .ok (some info))
    (named : Inbound.host? request.headers request.uri = some host)
    (found : g.table.resolve? host = some backend) (closed : backend.hasPrivilege info = false) :
    (∃ response, (g.handle assets env state request).response = .ok response ∧
      response.status = 403) ∧ (g.handle assets env state request).sent = none := by
  rcases dispatch_of_forbidden known named found closed with ⟨answered, unsent⟩
  rw [handle_of_service assets service]
  refine ⟨⟨_, rfl, ?_⟩, unsent⟩
  rw [Response.status_sized, answered]
  rfl

end

/-- A listed user who sends the login form is answered with one cookie.  Every later request that
brings its pair back is for the user, while the cookie is not too old, and goes to the backend of its
host with the account of the user if the backend is open to the user. -/
theorem login_then_browse {c : Config} (serves : c.ServesListed) {user : LocalUser} {password : String}
    (logsIn : user.LogsIn c.users password) :
    ∃ g, ofConfig c = .ok g ∧
    ∀ assets env state request, c.Surrounds env →
      (state.flood.check c.loginRatePerMinute env.floodClock).1 = true →
      ((Throttle.check LocalUser.userType user.account).run env.conditions state.cache).1 = .ok () →
      LoginForm.Sends request user.account password → request.body.size ≤ LoginForm.maxSize →
    ∃ response header, ∃ token : Token,
      (g.handle assets env state request).response = .ok response ∧
      response.status = 303 ∧ response.headers.getAll .location = [.ofVisible "/"] ∧
      response.headers.getAll .setCookie = [header] ∧
      header.bytes.takeWhile (· ≠ 0x3B) = Text.encode (g.authenticator.cookie.pairText token.text) ∧
    ∀ later state' request' host backend, c.Surrounds later →
      (c.session.maxAge = 0 ∨
        later.time.unixSeconds - env.time.unixSeconds ≤ c.session.maxAge) →
      g.authenticator.cookie.Browses (g.authenticator.cookie.pairText token.text) request' →
      Inbound.host? request'.headers request'.uri = some host →
      g.table.resolve? host = some backend →
      let handled := g.handle assets later state' request'
      (backend.Admits user → ∃ out, handled.sent = some out ∧ out.method = request'.method ∧
        out.address = Outbound.address backend.address request'.uri ∧ out.body = request'.body ∧
        (backend.ruleFor? Outbound.accountHeader = none →
          ∃ value, out.headers.getAll Outbound.accountHeader = [value] ∧
            value.bytes = Text.encode user.account)) ∧
      (¬ backend.Admits user →
        (∃ response, handled.response = .ok response ∧ response.status = 403) ∧ handled.sent = none) := by
  rcases exists_ofConfig serves.valid with ⟨g, built⟩
  have made := madeOf_of_ofConfig built
  refine ⟨g, built, fun assets env state request around passed allowed sends short => ?_⟩
  rcases response_of_sends made serves logsIn assets around passed allowed sends short with
    ⟨response, header, answered, status, location, cookie, pair⟩
  refine ⟨response, header, g.authenticator.cookie.issue env.time.unixSeconds env.nonce
    (user.session (hostOf request) env.time), answered, status, location, cookie, pair, ?_⟩
  intro later state' request' host backend surrounds fresh browses named found handled
  -- Whether the cache holds a marker of the session or not, the provider vouches for its account.
  have known := authenticate_of_brings made serves logsIn around surrounds browses.brings fresh state'.cache
  have privileged := user.hasPrivilege_session (hostOf request) env.time backend
  constructor
  · intro admits
    have allowed : Allowed g later state'.cache request' (user.session (hostOf request) env.time) host
        backend :=
      { known := known, named := named, found := found, privileged := privileged.mpr admits }
    rcases handle_of_allowed assets browses.service browses.legal allowed browses.whole browses.readable
      logsIn.sendable with ⟨out, sent, method, address, body, headers⟩
    exact ⟨out, sent, method, address, body, headers.account⟩
  · intro excluded
    exact handle_of_forbidden assets browses.service known named found
      (Bool.eq_false_iff.mpr fun privilege => excluded (privileged.mp privilege))

/-- A form that is too long is refused, whoever sends it. -/
theorem response_of_long {g : Gateway} (assets : Assets) {env : Surroundings} {state : State}
    (passed : (state.flood.check g.config.loginRatePerMinute env.floodClock).1 = true)
    {request : Request} {account password : String} (sends : LoginForm.Sends request account password)
    (long : LoginForm.maxSize < request.body.size) :
    ∃ response, (g.handle assets env state request).response = .ok response ∧ response.status = 413 := by
  have writing : isReading "POST" = false := by decide
  have refused : ∃ response, LoginForm.ofRequest request = .error response ∧ response.status = 413 := by
    rw [LoginForm.ofRequest, sends.typed, Bool.not_true, if_neg Bool.false_ne_true, if_pos long]
    exact ⟨_, rfl, rfl⟩
  rcases refused with ⟨response, read, status⟩
  refine ⟨response.sized, ?_, Response.status_sized.trans status⟩
  simp only [handle, sends.path, writing, handleForm, passed, sends.method, read, Handled.own,
    Bool.not_true, Bool.false_eq_true, if_false, if_true]

/-- The gateway to the wiki, with the user at home. -/
def homeWikiConfig : Config :=
  { wikiConfig with users := homeGateway.config.users }

def homeWiki : Gateway :=
  { wikiGateway with config := homeWikiConfig }

/-- The login form of the user, with so many blanks in front of the account. -/
def paddedForm (blanks : Nat) : Request :=
  formRequest ("username=" ++ String.ofList (List.replicate blanks '+') ++ "alice&password=secret")

/-- The bytes of the form, field by field. -/
private theorem encode_paddedForm (blanks : Nat) :
    (paddedForm blanks).body.data.toList =
      (Text.encode "username" ++ 0x3D :: (List.replicate blanks 0x2B ++ Text.encode "alice")) ++
        0x26 :: (Text.encode "password" ++ 0x3D :: Text.encode "secret") := by
  have signs : Text.encode (String.ofList (List.replicate blanks '+')) = List.replicate blanks 0x2B :=
    Text.encode_replicate (by decide) blanks
  have front : Text.encode "username=" = Text.encode "username" ++ [0x3D] := by decide
  have back : Text.encode "alice&password=secret" = Text.encode "alice" ++
      0x26 :: (Text.encode "password" ++ 0x3D :: Text.encode "secret") := by decide
  rw [paddedForm, formRequest, List.toList_toArray, Text.encode_append, Text.encode_append, signs, front,
    back]
  simp only [List.append_assoc, List.cons_append, List.nil_append]

private theorem size_paddedForm (blanks : Nat) : (paddedForm blanks).body.size = blanks + 30 := by
  have lengths : (Text.encode "username").length = 8 ∧ (Text.encode "alice").length = 5 ∧
      (Text.encode "password").length = 8 ∧ (Text.encode "secret").length = 6 := by decide
  have length := congrArg List.length (encode_paddedForm blanks)
  simp only [Array.length_toList, List.length_append, List.length_cons, List.length_replicate,
    lengths] at length
  rw [ByteArray.size, length]
  omega

/-- The blanks are those of the account. -/
theorem sends_paddedForm (blanks : Nat) : LoginForm.Sends (paddedForm blanks) "alice" "secret" := by
  have blank : (String.ofList (List.replicate blanks ' ')).toList.all Text.isBlank = true := by
    rw [String.toList_ofList, List.all_replicate]
    exact ite_eq_left_iff.mpr fun _ => by decide
  have spaces : Text.encode (String.ofList (List.replicate blanks ' ') ++ "alice") =
      List.replicate blanks 0x20 ++ Text.encode "alice" := by
    rw [Text.encode_append, Text.encode_replicate (by decide)]
    rfl
  have name : Text.Form.Spells (List.replicate blanks 0x2B ++ Text.encode "alice")
      (Text.encode (String.ofList (List.replicate blanks ' ') ++ "alice")) := by
    rw [spaces]
    exact Text.Form.spells_plus (Text.Form.spells_self (by decide)) blanks
  have path : Route.ofPath (formRequest "").uri.path = .loginForm := by decide
  have typed : LoginForm.isForm (formRequest "").headers = true := by decide
  have single : (["username", "password"].filter LoginForm.fieldNames.contains).Nodup := by decide
  refine { path := path, method := rfl, typed := typed, complete := rfl, written := ?_ }
  refine ⟨[("username", String.ofList (List.replicate blanks ' ') ++ "alice"), ("password", "secret")],
    ?_, ?_⟩
  · rw [encode_paddedForm]
    exact .append (.field (Text.Form.spells_self (by decide)) name)
      (.field (Text.Form.spells_self (by decide)) (Text.Form.spells_self (by decide)))
  · exact {
      single := single
      account := ⟨_, rfl, String.ofList (List.replicate blanks ' '), "", blank, by decide, by simp⟩
      password := ⟨_, rfl, "", "", by decide, by decide, rfl⟩ }

/-- A request of the user for the wiki, with the pair behind other cookies. -/
def wikiRequest (token : Token) : Request where
  method := "GET"
  uri := { scheme := none, authority := none, path := "/", query := none }
  headers := {
    fields := [
      (.cookie, .ofVisible "theme=dark; lang=en"),
      (.cookie, .ofVisible (homeWiki.authenticator.cookie.pairText token.text)),
      (.host, .ofVisible "wiki:443")] }
  body := .empty
  remote := none
  takeover := false

/-- What surrounds a request on the next day. -/
def nextDay : Surroundings :=
  { atHome with
    conditions := { now := 86400000000000, outage := Store.calm }
    time := {
      Time.Timestamp.epoch with
      date := { year := 1970, month := 1, day := 2 }
      date_legal := by decide } }

private theorem ofConfig_homeWiki : ofConfig homeWikiConfig = .ok homeWiki :=
  rfl

private theorem servesListed_homeWiki : homeWikiConfig.ServesListed where
  valid := rfl
  authType := rfl
  cookieName := by decide
  cookieDomain := fun _ named => absurd named (by simp [homeWikiConfig, wikiConfig, SessionConfig.standard])

private theorem logsIn_homeWiki :
    LocalUser.LogsIn { LocalUser.blank with account := "alice", password := "secret" }
      homeWikiConfig.users "secret" where
  first := by decide
  enabled := rfl
  stores := .plain (by decide) rfl
  account_ne := by decide
  account_trim := by decide
  password_ne := by decide
  password_trim := by decide
  whole := Or.inr (by decide)
  sendable := by decide

private theorem surrounds_homeWiki {env : Surroundings} (calm : env.conditions.Calm)
    (same : env.provider = atHome.provider) (nonce : env.nonce.length = Crypto.Gcm.nonceLength) :
    homeWikiConfig.Surrounds env where
  calm := calm
  provider := by
    rw [same]
    exact ⟨{ search := fun _ => .ok [], bind := fun _ _ => .ok () }, rfl⟩
  nonce := nonce

private theorem browses_wikiRequest (token : Token) :
    homeWiki.authenticator.cookie.Browses (homeWiki.authenticator.cookie.pairText token.text)
      (wikiRequest token) where
  legal := fun _ named => absurd named (by simp [wikiRequest])
  service := by
    change Route.ofPath "/" = .service
    decide
  whole := rfl
  readable := ⟨Nat.zero_le _, rfl⟩
  brings := by
    have lines : (wikiRequest token).headers.getAll .cookie = [.ofVisible "theme=dark; lang=en"] ++
        HeaderValue.ofVisible (homeWiki.authenticator.cookie.pairText token.text) :: [] := rfl
    refine SessionCookie.brings_of_line (by decide) token lines fun value member line read => ?_
    rw [List.append_nil, List.mem_singleton] at member
    rw [member, HeaderValue.text?_ofVisible (List.all_eq_true.mp (by decide))] at read
    rw [← Option.some.inj read]
    decide

theorem login_then_browse_atHome :
    ofConfig homeWikiConfig = .ok homeWiki ∧ ∃ response header, ∃ token : Token,
      (homeWiki.handle .empty atHome .start (paddedForm 1)).response = .ok response ∧
      response.status = 303 ∧ response.headers.getAll .setCookie = [header] ∧
      header.bytes.takeWhile (· ≠ 0x3B) =
        Text.encode (homeWiki.authenticator.cookie.pairText token.text) ∧
      ∃ out, (homeWiki.handle .empty nextDay .start (wikiRequest token)).sent = some out ∧
        ∃ value, out.headers.getAll Outbound.accountHeader = [value] ∧
          value.bytes = Text.encode "alice" := by
  have short : (paddedForm 1).body.size ≤ LoginForm.maxSize := by
    rw [size_paddedForm]
    decide
  rcases login_then_browse servesListed_homeWiki logsIn_homeWiki with ⟨g, made, journey⟩
  have same : homeWiki = g := Except.ok.inj (ofConfig_homeWiki.symm.trans made)
  subst same
  rcases journey .empty atHome .start (paddedForm 1) (surrounds_homeWiki (fun _ _ => rfl) rfl rfl)
    (by decide) rfl (sends_paddedForm 1) short with
    ⟨response, header, token, answered, status, -, cookie, pair, browse⟩
  rcases (browse nextDay .start (wikiRequest token) "wiki:443" wikiBackend
    (surrounds_homeWiki (fun _ _ => rfl) rfl rfl) (Or.inr (by decide)) (browses_wikiRequest token)
    rfl rfl).1 (Or.inl rfl) with ⟨out, sent, -, -, -, account⟩
  exact ⟨ofConfig_homeWiki, response, header, token, answered, status, cookie, pair, out, sent, account rfl⟩

/-- Blanks count towards the length of a form, so that too many of them keep the user out. -/
theorem long_form_refused :
    homeWikiConfig.ServesListed ∧
      LocalUser.LogsIn { LocalUser.blank with account := "alice", password := "secret" }
        homeWikiConfig.users "secret" ∧
      ofConfig homeWikiConfig = .ok homeWiki ∧ homeWikiConfig.Surrounds atHome ∧
      (State.start.flood.check homeWikiConfig.loginRatePerMinute atHome.floodClock).1 = true ∧
      ((Throttle.check LocalUser.userType "alice").run atHome.conditions State.start.cache).1 = .ok () ∧
      LoginForm.Sends (paddedForm LoginForm.maxSize) "alice" "secret" ∧
      ∃ response, (homeWiki.handle .empty atHome .start (paddedForm LoginForm.maxSize)).response =
        .ok response ∧ response.status = 413 := by
  have long : LoginForm.maxSize < (paddedForm LoginForm.maxSize).body.size := by
    rw [size_paddedForm]
    exact Nat.lt_add_of_pos_right (by decide)
  have sends := sends_paddedForm LoginForm.maxSize
  exact ⟨servesListed_homeWiki, logsIn_homeWiki, ofConfig_homeWiki, surrounds_homeWiki (fun _ _ => rfl) rfl rfl,
    by decide, rfl, sends, response_of_long .empty (by decide) sends long⟩

end Gateway

end AuthGateway
