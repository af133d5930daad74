import AuthGateway.Proofs.Gateway.Journey
import AuthGateway.Proofs.Gateway.Watched
import AuthGateway.Proofs.Provider.Directory
import AuthGateway.Proofs.Provider.Tree

namespace AuthGateway

/-!
# One source from the login to the next check

Behind one gateway there may be two sources of users, a list and a directory.  The login form says
which of them is meant, and the name that is typed is a text like any other, even if it spells the
name of a source or has colons in it.  So three parts of the gateway must agree on a source: the login
writes its name in front of the typed one, the provider cuts the account at its first colon, and the
check of a session writes the account again, from what the cookie says.

They do (`Gateway.rechecked_where_logged_in`): a login asks the source that is meant, under the normal
form of the typed name, and the check of the session asks this source again, under this name.
-/

open Net (Request Response)

namespace Provider

/-- The name of the users of each source. -/
def typeAt : Side → String
  | .first => LocalUser.userType
  | .second => Directory.Source.userType

theorem exists_typeAt {userType : String}
    (known : userType = LocalUser.userType ∨ userType = Directory.Source.userType) :
    ∃ side, userType = typeAt side := by
  rcases known with listed | found
  · exact ⟨.first, listed⟩
  · exact ⟨.second, found⟩

/-- The name of a source is spelled in front of the first colon, whatever name is behind it. -/
private theorem spells_typeAt (side : Side) (username : String) :
    Spells [typeAt side] username (typeAt side ++ ":" ++ username) := by
  apply Spells.cons
  case clean =>
    cases side with
    | first => decide
    | second => decide
  case later => exact .nil username

section

variable (check : PasswordCheck) (users : List LocalUser) (source : Directory.Source)

/-- Each of the two sources. -/
def sourceAt : Side → Provider
  | .first => localUsers check users
  | .second => directory source

/-- The listed users and the directory behind one another. -/
def sources : Provider :=
  composite (typeAt .first) (sourceAt check users source .first)
    (typeAt .second) (sourceAt check users source .second)

private theorem leads_sources (side : Side) :
    (sources check users source).Leads [typeAt side]
      { place := [side], provider := sourceAt check users source side } := by
  cases side with
  | first => exact .first (.here rfl)
  | second => exact .second (by decide) (.here rfl)

/-- Under the name of a source, this source answers for both. -/
theorem answer_sources (side : Side) (username : String) (question : Question) :
    (sources check users source).answer question (typeAt side ++ ":" ++ username) =
      (sourceAt check users source side).answer question username :=
  answer_of_leads (leads_sources check users source side) (spells_typeAt side username) question

/-- It is asked once, and the other one is not. -/
theorem calls_sources (side : Side) (username : String) (question : Question) :
    ((sources check users source).exposed.answer question (typeAt side ++ ":" ++ username)).calls =
      [.ask (placeText [side]) question.kind username] :=
  calls_of_leads (leads_sources check users source side) (spells_typeAt side username) question

end

/-- Who logs in at a source is found there again, as the same user, who has the type of the source and
an account. -/
theorem get_of_login {check : PasswordCheck} {users : List LocalUser} {source : Directory.Source}
    {side : Side} {account password : String} {user : Identity} (named : account ≠ "")
    (opened : ((sourceAt check users source side).login account password).ending = .value user) :
    ((sourceAt check users source side).get account).ending = .value user ∧
      user.userType = typeAt side ∧ user.account ≠ "" := by
  cases side with
  | first =>
    have accepted : LocalUser.login check users account password = .ok user :=
      Ending.ofExcept_eq_value_iff.mp opened
    rcases LocalUser.get_of_login accepted with ⟨found, listed, same⟩
    refine ⟨Ending.ofExcept_eq_value_iff.mpr found, listed, ?_⟩
    rw [same]
    exact named
  | second =>
    rcases Directory.Source.get_of_login opened with ⟨found, entry, rfl⟩
    exact ⟨found, rfl, Directory.Source.account_identity_ne named⟩

end Provider

namespace Surroundings

/-- The same surroundings, with each leaf of the provider seen under its place. -/
def exposed (env : Surroundings) : Surroundings :=
  { env with provider := env.provider.exposed }

theorem exposed_alike (env : Surroundings) : env.exposed.Alike env where
  conditions := rfl
  time := rfl
  floodClock := rfl
  nonce := rfl
  network := rfl
  login := fun account password => Provider.ending_exposedAt (.login password) account env.provider []
  get := fun account => Provider.ending_exposedAt .get account env.provider []

end Surroundings

namespace Gateway

/-- A later moment in which the token of a session comes back: it is not too old, and the session has no
marker. -/
structure Returns (g : Gateway) (issued : Time.Timestamp) (info : Session) (token : Token)
    (later : Surroundings) (cache : Cache) (headers : Net.HeaderMap) : Prop where
  brings : g.authenticator.cookie.tokenIn headers = some token.text
  fresh : g.authenticator.cookie.maxAge ≤ 0 ∨
    later.time.unixSeconds - issued.unixSeconds ≤ g.authenticator.cookie.maxAge
  works : later.conditions.outage cache.calls .get = none
  missing : cache.memory.get later.conditions.now (Marker.key info.id) = ""

/-- The session that comes back is the one that the token was issued for. -/
theorem Returns.claimed_eq {g : Gateway} {issued : Time.Timestamp} {info : Session}
    {nonce : Text.Bytes} (length : nonce.length = Crypto.Gcm.nonceLength) {later : Surroundings}
    {cache : Cache} {headers : Net.HeaderMap}
    (returns : g.Returns issued info
      (g.authenticator.cookie.issue issued.unixSeconds nonce info) later cache headers)
    (authenticated : info.account ≠ "") : g.authenticator.claimed later headers = some info := by
  rcases issued.unixSeconds_bounds with ⟨low, high⟩
  have read : g.authenticator.cookie.sessionIn later.time.unixSeconds headers = .ok info :=
    SessionCookie.sessionIn_of_tokenIn low high length info returns.brings
      (g.authenticator.cookie.isStale_eq_false_iff.mpr returns.fresh)
  exact Authenticator.claimed_of_sessionIn read (decide_eq_true authenticated)

section

variable {c : Config} {g : Gateway} (made : MadeOf g c) (composite : c.authType = .composite)
  {check : PasswordCheck} {users : List LocalUser} {source : Directory.Source}

include made composite

/-- The provider is asked about an attempt under the type in front of the name. -/
theorem accountOf_of_composite (attempt : Attempt) :
    g.accountOf attempt = attempt.userType ++ ":" ++ attempt.username := by
  rw [accountOf, made.config, composite, providerAccount, if_pos rfl]

/-- It is asked about a session in the same way. -/
theorem accountOf_session (info : Session) :
    g.authenticator.accountOf info = info.userType ++ ":" ++ info.username := by
  rw [Authenticator.accountOf, made.prefixed, composite]
  rfl

/-- A type that the form may ask for is that of a source. -/
theorem exists_form_of_attempt? {request : Request} {attempt : Attempt}
    (tried : g.attempt? request = some attempt) :
    ∃ form side, LoginForm.ofRequest request = .ok form ∧
      Text.trim form.userType = Provider.typeAt side ∧
      attempt = {
        userType := Provider.typeAt side
        username := normalName c.users.ignoreAccountSuffix form.username
        password := Text.trim form.password } ∧
      attempt.username ≠ "" := by
  rcases form_of_attempt? tried with ⟨-, -, form, read, complete⟩
  rcases parts_of_attempt? complete with ⟨filled, asked, username, password⟩
  rw [made.config] at asked username
  have known : ∃ side, Text.trim form.userType = Provider.typeAt side ∧
      attempt.userType = Provider.typeAt side := by
    rw [composite, userTypeOf?] at asked
    dsimp only [AuthType.fixedUserType?] at asked
    split at asked
    · rename_i known
      rcases Provider.exists_typeAt known with ⟨side, same⟩
      exact ⟨side, same, (Option.some.inj asked).symm.trans same⟩
    · exact absurd asked (by simp)
  rcases known with ⟨side, same, userType⟩
  refine ⟨form, side, read, same, ?_, fun empty => filled (Or.inl empty)⟩
  rw [← userType, username, password]

/-- A login asks the source of its type, and only this one. -/
theorem calls_of_login (assets : Assets) {env : Surroundings}
    (sources : env.provider = .sources check users source) {state : State} {request : Request}
    {attempt : Attempt} (tried : g.attempt? request = some attempt)
    (passes : g.Passes env state attempt) {side : Provider.Side}
    (typed : attempt.userType = Provider.typeAt side) :
    (g.handle assets env.exposed state request).calls =
      [.ask (Provider.placeText [side]) "login" attempt.username] := by
  have allowed : g.Passes env.exposed state attempt := passes
  rw [(handle_of_passes assets tried allowed).1, accountOf_of_composite made composite, typed]
  change (env.provider.exposed.answer (.login attempt.password) _).calls = _
  rw [sources]
  exact Provider.calls_sources check users source side attempt.username (.login attempt.password)

/-- A check of a session asks the source of its type, and only this one. -/
theorem calls_of_check {env : Surroundings} (sources : env.provider = .sources check users source)
    {side : Provider.Side} {info : Session} (typed : info.userType = Provider.typeAt side)
    {cache : Cache} {headers : Net.HeaderMap}
    (claimed : g.authenticator.claimed env headers = some info)
    (works : env.conditions.outage cache.calls .get = none)
    (missing : cache.memory.get env.conditions.now (Marker.key info.id) = "") :
    (g.authenticator.authenticate env.exposed cache headers).calls =
      [.ask (Provider.placeText [side]) "get" info.username] := by
  have read : g.authenticator.claimed env.exposed headers = some info := claimed
  rw [Authenticator.calls_authenticate_of_missing read works missing, accountOf_session made composite,
    typed]
  change (env.provider.exposed.answer .get _).calls = _
  rw [sources]
  exact Provider.calls_sources check users source side info.username .get

/-- What the source says of an attempt is what the provider says. -/
theorem login_of_sources {env : Surroundings} (sources : env.provider = .sources check users source)
    {attempt : Attempt} {side : Provider.Side} (typed : attempt.userType = Provider.typeAt side) :
    env.provider.login (g.accountOf attempt) attempt.password =
      (Provider.sourceAt check users source side).login attempt.username attempt.password := by
  rw [accountOf_of_composite made composite, typed, sources]
  exact Provider.answer_sources check users source side attempt.username (.login attempt.password)

theorem get_of_sources {env : Surroundings} (sources : env.provider = .sources check users source)
    {info : Session} {side : Provider.Side} (typed : info.userType = Provider.typeAt side) :
    env.provider.get (g.authenticator.accountOf info) =
      (Provider.sourceAt check users source side).get info.username := by
  rw [accountOf_session made composite, typed, sources]
  exact Provider.answer_sources check users source side info.username .get

end

/-- With two sources of users, an attempt that nothing stops is one question to the source of the type
that is asked for, under the normal form of the typed name.  A cookie is set for the user whom this
source lets in, and for nobody else.  As long as the sources stay as they are, and the session has no
marker, bringing the cookie back is one question to the same source under the same name, and the same
user is found. -/
theorem rechecked_where_logged_in {c : Config} {g : Gateway} (built : ofConfig c = .ok g)
    (composite : c.authType = .composite) {env : Surroundings} {check : PasswordCheck}
    {users : List LocalUser} {source : Directory.Source}
    (sources : env.provider = .sources check users source)
    (nonce : env.nonce.length = Crypto.Gcm.nonceLength) (assets : Assets) {state : State}
    {request : Request} {attempt : Attempt} (tried : g.attempt? request = some attempt)
    (passes : g.Passes env state attempt) :
    ∃ form side, LoginForm.ofRequest request = .ok form ∧
      Text.trim form.userType = Provider.typeAt side ∧
      attempt = {
        userType := Provider.typeAt side
        username := normalName c.users.ignoreAccountSuffix form.username
        password := Text.trim form.password } ∧
      let place := Provider.placeText [side]
      let asked := Provider.sourceAt check users source side
      let opened := (asked.login attempt.username attempt.password).ending
      let handled := g.handle assets env state request
      let exposed := g.handle assets env.exposed state request
      let session user := Session.ofIdentity user attempt.username (hostOf request) env.time
      let token user := g.authenticator.cookie.issue env.time.unixSeconds env.nonce (session user)
      exposed.calls = [.ask place "login" attempt.username] ∧
      exposed.response = handled.response ∧ exposed.state = handled.state ∧
      (∀ header, (∃ response, handled.response = .ok response ∧
          header ∈ response.headers.getAll .setCookie) ↔
        ∃ user, opened = .value user ∧
          g.authenticator.cookie.setHeader (token user).text = .ok header) ∧
      ∀ user, opened = .value user → ∀ later cache headers, later.provider = env.provider →
        g.Returns env.time (session user) (token user) later cache headers →
          (g.authenticator.authenticate later.exposed cache headers).calls =
            [.ask place "get" attempt.username] ∧
          (asked.get attempt.username).ending = .value user ∧
          (later.provider.get (g.authenticator.accountOf (session user))).ending = .value user ∧
          (later.conditions.Calm → (g.authenticator.authenticate later cache headers).result =
            .ok (some (session user))) := by
  have made := madeOf_of_ofConfig built
  rcases exists_form_of_attempt? made composite tried with ⟨form, side, read, meant, same, named⟩
  have typed : attempt.userType = Provider.typeAt side := congrArg Attempt.userType same
  refine ⟨form, side, read, meant, same, calls_of_login made composite assets sources tried passes typed,
    (handle_of_alike env.exposed_alike assets state).1,
    (handle_of_alike env.exposed_alike assets state).2, ?_, ?_⟩
  · intro header
    rw [← login_of_sources made composite sources typed]
    exact setsCookie_iff assets tried passes
  · intro user opened later cache headers unchanged returns
    rcases Provider.get_of_login named opened with ⟨found, userType, account⟩
    let info := Session.ofIdentity user attempt.username (hostOf request) env.time
    have claimed : g.authenticator.claimed later headers = some info := returns.claimed_eq nonce account
    have known : (later.provider.get (g.authenticator.accountOf info)).ending = .value user := by
      rw [get_of_sources made composite (unchanged.trans sources) userType]
      exact found
    refine ⟨?_, found, known, fun calm => ?_⟩
    · exact calls_of_check made composite (unchanged.trans sources) userType claimed returns.works
        returns.missing
    · apply Authenticator.authenticate_of_vouched calm claimed
      rw [known]
      rfl

/-- A listed user whose account looks like one of the directory. -/
def lookalike : LocalUser :=
  { LocalUser.blank with account := "ldap:alice", password := "secret" }

def twoSourcesConfig : Config :=
  { wikiConfig with
    authType := .composite
    users := { ignoreAccountSuffix := "@home", locals := [lookalike], directory := [] } }

/-- A gateway whose users are listed or in a directory. -/
def twoSources : Gateway :=
  { wikiGateway with
    config := twoSourcesConfig
    authenticator := { wikiGateway.authenticator with prefixed := true } }

/-- A directory that finds everybody and accepts every password. -/
def lenientDirectory : Directory.Source where
  service := {
    search := fun _ => .ok [{ dn := "cn=alice", attributes := [] }]
    bind := fun _ _ => .ok () }
  settings := LdapConfig.standard
  users := []

/-- The surroundings with the two sources. -/
def besideDirectory (env : Surroundings) : Surroundings :=
  { env with provider := .sources .standard [lookalike] lenientDirectory }

theorem rechecked_where_logged_in_lookalike :
    let request := formRequest "user_type=local&username=+ldap:alice&password=secret"
    let exposed := twoSources.handle .empty (besideDirectory atHome).exposed .start request
    let session := Session.ofIdentity lookalike.identity "ldap:alice" (hostOf request) .epoch
    let token := twoSources.authenticator.cookie.issue 0 atHome.nonce session
    let headers : Net.HeaderMap :=
      { fields := [(.cookie, .ofVisible (twoSources.authenticator.cookie.pairText token.text))] }
    exposed.calls = [.ask "1" "login" "ldap:alice"] ∧
    (∃ response header, exposed.response = .ok response ∧
      header ∈ response.headers.getAll .setCookie ∧
      twoSources.authenticator.cookie.setHeader token.text = .ok header) ∧
    (twoSources.authenticator.authenticate (besideDirectory nextDay).exposed .empty headers).calls =
      [.ask "1" "get" "ldap:alice"] ∧
    (twoSources.authenticator.authenticate (besideDirectory nextDay) .empty headers).result =
      .ok (some session) := by
  intro request exposed session token headers
  have tried : twoSources.attempt? request =
      some { userType := "local", username := "ldap:alice", password := "secret" } := by decide +kernel
  have passes : twoSources.Passes (besideDirectory atHome) .start
      { userType := "local", username := "ldap:alice", password := "secret" } := ⟨by decide, rfl⟩
  have built : ofConfig twoSourcesConfig = .ok twoSources := rfl
  rcases rechecked_where_logged_in built rfl rfl rfl .empty tried passes with
    ⟨form, side, -, -, same, asked, alike, -, set, rechecked⟩
  have listed : side = .first := by
    cases side with
    | first => rfl
    | second => exact absurd (Attempt.mk.inj same).1 (by decide)
  subst listed
  have first : [lookalike].find? (·.account = lookalike.account) = some lookalike := by decide
  have opened : Ending.ofExcept (LocalUser.login .standard [lookalike] "ldap:alice" "secret") =
      .value lookalike.identity :=
    Ending.ofExcept_eq_value_iff.mpr (LocalUser.login_of_stores first rfl (.plain (by decide) rfl))
  have clean : twoSources.authenticator.cookie.CleanName := by decide
  have domainless : ∀ text, twoSources.authenticator.cookie.domain = some text →
      (Net.HeaderValue.ofText? text).isSome = true :=
    fun _ named => absurd named (by simp [twoSources, wikiGateway])
  rcases SessionCookie.setHeader_eq_ok clean domainless token with ⟨header, written, -⟩
  rcases (set header).mpr ⟨_, opened, written⟩ with ⟨response, answered, member⟩
  have lines : headers.getAll .cookie =
      [] ++ .ofVisible (twoSources.authenticator.cookie.pairText token.text) :: [] := rfl
  have brings := SessionCookie.brings_of_line clean token lines
    fun _ member => absurd member List.not_mem_nil
  rcases rechecked _ opened (besideDirectory nextDay) .empty headers rfl {
    brings := SessionCookie.tokenIn_of_brings clean token brings
    fresh := Or.inr (by decide)
    works := rfl
    missing := rfl } with ⟨calls, -, -, result⟩
  exact ⟨asked, ⟨response, header, alike.trans answered, member, written⟩, calls,
    result fun _ _ => rfl⟩

end Gateway

end AuthGateway
