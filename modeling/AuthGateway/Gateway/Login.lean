import AuthGateway.Gateway.Dispatch
import AuthGateway.Login.Throttle
import AuthGateway.Text.Form

namespace AuthGateway

/-!
The login form: what it holds, and what comes of sending it.

The name that is checked is the typed one without blanks around it and without the configured
ending.  The throttle counts attempts under that name, and every failed login of a user looks the
same from outside.
-/

open Net (HeaderMap Request Response)
open Text (Bytes)

structure LoginForm where
  userType : String
  username : String
  password : String
deriving DecidableEq, Repr

namespace LoginForm

def fieldNames : List String :=
  ["user_type", "username", "password"]

/-- The form in encoded bytes, or the field that it gives twice. -/
def parse (bytes : Bytes) : Except String LoginForm :=
  let pairs := Text.Form.decodePairs bytes
  match Text.Form.repeated? fieldNames pairs with
  | some name => .error name
  | none =>
    .ok {
      userType := Text.Form.value "user_type" pairs
      username := Text.Form.value "username" pairs
      password := Text.Form.value "password" pairs }

/-- The greatest form, in bytes. -/
def maxSize : Nat := 2 * 1024 * 1024

def contentType : String := "application/x-www-form-urlencoded"

def isForm (headers : HeaderMap) : Bool :=
  match headers.text? .contentType with
  | some value => contentType.toList.isPrefixOf value.toList
  | none => false

/-- What is said of a field that is given twice. -/
def duplicate (name : String) : String :=
  "duplicate field `" ++ name ++ "`"

/-- The form in a request, or the response that says what is wrong with it. -/
def ofRequest (request : Request) : Except Response LoginForm :=
  if !isForm request.headers then
    .error (.plain 415
      ("Form requests must have `Content-Type: " ++ contentType ++ "`"))
  else if maxSize < request.body.size then
    .error (.plain 413 "Failed to buffer the request body: length limit exceeded")
  else
    match request.bodyFault with
    | some reason => .error (.plain 400 ("Failed to buffer the request body: " ++ reason))
    | none =>
      match parse request.body.data.toList with
      | .ok form => .ok form
      | .error name => .error (.plain 422 ("Failed to deserialize form body: " ++ duplicate name))

end LoginForm

namespace Page.LoginView

def fieldNames : List String :=
  ["error", "username", "user_type"]

/-- What the query of the login page asks to show, or the field that it gives twice. -/
def parse (bytes : Bytes) : Except String LoginView :=
  let pairs := Text.Form.decodePairs bytes
  match Text.Form.repeated? fieldNames pairs with
  | some name => .error name
  | none =>
    .ok {
      error := Text.Form.value "error" pairs
      username := Text.Form.value "username" pairs
      userType := Text.Form.value "user_type" pairs }

end Page.LoginView

namespace Gateway

def loginView (g : Gateway) (query : Option String) : Response :=
  match Page.LoginView.parse (Text.encode (query.getD "")) with
  | .ok view => .html 200 (Page.login g.config.authType view).render
  | .error name =>
    .plain 400 ("Failed to deserialize query string: " ++ LoginForm.duplicate name)

/-- The address of the login page that shows again what was typed, and a message. -/
def retryAddress (username userType message : String) : String :=
  loginPage ++ "?username=" ++ Text.Percent.encodeComponent username
    ++ "&user_type=" ++ Text.Percent.encodeComponent userType
    ++ "&error=" ++ Text.Percent.encodeComponent message

def retry (username userType message : String) : Response :=
  .seeOther (retryAddress username userType message)

/-- The name that is handed on: without blanks around it and without the configured ending. -/
def normalName (ending typed : String) : String :=
  let name := Text.trim typed
  if ending = "" then name else (Text.dropSuffix? ending name).getD name

/-- The kind of the user: the configured one, or the one that was asked for if it is known. -/
def userTypeOf? (authType : AuthType) (asked : String) : Option String :=
  match authType.fixedUserType? with
  | some userType => some userType
  | none =>
    if asked = LocalUser.userType ∨ asked = Directory.Source.userType then some asked else none

/-- The name under which the provider knows the user. -/
def providerAccount (authType : AuthType) (userType username : String) : String :=
  if authType = .composite then userType ++ ":" ++ username else username

/-- What comes of a login: the response, the calls of the provider, and the cache. -/
structure LoginResult where
  result : Except Failure Response
  calls : List Call
  cache : Cache

def openSession (g : Gateway) (env : Surroundings) (info : Session) : Except GatewayError Response :=
  let cookie := g.authenticator.cookie
  match cookie.setHeader (cookie.encode env.time.unixSeconds env.nonce info) with
  | .error e => .error (.ofCookie e)
  | .ok header => .ok ((Response.seeOther "/").withHeader .setCookie header)

/-- Asks the provider about a user who may try, and counts a failure. -/
def tryLogin (g : Gateway) (env : Surroundings) (cache : Cache)
    (userType username password host : String) : LoginResult :=
  let answer := env.provider.login (providerAccount g.config.authType userType username) password
  match answer.ending with
  | .crashed message => { result := .error (.crash message), calls := answer.calls, cache }
  | .refused _ =>
    let (_, cache) := (Throttle.record userType username).run env.conditions cache
    { result := .ok (retry username userType "invalid username or password")
      calls := answer.calls
      cache }
  | .value user =>
    let info := Session.ofIdentity user username host env.time
    let result := match g.openSession env info with
      | .ok response => .ok response
      | .error e => .error (.error e)
    { result, calls := answer.calls, cache }

def login (g : Gateway) (env : Surroundings) (cache : Cache) (form : LoginForm) (host : String) :
    LoginResult :=
  let username := normalName g.config.users.ignoreAccountSuffix form.username
  let password := Text.trim form.password
  let asked := Text.trim form.userType
  let answer (response : Response) : LoginResult := { result := .ok response, calls := [], cache }
  if username = "" ∨ password = "" then
    answer (retry username asked "username and password are required")
  else
    match userTypeOf? g.config.authType asked with
    | none => answer (retry username asked "invalid request")
    | some userType =>
      let (allowed, cache) := (Throttle.check userType username).run env.conditions cache
      match allowed with
      | .ok () => g.tryLogin env cache userType username password host
      | .error (.tooManyAttempts retryAfter) =>
        let message := (StoreError.tooManyAttempts retryAfter).message
        { result := .ok (retry username userType message), calls := [], cache }
      | .error (.cache e) =>
        { result := .error (.error (.ofCache e)), calls := [], cache }

def logout (g : Gateway) : Response :=
  match g.authenticator.cookie.clearHeader with
  | .ok header => (Response.seeOther "/").withHeader .setCookie header
  | .error e => (GatewayError.ofCookie e).response

end Gateway

end AuthGateway
