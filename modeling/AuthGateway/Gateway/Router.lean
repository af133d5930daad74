import AuthGateway.Gateway.Assets
import AuthGateway.Gateway.Login
import AuthGateway.Login.Flood

namespace AuthGateway

/-!
The whole gateway: which request goes where.

The gateway has a few pages of its own; every other path belongs to the services behind it.  A
page that answers GET answers HEAD with the head of the same response.
-/

open Net (Request Response)

inductive Route where
  | status
  | login
  | loginForm
  | logout
  | health
  /-- A path inside the folder of assets. -/
  | assets (path : String)
  | service
deriving DecidableEq, Repr

namespace Route

def assetsRoot : String := "/secure-proxy/assets"

/-- The path inside the folder of assets, if it is one. -/
def assetPath? (path : String) : Option String :=
  if path = assetsRoot then some "/"
  else if (assetsRoot ++ "/").toList.isPrefixOf path.toList then
    some (String.ofList (path.toList.drop assetsRoot.length))
  else none

def pages : List (String × Route) := [
  ("/secure-proxy", status),
  ("/secure-proxy/auth", login),
  ("/secure-proxy/auth/login", loginForm),
  ("/secure-proxy/auth/logout", logout),
  ("/secure-proxy/health", health)]

def ofPath (path : String) : Route :=
  match pages.lookup path with
  | some route => route
  | none =>
    match assetPath? path with
    | some inner => assets inner
    | none => service

end Route

namespace Gateway

/-- What lasts from one request to the next. -/
structure State where
  cache : Cache
  flood : Flood

def State.start : State where
  cache := .empty
  flood := .start

structure Handled where
  /-- The response, or the message of a crash that nothing has contained. -/
  response : Except String Response
  access : Option AccessRecord
  calls : List Call
  sent : Option OutboundRequest
  state : State

/-- A response of the gateway itself, which needs nobody else. -/
def Handled.own (state : State) (response : Response) : Handled where
  response := .ok response
  access := none
  calls := []
  sent := none
  state := state

/-- The response to a failure outside of a service; a crash is not contained there. -/
def settle : Except Failure Response → Except String Response
  | .ok response => .ok response
  | .error (.error e) => .ok e.response
  | .error (.crash message) => .error message

def wrongMethod : Response :=
  .empty 405

/-- The response of a page that answers GET and, with its head, HEAD. -/
def readOnly (method : String) (page : Response) : Response :=
  if method = "GET" then page.sized
  else if method = "HEAD" then page.sized.withoutBody
  else (wrongMethod.sized).allowing "GET,HEAD"

def version : String := "0.1.0"

def health : Response :=
  .json 200 (.record [("status", .text "ok"), ("version", .text version)])

/-- Whether the method only reads. -/
def isReading (method : String) : Bool :=
  method = "GET" || method = "HEAD"

/-- The status page, for users only. -/
def handleStatus (g : Gateway) (env : Surroundings) (state : State) (request : Request) :
    Handled :=
  let authentication := g.authenticator.authenticate env state.cache request.headers
  let finish (response : Response) : Response :=
    if request.method = "GET" then response.sized
    else if request.method = "HEAD" then response.sized.withoutBody
    else response.sized.allowing "GET,HEAD"
  let response := match authentication.result with
    | .error failure => settle (.error failure)
    | .ok none => .ok loginRedirect
    | .ok (some user) =>
      .ok (if isReading request.method then .html 200 (Page.status user).render else wrongMethod)
  { response := response.map finish
    access := none
    calls := authentication.calls
    sent := none
    state := { state with cache := authentication.cache } }

def handleForm (g : Gateway) (env : Surroundings) (state : State) (request : Request) : Handled :=
  let finish (response : Response) : Response :=
    if request.method = "POST" then response.sized else response.sized.allowing "GET,HEAD,POST"
  let (passed, flood) := state.flood.check g.config.loginRatePerMinute env.floodClock
  let state := { state with flood }
  if !passed then
    .own state (finish
      (GatewayError.tooManyRequests "too many login requests, retry shortly").response)
  else if request.method = "POST" then
    match LoginForm.ofRequest request with
    | .error response => .own state (finish response)
    | .ok form =>
      let login := g.login env state.cache form (hostOf request)
      { response := (settle login.result).map finish
        access := none
        calls := login.calls
        sent := none
        state := { state with cache := login.cache } }
  else .own state (finish wrongMethod)

def handleService (g : Gateway) (env : Surroundings) (state : State) (request : Request) :
    Handled :=
  let dispatched := g.dispatch env state.cache request
  { response := .ok dispatched.response.sized
    access := dispatched.access
    calls := dispatched.calls
    sent := dispatched.sent
    state := { state with cache := dispatched.cache } }

def handle (g : Gateway) (assets : Assets) (env : Surroundings) (state : State)
    (request : Request) : Handled :=
  match Route.ofPath request.uri.path with
  | .status => g.handleStatus env state request
  | .login => .own state (readOnly request.method (g.loginView request.uri.query))
  | .loginForm =>
    if isReading request.method then
      .own state (readOnly request.method (g.loginView request.uri.query))
    else g.handleForm env state request
  | .logout => .own state (readOnly request.method g.logout)
  | .health => .own state (readOnly request.method health)
  | .assets path => .own state (assets.serve request.method request.uri path request.headers)
  | .service => g.handleService env state request

def ofConfig (c : Config) : Except ConfigError Gateway :=
  match c.hashKey with
  | .error e => .error e
  | .ok hashKey =>
    match c.blockKey with
    | .error e => .error e
    | .ok blockKey =>
      match c.backendTable with
      | .error e => .error e
      | .ok table =>
        .ok {
          config := c
          authenticator := {
            cookie := {
              name := c.session.cookieName
              domain := c.session.cookieDomain
              maxAge := c.session.maxAge
              hashKey
              blockKey }
            prefixed := c.authType = .composite }
          table
          clientIpHeader := c.clientIpHeaderName }

end Gateway

end AuthGateway
