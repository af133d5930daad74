import AuthGateway.Config.Validation
import AuthGateway.Gateway.Authenticator
import AuthGateway.Gateway.Inbound
import AuthGateway.Gateway.Page
import AuthGateway.Time.Instant

namespace AuthGateway

/-!
Requests for the services behind the gateway.

Such a request goes through four gates, in this order: it has a valid session, its host is that
of a backend, the user may use this backend, and it can be sent on.  It leaves one access record
behind, unless it is for a static asset and nobody asked for all records.
-/

open Net (HeaderName Request Response)

structure Gateway where
  config : Config
  authenticator : Authenticator
  table : BackendTable
  clientIpHeader : Option HeaderName

namespace Gateway

def loginPage : String := "/secure-proxy/auth"

def loginRedirect : Response :=
  .seeOther loginPage

/-- The greatest body of a request that is sent on, in bytes. -/
def maxBody : Nat := 64 * 1024 * 1024

/-- Why the body of a request cannot be read whole: it is too long, or it breaks off before that. -/
def unreadable? (request : Request) : Option String :=
  if maxBody < request.body.size then some "length limit exceeded" else request.bodyFault

/-- What comes of sending a request on, and the request that was sent. -/
structure Forwarding where
  result : Except Failure Response
  sent : Option OutboundRequest

/-- Nothing is sent. -/
def Forwarding.refused (e : GatewayError) : Forwarding where
  result := .error (.error e)
  sent := none

/-- The request is sent, and its response passed on. -/
def exchange (g : Gateway) (env : Surroundings) (request : OutboundRequest)
    (answer : Response → Response) : Forwarding where
  result :=
    match Outbound.received request g.config.requestTimeout (env.network request) with
    | .ok response => .ok (answer response)
    | .error e => .error (.error e)
  sent := some request

/-- Sends a whole request on and passes the whole response back. -/
def forwardWhole (g : Gateway) (env : Surroundings) (backend : Backend) (request : Request)
    (sender : Outbound.Sender) : Forwarding :=
  match unreadable? request with
  | some reason => .refused (.badRequest ("cannot read request body: " ++ reason))
  | none =>
    match Outbound.headers request.headers backend sender false with
    | .error e => .refused e
    | .ok headers =>
      let outbound := {
        method := request.method
        address := Outbound.address backend.address request.uri
        headers
        body := request.body }
      g.exchange env outbound Outbound.passedOn

/-- The response to a handshake: a change of protocol, or a refusal like any other response. -/
def handshakeAnswer (response : Response) : Response :=
  if response.status = 101 then Outbound.switched response else Outbound.passedOn response

/-- Hands the connection over to the backend, if that agrees before the deadline. -/
def forwardUpgrade (g : Gateway) (env : Surroundings) (backend : Backend) (request : Request)
    (sender : Outbound.Sender) : Forwarding :=
  if !request.takeover then
    .refused (.notImplemented "connection does not support protocol upgrades")
  else
    match Outbound.headers request.headers backend sender true with
    | .error e => .refused e
    | .ok headers =>
      match Time.after? env.conditions.now g.config.requestTimeout with
      | none =>
        { result := .error (.crash "overflow when adding duration to instant"), sent := none }
      | some _ =>
        let outbound := {
          method := request.method
          address := Outbound.address backend.address request.uri
          headers
          body := .empty }
        g.exchange env outbound handshakeAnswer

/-- Sends a request on to the backend of a host. -/
def forward (g : Gateway) (env : Surroundings) (host : String) (request : Request)
    (sender : Outbound.Sender) : Forwarding :=
  match g.table.resolve? host with
  | none => .refused (.badRequest "domain not available")
  | some backend =>
    if Inbound.isUpgrade request.headers then g.forwardUpgrade env backend request sender
    else g.forwardWhole env backend request sender

/-- The name by which a user is told that a host is closed. -/
def shownName (user : Session) : String :=
  if user.name = "" then user.account else user.name

def clientIp (g : Gateway) (request : Request) : String :=
  Inbound.clientIp request.headers g.clientIpHeader request.remote

/-- The host that a request is for; empty if it is for none. -/
def hostOf (request : Request) : String :=
  (Inbound.host? request.headers request.uri).getD ""

/-- What comes of a request of a user.  The host is looked up here for the privilege, and once more
where the request is sent on. -/
def serve (g : Gateway) (env : Surroundings) (user : Session) (request : Request) : Forwarding :=
  let host := hostOf request
  match g.table.resolve? host with
  | none => .refused (.badRequest "domain not available")
  | some backend =>
    if backend.hasPrivilege user then
      g.forward env host request { account := user.account, clientIp := g.clientIp request }
    else .refused (.forbidden host (shownName user))

end Gateway

structure AccessRecord where
  host : String
  path : String
  method : String
  userAgent : String
  clientIp : String
  referer : String
  account : String
  upgrade : Bool
  status : Nat
  /-- The message of the crash that ended the handling, if one did. -/
  crash : Option String
deriving DecidableEq, Repr

namespace AccessRecord

def level (r : AccessRecord) : String :=
  match r.crash with
  | none => "INFO"
  | some _ => "ERROR"

def message (r : AccessRecord) : String :=
  match r.crash with
  | none => "request"
  | some crash => "request panicked: " ++ crash

def toJson (r : AccessRecord) : Json :=
  .record [
    ("account", .text r.account),
    ("client_ip", .text r.clientIp),
    ("host", .text r.host),
    ("level", .text r.level),
    ("message", .text r.message),
    ("method", .text r.method),
    ("path", .text r.path),
    ("referer", .text r.referer),
    ("status", .nat r.status),
    ("upgrade", .bool r.upgrade),
    ("user_agent", .text r.userAgent)]

end AccessRecord

namespace Gateway

/-- The record of a request by this account, answered with this status. -/
def recordOf (g : Gateway) (request : Request) (account : String) (status : Nat)
    (crash : Option String) : AccessRecord where
  host := hostOf request
  path := request.uri.path
  method := request.method
  userAgent := Inbound.shown request.headers .userAgent
  clientIp := g.clientIp request
  referer := Inbound.shown request.headers .referer
  account := account
  upgrade := Inbound.isUpgrade request.headers
  status := status
  crash := crash

/-- Whether an ordinary request leaves a record. -/
def isRecorded (g : Gateway) (request : Request) : Bool :=
  g.config.verbose || !Inbound.isStaticAsset request.uri.path

/-- What comes of a request: the response, the record, the calls of the provider, the request
that was sent on, and the cache. -/
structure Dispatched where
  response : Response
  access : Option AccessRecord
  calls : List Call
  sent : Option OutboundRequest
  cache : Cache

/-- The response and the record of a result; a crash is contained and always recorded. -/
def conclude (g : Gateway) (request : Request) (account : String)
    (result : Except Failure Response) : Response × Option AccessRecord :=
  let ordinary (response : Response) :=
    let access := g.recordOf request account response.status none
    (response, if g.isRecorded request then some access else none)
  match result with
  | .ok response => ordinary response
  | .error (.error e) => ordinary e.response
  | .error (.crash message) =>
    let response := (GatewayError.internal "request handling failed").response
    (response, some (g.recordOf request account response.status (some message)))

def dispatch (g : Gateway) (env : Surroundings) (cache : Cache) (request : Request) :
    Dispatched :=
  let authentication := g.authenticator.authenticate env cache request.headers
  let (account, forwarding) : String × Forwarding :=
    match authentication.result with
    | .error failure => ("-", { result := .error failure, sent := none })
    | .ok none => ("-", { result := .ok loginRedirect, sent := none })
    | .ok (some user) => (user.account, g.serve env user request)
  let (response, access) := g.conclude request account forwarding.result
  { response
    access
    calls := authentication.calls
    sent := forwarding.sent
    cache := authentication.cache }

end Gateway

end AuthGateway
