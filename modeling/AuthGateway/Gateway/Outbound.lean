import AuthGateway.Backend
import AuthGateway.Error
import AuthGateway.Net.Message

namespace AuthGateway

/-!
Requests to backends, and the answers that come back.

A header that is meant for a single connection is never passed on, in either direction.  The
identity headers are those of the gateway, whatever the client has put there.
-/

open Net (HeaderMap HeaderName HeaderValue Request Response Uri Url)

namespace Outbound

/-- The headers that are meant for a single connection. -/
def connectionHeaders : List HeaderName :=
  [.connection, .keepAlive, .proxyAuthenticate, .proxyAuthorization, .te, .trailer,
    .transferEncoding, .upgrade]

/-- The headers that are removed; a change of protocol needs two of them. -/
def removedHeaders (upgrade : Bool) : List HeaderName :=
  if upgrade then connectionHeaders.filter fun name => name ≠ .connection ∧ name ≠ .upgrade
  else connectionHeaders

/-- The headers without those of the connection. -/
def strip (upgrade : Bool) (headers : HeaderMap) : HeaderMap :=
  (removedHeaders upgrade).foldl HeaderMap.remove headers

def hostHeader : HeaderName := ⟨"x-secure-proxy-host", by decide⟩

def accountHeader : HeaderName := ⟨"x-secure-proxy-account", by decide⟩

structure Sender where
  account : String
  clientIp : String
deriving DecidableEq, Repr

/-- The hops so far: those that the request names, and its client. -/
def hops (headers : HeaderMap) (clientIp : String) : String :=
  match headers.text? .xForwardedFor with
  | some previous => if previous = "" then clientIp else previous ++ ", " ++ clientIp
  | none => clientIp

/-- The headers with the hops; hops that are no legal value are left out. -/
def addHops (headers : HeaderMap) (clientIp : String) : HeaderMap :=
  match HeaderValue.ofText? (hops headers clientIp) with
  | some value => headers.insert .xForwardedFor value
  | none => headers

def headers (inbound : HeaderMap) (backend : Backend) (sender : Sender) (upgrade : Bool) :
    Except GatewayError HeaderMap :=
  let kept := strip upgrade ((inbound.remove .host).remove .contentLength)
  let forwarded := addHops kept sender.clientIp
  match HeaderValue.ofText? backend.host with
  | none => .error (.badRequest "invalid backend host")
  | some host =>
    match HeaderValue.ofText? sender.account with
    | none => .error (.badRequest "account cannot be sent as a header")
    | some account =>
      let identified := (forwarded.insert hostHeader host).insert accountHeader account
      .ok (backend.applyEdits identified)

def trimSlashes (path : String) : String :=
  String.ofList (path.toList.reverse.dropWhile (· = '/')).reverse

/-- The address at a backend: the path of the request below the path of the backend. -/
def address (base : Url) (uri : Uri) : Url :=
  (base.withPath (trimSlashes base.path ++ uri.path)).withQuery uri.query

end Outbound

structure OutboundRequest where
  method : String
  address : Url
  headers : HeaderMap
  body : ByteArray

inductive Exchange where
  /-- The whole response has come in time. -/
  | answered (response : Response)
  /-- There is no response: nobody is there, or nothing that can be read comes back. -/
  | unreachable
  /-- The body ends too early. -/
  | broken
  /-- The deadline has passed. -/
  | overdue

namespace Outbound

/-- The written address without the user part, which is not for the eyes of clients. -/
def shownAddress (address : Url) : String :=
  { address with username := "", password := none : Url }.text

/-- The response of a backend, or the error that takes its place. -/
def received (request : OutboundRequest) (limit : Time.Duration) :
    Exchange → Except GatewayError Response
  | .answered response => .ok response
  | .unreachable =>
    .error (.badGateway
      ("error sending request for url (" ++ shownAddress request.address ++ ")"))
  | .broken => .error (.badGateway "error decoding response body")
  | .overdue => .error (.gatewayTimeout limit)

/-- The response as it is passed on whole: without the headers of the connection, and with the
length of its body. -/
def passedOn (response : Response) : Response :=
  { response with
    headers := (strip false response.headers).insert .contentLength
      (Response.lengthValue response.body) }

/-- The response that hands the connection over to another protocol. -/
def switched (response : Response) : Response :=
  { response with headers := strip true response.headers, body := .empty }

end Outbound

end AuthGateway
