import AuthGateway.Json.Printer
import AuthGateway.Net.Header
import AuthGateway.Net.Ip
import AuthGateway.Net.Uri

namespace AuthGateway

namespace Net

/-!
Requests and responses with their bodies.  The body of a request may break off.
-/

structure Request where
  method : String
  uri : Uri
  headers : HeaderMap
  body : ByteArray
  /-- The far end of the connection, if it is known. -/
  remote : Option SocketAddress
  /-- Whether the connection can be taken over for another protocol. -/
  takeover : Bool
  /-- Why no more of the body can be read than there is, unless it is complete. -/
  bodyFault : Option String := none

structure Response where
  status : Nat
  headers : HeaderMap
  body : ByteArray

namespace Response

/-- A status and nothing else. -/
def empty (status : Nat) : Response where
  status := status
  headers := .empty
  body := .empty

def typed (status : Nat) (contentType : String) (body : ByteArray) : Response where
  status := status
  headers := HeaderMap.empty.insert .contentType (HeaderValue.ofVisible contentType)
  body := body

def html (status : Nat) (body : String) : Response :=
  typed status "text/html; charset=utf-8" body.toUTF8

def plain (status : Nat) (body : String) : Response :=
  typed status "text/plain; charset=utf-8" body.toUTF8

def json (status : Nat) (body : Json) : Response :=
  typed status "application/json" body.compact.toUTF8

def withHeader (r : Response) (name : HeaderName) (value : HeaderValue) : Response :=
  { r with headers := r.headers.insert name value }

/-- Sends the client to another address, which it is to ask for with GET. -/
def seeOther (location : String) : Response :=
  (empty 303).withHeader .location (HeaderValue.ofVisible location)

/-- The number of bytes in a body, as a header says it. -/
def lengthValue (body : ByteArray) : HeaderValue :=
  HeaderValue.ofVisible (toString body.size)

/-- The response with the length of its body, unless it says one. -/
def sized (r : Response) : Response :=
  match r.headers.get? .contentLength with
  | some _ => r
  | none => r.withHeader .contentLength (lengthValue r.body)

/-- The response with the methods that would be accepted, unless it names some. -/
def allowing (r : Response) (methods : String) : Response :=
  match r.headers.get? .allow with
  | some _ => r
  | none => r.withHeader .allow (HeaderValue.ofVisible methods)

def withoutBody (r : Response) : Response :=
  { r with body := .empty }

end Response

end Net

end AuthGateway
