import AuthGateway.Net.Message
import AuthGateway.Text.Blank
import AuthGateway.Text.Split

namespace AuthGateway

/-!
What a request says about itself: the host that it is for, the address of its client, whether it
asks for another protocol, and whether it is for a static asset.
-/

open Net (HeaderMap HeaderName HeaderValue Request SocketAddress Uri)

namespace Inbound

/-- Whether `part` stands somewhere in the text. -/
def mentions (part : List Char) : List Char → Bool
  | [] => part.isEmpty
  | c :: rest => part.isPrefixOf (c :: rest) || mentions part rest

/-- Whether the request asks to change the protocol: the connection is to be upgraded, and a
protocol is named. -/
def isUpgrade (headers : HeaderMap) : Bool :=
  let connection := (headers.getAll .connection).filterMap HeaderValue.text?
  let asked := connection.any fun value =>
    mentions "upgrade".toList (Text.lowerAscii value).toList
  asked && ((headers.text? .upgrade).any fun value => Text.trim value ≠ "")

/-- The first entry of the header that carries client addresses. -/
def namedClient (headers : HeaderMap) (name : HeaderName) : String :=
  match headers.text? name with
  | some value => Text.trim ((Text.parts ',' value).headD "")
  | none => ""

/-- The address of the client: from the header that is configured for it, else of the far end of
the connection, else a dash. -/
def clientIp (headers : HeaderMap) (header : Option HeaderName) (remote : Option SocketAddress) :
    String :=
  let named := match header with
    | some name => namedClient headers name
    | none => ""
  if named ≠ "" then named
  else
    match remote with
    | some address => address.ip.text
    | none => "-"

def assetEndings : List String :=
  [".js", ".css", ".jpeg", ".bmp", ".jpg", ".png", ".gif", ".svg", ".font", ".ico", ".woff2",
    ".ttf"]

/-- Whether a path is that of a static asset, in any case. -/
def isStaticAsset (path : String) : Bool :=
  let path := (Text.lowerAscii path).toList
  assetEndings.any fun ending => ending.toList.isSuffixOf path

/-- The host that a request is for: the one in its header, or else in its target. -/
def host? (headers : HeaderMap) (uri : Uri) : Option String :=
  (headers.text? .host).or uri.authority |>.filter (· ≠ "")

/-- A header as it is recorded: a dash stands for nothing. -/
def shown (headers : HeaderMap) (name : HeaderName) : String :=
  (headers.text? name).getD "-"

end Inbound

end AuthGateway
