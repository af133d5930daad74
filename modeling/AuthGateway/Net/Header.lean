import AuthGateway.Text.Blank
import AuthGateway.Text.Bytes
import AuthGateway.Text.Lowercase

namespace AuthGateway

namespace Net

/-!
Header fields of HTTP messages.

A name is a token in lower case and a value is a run of bytes without controls; both are legal
by construction.  A header map lists its fields in the order in which they came, and a name may
have any number of values.
-/

open Text (Bytes)

def isTokenChar (c : Char) : Bool :=
  c.isAlphanum || "!#$%&'*+-.^_`|~".toList.contains c

/-- A field name, a token without capitals. -/
structure HeaderName where
  text : String
  legal : (text ≠ "" ∧ text.toList.all fun c => isTokenChar c && !c.isUpper) = true
deriving DecidableEq

namespace HeaderName

/-- The most characters of a name that is read. -/
def maxLength : Nat := 65535

/-- The name that a text spells in any case, if it is a token that is not too long. -/
def parse? (s : String) : Option HeaderName :=
  let text := Text.lowerAscii s
  if h : text ≠ "" ∧ text.toList.all fun c => isTokenChar c && !c.isUpper then
    if text.toList.length ≤ maxLength then some { text, legal := by simpa using h } else none
  else none

def acceptRanges : HeaderName := ⟨"accept-ranges", by decide⟩
def accept : HeaderName := ⟨"accept", by decide⟩
def allow : HeaderName := ⟨"allow", by decide⟩
def connection : HeaderName := ⟨"connection", by decide⟩
def contentLength : HeaderName := ⟨"content-length", by decide⟩
def contentRange : HeaderName := ⟨"content-range", by decide⟩
def contentType : HeaderName := ⟨"content-type", by decide⟩
def cookie : HeaderName := ⟨"cookie", by decide⟩
def host : HeaderName := ⟨"host", by decide⟩
def keepAlive : HeaderName := ⟨"keep-alive", by decide⟩
def location : HeaderName := ⟨"location", by decide⟩
def proxyAuthenticate : HeaderName := ⟨"proxy-authenticate", by decide⟩
def proxyAuthorization : HeaderName := ⟨"proxy-authorization", by decide⟩
def range : HeaderName := ⟨"range", by decide⟩
def referer : HeaderName := ⟨"referer", by decide⟩
def setCookie : HeaderName := ⟨"set-cookie", by decide⟩
def te : HeaderName := ⟨"te", by decide⟩
def trailer : HeaderName := ⟨"trailer", by decide⟩
def transferEncoding : HeaderName := ⟨"transfer-encoding", by decide⟩
def upgrade : HeaderName := ⟨"upgrade", by decide⟩
def userAgent : HeaderName := ⟨"user-agent", by decide⟩
def xForwardedFor : HeaderName := ⟨"x-forwarded-for", by decide⟩

end HeaderName

/-- A byte that a field value may hold: a tab, or anything but a control. -/
def isFieldByte (b : UInt8) : Bool :=
  b == 0x09 || (0x20 ≤ b && b != 0x7F)

/-- A byte that reads as text: a tab or visible ASCII. -/
def isVisibleByte (b : UInt8) : Bool :=
  b == 0x09 || (0x20 ≤ b && b < 0x7F)

structure HeaderValue where
  bytes : Bytes
  legal : bytes.all isFieldByte = true
deriving DecidableEq

namespace HeaderValue

/-- The value of these bytes, if all of them are legal. -/
def ofBytes? (bytes : Bytes) : Option HeaderValue :=
  if h : bytes.all isFieldByte = true then some { bytes, legal := h } else none

def ofText? (s : String) : Option HeaderValue :=
  ofBytes? (Text.encode s)

/-- The value of the characters of a text that are legal; the others are left out. -/
def ofVisible (s : String) : HeaderValue where
  bytes := (Text.encode s).filter isFieldByte
  legal := by simp

/-- The value as text, which only visible ASCII has. -/
def text? (v : HeaderValue) : Option String :=
  if v.bytes.all isVisibleByte then
    some (Text.latin1 v.bytes)
  else none

end HeaderValue

/-- The fields of a message, in the order in which they came. -/
structure HeaderMap where
  fields : List (HeaderName × HeaderValue)
deriving DecidableEq

namespace HeaderMap

def empty : HeaderMap where
  fields := []

def getAll (m : HeaderMap) (name : HeaderName) : List HeaderValue :=
  (m.fields.filter (·.1 = name)).map (·.2)

def get? (m : HeaderMap) (name : HeaderName) : Option HeaderValue :=
  (m.getAll name).head?

def text? (m : HeaderMap) (name : HeaderName) : Option String :=
  (m.get? name).bind HeaderValue.text?

def append (m : HeaderMap) (name : HeaderName) (value : HeaderValue) : HeaderMap where
  fields := m.fields ++ [(name, value)]

def remove (m : HeaderMap) (name : HeaderName) : HeaderMap where
  fields := m.fields.filter (·.1 ≠ name)

def insert (m : HeaderMap) (name : HeaderName) (value : HeaderValue) : HeaderMap :=
  (m.remove name).append name value

end HeaderMap

end Net

end AuthGateway
