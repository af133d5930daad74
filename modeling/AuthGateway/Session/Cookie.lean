import AuthGateway.Crypto.Gcm
import AuthGateway.Error
import AuthGateway.Json.Parser
import AuthGateway.Net.Header
import AuthGateway.Session.Record
import AuthGateway.Text.Base64
import AuthGateway.Text.Blank
import AuthGateway.Text.Integer
import AuthGateway.Text.Quoted
import AuthGateway.Text.Split

namespace AuthGateway

/-!
The session cookie.

A token carries a session record through the browser.  The record is encrypted, so that the
browser cannot read it, and signed together with the name of the cookie and the second of issue,
so that nobody can change it, use it under another name, or use it for longer than its age.
-/

open Net (HeaderMap HeaderName HeaderValue)
open Text (Bytes)

/-- The byte between the parts of a token. -/
def Token.bar : UInt8 := 0x7C

/-- The three parts of a token: the second of issue, the hidden record, and the signature. -/
structure Token where
  issued : Bytes
  sealedText : Bytes
  signature : Bytes
deriving DecidableEq

namespace Token

def bytes (t : Token) : Bytes :=
  t.issued ++ bar :: (t.sealedText ++ bar :: t.signature)

def text (t : Token) : String :=
  Text.Base64.encode Text.Base64.urlSafe t.bytes

/-- The parts up to the first two bars; the signature may hold more of them. -/
def ofBytes? (raw : Bytes) : Option Token :=
  match Text.splitAtMost bar 2 raw with
  | [issued, sealedText, signature] => some { issued, sealedText, signature }
  | _ => none

/-- The token that a text spells, white space around it aside. -/
def parse? (s : String) : Option Token :=
  (Text.Base64.decode? Text.Base64.urlSafe (Text.trim s)).bind ofBytes?

/-- What is signed: the name of the cookie, the second of issue and the hidden record. -/
def signedBytes (name issued sealedText : Bytes) : Bytes :=
  name ++ bar :: (issued ++ bar :: sealedText)

end Token

structure SessionCookie where
  name : String
  domain : Option String
  /-- Seconds that a token lasts; without limit unless positive. -/
  maxAge : Int
  /-- The key of the signature. -/
  hashKey : Bytes
  /-- The key of the encryption, of 32 bytes. -/
  blockKey : Bytes
deriving DecidableEq

namespace SessionCookie

def sign (c : SessionCookie) (issued sealedText : Bytes) : Bytes :=
  Crypto.Sha256.hmac c.hashKey (Token.signedBytes (Text.encode c.name) issued sealedText)

/-- The nonce and the encrypted record, in characters. -/
def hide (c : SessionCookie) (nonce plaintext : Bytes) : Bytes :=
  let encrypted := Crypto.Gcm.encrypt c.blockKey nonce plaintext
  Text.encode (Text.Base64.encode Text.Base64.urlSafe (nonce ++ encrypted))

/-- The record behind a hidden text: more than a nonce, and not changed since. -/
def reveal? (c : SessionCookie) (sealedText : Bytes) : Option Bytes := do
  let text ← Text.decode? sealedText
  let raw ← Text.Base64.decode? Text.Base64.urlSafe text
  if raw.length ≤ Crypto.Gcm.nonceLength then none
  else
    Crypto.Gcm.decrypt? c.blockKey (raw.take Crypto.Gcm.nonceLength)
      (raw.drop Crypto.Gcm.nonceLength)

def plaintext (info : Session) : Bytes :=
  Text.encode info.toJson.compact

/-- The token that is issued for a record in the second `now`. -/
def issue (c : SessionCookie) (now : Int) (nonce : Bytes) (info : Session) : Token :=
  let issued := Text.encode (toString now)
  let sealedText := c.hide nonce (plaintext info)
  { issued, sealedText, signature := c.sign issued sealedText }

def encode (c : SessionCookie) (now : Int) (nonce : Bytes) (info : Session) : String :=
  (c.issue now nonce info).text

/-- Whether a token that was issued then is too old now. -/
def isStale (c : SessionCookie) (now issued : Int) : Bool :=
  c.maxAge > 0 && issued < now - c.maxAge

/-- The record in a token that is signed, not too old, and complete. -/
def accept? (c : SessionCookie) (now : Int) (t : Token) : Option Session := do
  let issuedText ← Text.decode? t.issued
  if t.signature ≠ c.sign t.issued t.sealedText then none
  else
    let issued ← Text.int64? issuedText
    if c.isStale now issued then none
    else
      let record ← c.reveal? t.sealedText
      (Json.parse? record).bind Session.ofJson?

def decode (c : SessionCookie) (now : Int) (token : String) : Except CookieError Session :=
  match (Token.parse? token).bind (c.accept? now) with
  | some info => .ok info
  | none => .error .invalidToken

/-- The names and values in a line of cookies; what is not a pair is passed over. -/
def pairs (line : String) : List (String × String) :=
  (Text.parts ';' line).filterMap fun part => Text.cut? '=' (Text.trim part)

def unquote (value : String) : String :=
  String.ofList (Text.trimBy (· == '"') value.toList)

/-- The token of the first cookie of this name, in all lines that are text. -/
def tokenIn (c : SessionCookie) (headers : HeaderMap) : Option String :=
  let lines := (headers.getAll .cookie).filterMap HeaderValue.text?
  match (lines.flatMap pairs).find? (·.1 = c.name) with
  | some (_, value) => some (unquote value) |>.filter (· ≠ "")
  | none => none

def sessionIn (c : SessionCookie) (now : Int) (headers : HeaderMap) : Except CookieError Session :=
  match c.tokenIn headers with
  | some token => c.decode now token
  | none => .error .invalidToken

/-- The text of a cookie that is to be kept for so many seconds. -/
def cookieText (c : SessionCookie) (value : String) (keep : Option Int) : String :=
  let domain := match c.domain with
    | some domain => "; Domain=" ++ domain
    | none => ""
  let age := match keep with
    | some seconds => "; Max-Age=" ++ toString seconds
    | none => ""
  c.name ++ "=" ++ value ++ "; Path=/" ++ domain ++ age ++ "; HttpOnly"

/-- The header value, if name and domain are legal in one. -/
def headerFor (c : SessionCookie) (value : String) (keep : Option Int) :
    Except CookieError HeaderValue :=
  match HeaderValue.ofText? (c.cookieText value keep) with
  | some header => .ok header
  | none => .error (.encoding "failed to parse header value")

/-- Stores a token; without an age it lasts as long as the browser runs. -/
def setHeader (c : SessionCookie) (token : String) : Except CookieError HeaderValue :=
  c.headerFor token (if c.maxAge > 0 then some c.maxAge else none)

def clearHeader (c : SessionCookie) : Except CookieError HeaderValue :=
  c.headerFor "" (some 0)

/-- A line for diagnostics, which shows no key. -/
def summary (c : SessionCookie) : String :=
  let domain := match c.domain with
    | some domain => "Some(" ++ Text.quoted domain ++ ")"
    | none => "None"
  "CookieManager \x7b name: " ++ Text.quoted c.name ++ ", domain: " ++ domain
    ++ ", max_age: " ++ toString c.maxAge ++ ", .. \x7d"

end SessionCookie

end AuthGateway
