import AuthGateway.Crypto.Bcrypt
import AuthGateway.Text.Blank
import AuthGateway.Text.Lowercase

namespace AuthGateway

/-!
Checks of a password against its stored form, which is the password itself, its base64, or a
bcrypt hash.
-/

open Text (Bytes)

namespace Password

/-- All bits in which the runs differ, gathered in one byte. -/
def difference (a b : Bytes) : UInt8 :=
  (a.zip b).foldl (fun bits (x, y) => bits ||| (x ^^^ y)) 0

/-- Whether two runs are the same, found without stopping at the first difference. -/
def sameBytes (a b : Bytes) : Bool :=
  a.length == b.length && difference a b == 0

inductive Scheme where
  | plain
  | base64
  | bcrypt
deriving DecidableEq, Repr

/-- The scheme that a tag names in any case; no tag is the plain one. -/
def Scheme.parse? (tag : String) : Option Scheme :=
  let tag := Text.lowerAscii tag
  if tag = "" ∨ tag = "plain" then some .plain
  else if tag = "base64" then some .base64
  else if tag = "bcrypt" then some .bcrypt
  else none

/-- Whether the candidate is the password that is stored in this scheme. -/
def Scheme.verify (scheme : Scheme) (stored candidate : String) : Bool :=
  match scheme with
  | .plain => sameBytes (Text.encode stored) (Text.encode candidate)
  | .base64 =>
    match Text.Base64.decode? Text.Base64.standard (Text.trim stored) with
    | some password => sameBytes password (Text.encode candidate)
    | none => false
  | .bcrypt => Crypto.Bcrypt.verify stored (Text.encode candidate)

/-- Whether the candidate is the stored password; under an unknown tag nothing is. -/
def verify (stored candidate tag : String) : Bool :=
  match Scheme.parse? tag with
  | some scheme => scheme.verify stored candidate
  | none => false

end Password

/-- A way to check a candidate against a stored password under a tag.  There is no result if the
check itself breaks down. -/
abbrev PasswordCheck := String → String → String → Option Bool

/-- The check that knows all schemes, and never breaks down. -/
def PasswordCheck.standard : PasswordCheck :=
  fun stored candidate tag => some (Password.verify stored candidate tag)

end AuthGateway
