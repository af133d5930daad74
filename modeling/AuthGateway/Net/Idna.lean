import AuthGateway.Net.Idna.Direction
import AuthGateway.Net.Idna.Joining
import AuthGateway.Net.Idna.Mapping
import AuthGateway.Net.Idna.Marks
import AuthGateway.Text.Punycode
import AuthGateway.Text.Split

namespace AuthGateway

namespace Net

namespace Idna

open Text (Bytes)

/-!
International domain names: every domain has one form in ASCII, in which a label with other
characters stands behind `xn--`.  Labels that come in that form are read, so that they are held
to the same rules as those that come in plain characters.
-/

/-- A character that no domain may hold. -/
def isForbidden (c : Char) : Bool :=
  c.toNat ≤ 0x20 || c.toNat = 0x7F || "#/:<>?@[\\]^|%".toList.contains c

def isPlain (c : Char) : Bool :=
  c.toNat < Text.Punycode.firstCode

/-- What announces a label that is written in ASCII only. -/
def announcement : List Char := "xn--".toList

/-- The most characters behind `xn--` that are read. -/
def longestRead : Nat := 2000

/-- The most characters of a label that are written behind `xn--`. -/
def longestWritten : Nat := 1000

/-- The name that a label stands for.  A label behind `xn--` must stand for a name that needs
it, and that would be written the same way. -/
def nameOf? (label : List Char) : Option (List Char) :=
  if announcement.isPrefixOf label then do
    let body := label.drop announcement.length
    if ¬ body.all isPlain ∨ longestRead < body.length then none
    let name ← Text.Punycode.decode? body
    if name.all isPlain ∨ write? name ≠ some name then none
    return name
  else some label

/-- Whether a name may be a label: no mark begins it, and its invisible characters show. -/
def isLabel (name : List Char) : Bool :=
  !(name.head?.any marks.contains) && joinersShow [] name

def labelOf? (name : List Char) : Option (List Char) :=
  if name.all isPlain then some name
  else if longestWritten < name.length then none
  else some (announcement ++ Text.Punycode.encode name)

/-- The labels of a domain in ASCII, with dots between them. -/
def labels? (domain : List Char) : Option (List Char) := do
  let domain ← write? domain
  let names ← (Text.splitAll '.' domain).mapM nameOf?
  if ¬ names.all isLabel then none
  if names.any (·.any isRightward) ∧ ¬ names.all isOneWay then none
  let labels ← names.mapM labelOf?
  return List.intercalate ['.'] labels

/-- Whether a label comes behind `xn--` in some case. -/
def isAnnounced (label : List Char) : Bool :=
  announcement.isPrefixOf (label.map Char.toLower)

/-- Whether a domain is in ASCII as it comes, but for the case of its letters. -/
def isPlainDomain (domain : List Char) : Bool :=
  domain.all isPlain && !(Text.splitAll '.' domain).any isAnnounced

def domain? (domain : List Char) : Option (List Char) :=
  if isPlainDomain domain then some (domain.map Char.toLower) else labels? domain

def toAscii? (bytes : Bytes) : Option String := do
  let text ← Text.decode? bytes
  let ascii ← domain? text.toList
  if ascii.any isForbidden then none
  return String.ofList ascii

end Idna

end Net

end AuthGateway
