import AuthGateway.Text.Lowercase
import AuthGateway.Text.Split

namespace AuthGateway

namespace Net

/-!
The target of a request: a path with a query, a full address with a scheme, an authority by
itself, or the single star.

Only the characters are checked and the parts are told apart; nothing is decoded and nothing is
resolved.
-/

/-- The parts of a request target that the gateway looks at. -/
structure Uri where
  scheme : Option String
  authority : Option String
  path : String
  query : Option String
deriving DecidableEq, Repr

namespace Uri

def isPathChar (c : Char) : Bool :=
  let n := c.toNat
  n == 0x21 || n == 0x22 || (0x24 ≤ n && n ≤ 0x3B) || n == 0x3D || (0x40 ≤ n && n ≤ 0x5F)
    || 0x61 ≤ n

def isQueryChar (c : Char) : Bool :=
  let n := c.toNat
  n == 0x21 || (0x24 ≤ n && n ≤ 0x3B) || n == 0x3D || 0x3F ≤ n

/-- A character that means nothing in particular in an authority. -/
def isAuthorityChar (c : Char) : Bool :=
  c.isAlphanum || "!$&'()*+,-.;=_~".toList.contains c

def isSchemeChar (c : Char) : Bool :=
  c.isAlphanum || c == '+' || c == '-' || c == '.'

/-- A path and the query behind its question mark; a fragment is dropped. -/
def pathAndQuery? (cs : List Char) : Option (String × Option String) :=
  let shown := cs.takeWhile (· ≠ '#')
  let path := shown.takeWhile (· ≠ '?')
  if ¬ path.all isPathChar then none
  else
    match shown.drop path.length with
    | [] => some (String.ofList path, none)
    | _ :: query =>
      if query.all isQueryChar then some (String.ofList path, some (String.ofList query)) else none

/-- What has been seen of an authority; a user part and a bracketed host each start the count of
colons and percent signs anew. -/
structure AuthorityScan where
  colons : Nat
  opened : Bool
  closed : Bool
  percent : Bool
  /-- The last character was the at sign behind a user part. -/
  atEnd : Bool

def AuthorityScan.step? (s : AuthorityScan) (c : Char) : Option AuthorityScan :=
  let s := { s with atEnd := false }
  if c = ':' then if 8 ≤ s.colons then none else some { s with colons := s.colons + 1 }
  else if c = '[' then if s.percent || s.opened then none else some { s with opened := true }
  else if c = ']' then
    if !s.opened || s.closed then none
    else some { s with closed := true, colons := 0, percent := false }
  else if c = '@' then some { s with colons := 0, percent := false, atEnd := true }
  else if c = '%' then some { s with percent := true }
  else if isAuthorityChar c then some s
  else none

/-- An authority: paired brackets, one colon for a service at most, percent signs in the user part only, and
something behind that part. -/
def authority? (cs : List Char) : Option String := do
  let start : AuthorityScan :=
    { colons := 0, opened := false, closed := false, percent := false, atEnd := false }
  let s ← cs.foldlM AuthorityScan.step? start
  if cs ≠ [] ∧ s.opened = s.closed ∧ s.colons ≤ 1 ∧ ¬ s.percent ∧ ¬ s.atEnd then
    some (String.ofList cs)
  else none

def isAuthorityEnd (c : Char) : Bool :=
  c == '/' || c == '?' || c == '#'

/-- The scheme before `://`, and what follows. -/
def scheme? (cs : List Char) : Option (List Char × List Char) :=
  let scheme := cs.takeWhile isSchemeChar
  match cs.drop scheme.length with
  | ':' :: '/' :: '/' :: rest => some (scheme, rest)
  | _ => none

/-- The scheme as it is kept: the two of the web are written in one way. -/
def schemeText (cs : List Char) : String :=
  let lower := Text.lowerAscii (String.ofList cs)
  if lower = "http" ∨ lower = "https" then lower else String.ofList cs

/-- The greatest length of a target, in bytes. -/
def maxLength : Nat := 65534

def parse? (s : String) : Option Uri :=
  if maxLength < s.utf8ByteSize then none else
  match s.toList with
  | [] => none
  | ['*'] => some { scheme := none, authority := none, path := "*", query := none }
  | '/' :: rest =>
    (pathAndQuery? ('/' :: rest)).map fun (path, query) =>
      { scheme := none, authority := none, path, query }
  | cs =>
    match scheme? cs with
    | some (scheme, rest) => do
      if 64 < scheme.length then none
      let authority ← authority? (rest.takeWhile (!isAuthorityEnd ·))
      let (path, query) ← pathAndQuery? (rest.dropWhile (!isAuthorityEnd ·))
      return {
        scheme := some (schemeText scheme)
        authority := some authority
        path := if path = "" then "/" else path
        query }
    | none =>
      (authority? cs).map fun authority =>
        { scheme := none, authority := some authority, path := "", query := none }

def text (u : Uri) : String :=
  (match u.scheme with
    | some scheme => scheme ++ "://"
    | none => "")
    ++ u.authority.getD "" ++ u.path
    ++ match u.query with
      | some query => "?" ++ query
      | none => ""

end Uri

end Net

end AuthGateway
