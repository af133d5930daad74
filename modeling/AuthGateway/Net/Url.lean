import AuthGateway.Net.Ip
import AuthGateway.Text.Percent

namespace AuthGateway

namespace Net

/-!
Web addresses of the two schemes that a proxy can forward to.

An address is kept in its parts, each already escaped as it is written.  The path is the list of
its segments, so that a path always starts with a slash and its dot segments are gone.
-/

inductive Scheme where
  | http
  | https
deriving DecidableEq, Repr

def Scheme.text : Scheme → String
  | .http => "http"
  | .https => "https"

/-- The service that need not be written. -/
def Scheme.defaultService : Scheme → Nat
  | .http => 80
  | .https => 443

/-- The host: a name, or an address. -/
inductive Host where
  | domain (name : String)
  | ipv4 (parts : List Nat)
  | ipv6 (groups : List Nat)
deriving DecidableEq, Repr

/-- The written host; an address of version 6 stands in brackets and has no dots. -/
def Host.text : Host → String
  | .domain name => name
  | .ipv4 parts => IpAddress.v4Text parts
  | .ipv6 groups => "[" ++ IpAddress.v6Text groups ++ "]"

structure Url where
  scheme : Scheme
  username : String
  password : Option String
  host : Host
  /-- The number of the service there, unless it is the one that the scheme implies. -/
  service : Option Nat
  /-- The segments of the path, of which there is at least one. -/
  segments : List String
  query : Option String
  fragment : Option String
deriving DecidableEq, Repr

namespace Url

def path (u : Url) : String :=
  String.join (u.segments.map ("/" ++ ·))

/-- The user part with its at sign, if there is a user or a password. -/
def userinfo (u : Url) : String :=
  match u.password with
  | some password => u.username ++ ":" ++ password ++ "@"
  | none => if u.username = "" then "" else u.username ++ "@"

def text (u : Url) : String :=
  u.scheme.text ++ "://" ++ u.userinfo ++ u.host.text
    ++ (match u.service with
      | some service => ":" ++ toString service
      | none => "")
    ++ u.path
    ++ (match u.query with
      | some query => "?" ++ query
      | none => "")
    ++ match u.fragment with
      | some fragment => "#" ++ fragment
      | none => ""

def isSingleDot (segment : List Char) : Bool :=
  segment.map Char.toLower = ['.'] || segment.map Char.toLower = ['%', '2', 'e']

def isDoubleDot (segment : List Char) : Bool :=
  ["..", ".%2e", "%2e.", "%2e%2e"].contains (String.ofList (segment.map Char.toLower))

/-- A letter and a colon or a bar: the name of a drive, which two dots do not leave. -/
def isDrive : List Char → Bool
  | [letter, mark] => letter.isAlpha && (mark = ':' || mark = '|')
  | _ => false

/-- The segments without their last one, unless it is a drive. -/
def leave (segments : List (List Char)) : List (List Char) :=
  match segments.getLast? with
  | some last => if isDrive last then segments else segments.dropLast
  | none => []

/-- The segments so far and one more that a slash follows. -/
def enter (segments : List (List Char)) (segment : List Char) : List (List Char) :=
  if isDoubleDot segment then leave segments
  else if isSingleDot segment then segments
  else segments ++ [segment]

/-- The segments so far and the last one, with nothing behind it. -/
def finish (segments : List (List Char)) (segment : List Char) : List (List Char) :=
  if isDoubleDot segment then leave segments ++ [[]]
  else if isSingleDot segment then segments ++ [[]]
  else segments ++ [segment]

def isSlash (c : Char) : Bool :=
  c = '/' || c = '\\'

def pieces : List Char → List (List Char)
  | [] => [[]]
  | c :: rest =>
    if isSlash c then [] :: pieces rest
    else
      match pieces rest with
      | [] => [[c]]
      | piece :: more => (c :: piece) :: more

/-- The segments that pieces leave once they are escaped and their dots are resolved. -/
def resolve : List (List Char) → List (List Char) → List (List Char)
  | segments, [] => segments
  | segments, [last] => finish segments (Text.Percent.encodeChars Text.Percent.path last)
  | segments, piece :: rest =>
    resolve (enter segments (Text.Percent.encodeChars Text.Percent.path piece)) rest

/-- The segments of a path; the slash at its front may be missing. -/
def segmentsOf (cs : List Char) : List String :=
  let cs := match cs with
    | c :: rest => if isSlash c then rest else cs
    | [] => []
  (resolve [] (pieces cs)).map String.ofList

def withPath (u : Url) (path : String) : Url :=
  { u with segments := segmentsOf path.toList }

def withQuery (u : Url) (query : Option String) : Url :=
  { u with
    query := query.map fun q =>
      String.ofList (Text.Percent.encodeChars Text.Percent.query q.toList) }

end Url

end Net

end AuthGateway
