import AuthGateway.Net.Idna
import AuthGateway.Net.Url
import AuthGateway.Text.Split

namespace AuthGateway

namespace Net

namespace Url

/-!
Reading an address by the rules of web browsers: blanks around it and line breaks in it do not
count, backslashes are slashes, a host may be escaped, and numbers stand for addresses.
-/

inductive ParseError where
  | emptyHost
  | invalidService
  | invalidIpv4
  | invalidIpv6
  | invalidDomain
deriving DecidableEq, Repr

def ParseError.message : ParseError → String
  | .emptyHost => "empty host"
  | .invalidService => "invalid port number"
  | .invalidIpv4 => "invalid IPv4 address"
  | .invalidIpv6 => "invalid IPv6 address"
  | .invalidDomain => "invalid international domain name"

/-- A number in an address of version 4: decimal, octal behind a zero, hexadecimal behind `0x`. -/
def ipv4Number? (cs : List Char) : Option Nat :=
  let read (base : Nat) (digits : List Char) : Option Nat :=
    digits.foldlM
      (fun n c => ((Text.hexDigit? c).filter (· < base)).map (n * base + ·)) 0
  match cs with
  | [] => none
  | '0' :: 'x' :: rest | '0' :: 'X' :: rest => read 16 rest
  | '0' :: d :: rest => read 8 (d :: rest)
  | cs => read 10 cs

/-- Whether the last label makes a host an address of version 4. -/
def endsInNumber (domain : List Char) : Bool :=
  let labels := Text.splitAll '.' domain
  let last? := match labels.getLast? with
    | some [] => labels.dropLast.getLast?
    | other => other
  match last? with
  | some last => (last ≠ [] && last.all Char.isDigit) || (ipv4Number? last).isSome
  | none => false

/-- Up to four numbers, the last of which fills the bytes that are left. -/
def ipv4? (domain : List Char) : Option (List Nat) := do
  let labels := Text.splitAll '.' domain
  let labels := if labels.getLast? = some [] then labels.dropLast else labels
  if 4 < labels.length then none
  let numbers ← labels.mapM ipv4Number?
  let last ← numbers.getLast?
  let bytes := numbers.dropLast
  let left := 4 - bytes.length
  if bytes.any (255 < ·) ∨ 0 < last >>> (8 * left) then none
  return bytes ++ (List.range left).reverse.map fun i => last >>> (8 * i) % 256

/-- A host in brackets, a number, or a name. -/
def host? (cs : List Char) : Except ParseError Host :=
  match cs with
  | [] => .error .emptyHost
  | '[' :: inside =>
    if inside.getLast? = some ']' then
      match IpAddress.parseV6? inside.dropLast with
      | some groups => .ok (.ipv6 groups)
      | none => .error .invalidIpv6
    else .error .invalidIpv6
  | cs =>
    match Idna.toAscii? (Text.Percent.decode (Text.encode (String.ofList cs))) with
    | none => .error .invalidDomain
    | some domain =>
      if domain = "" then .error .emptyHost
      else if endsInNumber domain.toList then
        match ipv4? domain.toList with
        | some parts => .ok (.ipv4 parts)
        | none => .error .invalidIpv4
      else .ok (.domain domain)

def isAuthorityEnd (c : Char) : Bool :=
  c = '/' || c = '\\' || c = '?' || c = '#'

/-- The host part up to a colon outside brackets, and the service number behind it. -/
def splitService : Bool → List Char → List Char × Option (List Char)
  | _, [] => ([], none)
  | inside, c :: rest =>
    if c = ':' ∧ ¬ inside then ([], some rest)
    else
      let inside := if c = '[' then true else if c = ']' then false else inside
      let (host, service) := splitService inside rest
      (c :: host, service)

/-- A service number of at most 65535; the empty one and the implied one are none. -/
def service? (scheme : Scheme) (cs : List Char) : Except ParseError (Option Nat) :=
  if ¬ cs.all Char.isDigit then .error .invalidService
  else
    let service := cs.foldl (fun n c => n * 10 + (c.toNat - '0'.toNat)) 0
    if 65535 < service then .error .invalidService
    else .ok (if cs = [] ∨ service = scheme.defaultService then none else some service)

/-- Name and password of the user part; an empty password is none. -/
def credentials (cs : List Char) : String × Option String :=
  let write (cs : List Char) := String.ofList (Text.Percent.encodeChars Text.Percent.userinfo cs)
  match Text.splitOnce? ':' cs with
  | some (name, password) => (write name, if password = [] then none else some (write password))
  | none => (write cs, none)

/-- What stands behind the slashes that open the authority. -/
def parseRest (scheme : Scheme) (cs : List Char) : Except ParseError Url := do
  let authority := cs.takeWhile (!isAuthorityEnd ·)
  let rest := cs.drop authority.length
  let (user, hostAndService) := (Text.splitLast? '@' authority).getD ([], authority)
  let (username, password) := credentials user
  let (hostChars, serviceChars) := splitService false hostAndService
  let host ← host? hostChars
  let service ← match serviceChars with
    | some cs => service? scheme cs
    | none => .ok none
  let shown := rest.takeWhile (· ≠ '#')
  let path := shown.takeWhile (· ≠ '?')
  let write (set : Char → Bool) (cs : List Char) :=
    String.ofList (Text.Percent.encodeChars set cs)
  return {
    scheme, username, password, host, service
    segments := segmentsOf path
    query := match shown.drop path.length with
      | _ :: query => some (write Text.Percent.query query)
      | [] => none
    fragment := match rest.drop shown.length with
      | _ :: fragment => some (write Text.Percent.fragment fragment)
      | [] => none }

/-- Characters that do not count inside an address. -/
def isIgnored (c : Char) : Bool :=
  c = '\t' || c = '\n' || c = '\r'

/-- The address that a text behind `http:` or `https:` spells. -/
def parse (scheme : Scheme) (rest : String) : Except ParseError Url :=
  let trimmed := (rest.toList.reverse.dropWhile (·.toNat ≤ 0x20)).reverse
  parseRest scheme ((trimmed.filter (!isIgnored ·)).dropWhile isSlash)

end Url

end Net

end AuthGateway
