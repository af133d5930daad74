import AuthGateway.Text.Split
import AuthGateway.Text.Bytes

namespace AuthGateway

namespace Net

/-!
Addresses of the internet protocol: how they are read, alone and with the number of a service, and the one short
form in which each is written.
-/

inductive IpAddress where
  /-- Four bytes. -/
  | v4 (parts : List Nat)
  /-- Eight groups of 16 bits. -/
  | v6 (groups : List Nat)
deriving DecidableEq, Repr

namespace IpAddress

/-- A decimal number without sign or superfluous zeros, at most the limit. -/
def decimal? (limit : Nat) (leadingZeros : Bool) (cs : List Char) : Option Nat :=
  if cs = [] ∨ ¬ cs.all Char.isDigit then none
  else if ¬ leadingZeros ∧ cs.head? = some '0' ∧ cs.length ≠ 1 then none
  else
    let n := cs.foldl (fun n c => n * 10 + (c.toNat - '0'.toNat)) 0
    if n ≤ limit then some n else none

/-- Four decimal numbers between dots. -/
def parseV4? (cs : List Char) : Option (List Nat) :=
  match Text.splitAll '.' cs with
  | [a, b, c, d] => [a, b, c, d].mapM (decimal? 255 false)
  | _ => none

/-- One group of up to four hexadecimal digits. -/
def group? (cs : List Char) : Option Nat :=
  if cs = [] ∨ 4 < cs.length then none
  else cs.foldlM (fun n c => (Text.hexDigit? c).map (n * 16 + ·)) 0

/-- Groups between colons, the last two of which may be written as an address of version 4. -/
def groups? (cs : List Char) : Option (List Nat) :=
  let pieces := Text.splitAll ':' cs
  let head := pieces.dropLast
  match pieces.getLast? with
  | none => none
  | some last =>
    if last.contains '.' then do
      let groups ← head.mapM group?
      let [a, b, c, d] ← parseV4? last | none
      return groups ++ [a * 256 + b, c * 256 + d]
    else pieces.mapM group?

/-- The place of the first pair of colons, if there is one. -/
def splitDouble? : List Char → Option (List Char × List Char)
  | ':' :: ':' :: rest => some ([], rest)
  | c :: rest => (splitDouble? rest).map fun (before, after) => (c :: before, after)
  | [] => none

/-- Eight groups, of which two colons may stand for one run of zeros. -/
def parseV6? (cs : List Char) : Option (List Nat) :=
  match splitDouble? cs with
  | none => (groups? cs).filter (·.length = 8)
  | some (before, after) => do
    if before.contains '.' then none
    let head ← if before = [] then some [] else groups? before
    let tail ← if after = [] then some [] else groups? after
    if 8 ≤ head.length + tail.length then none
    return head ++ List.replicate (8 - head.length - tail.length) 0 ++ tail

/-- Both the start and the length of the longest run of zeros, the first one if there are more. -/
def longestZeros : Nat → List Nat → Nat × Nat
  | _, [] => (0, 0)
  | place, g :: rest =>
    let here := ((g :: rest).takeWhile (· = 0)).length
    let later := longestZeros (place + 1) rest
    if later.2 ≤ here then (place, here) else later

def groupsText (groups : List Nat) : String :=
  String.intercalate ":" (groups.map fun g => String.ofList (Nat.toDigits 16 g))

/-- Four decimal numbers between dots. -/
def v4Text (parts : List Nat) : String :=
  String.intercalate "." (parts.map toString)

/-- Eight groups in which the longest run of two zeros or more becomes two colons. -/
def v6Text (groups : List Nat) : String :=
  let (start, length) := longestZeros 0 groups
  if length < 2 then groupsText groups
  else groupsText (groups.take start) ++ "::" ++ groupsText (groups.drop (start + length))

/-- The written form; an address of version 4 inside one of version 6 keeps its dots. -/
def text : IpAddress → String
  | .v4 parts => v4Text parts
  | .v6 [0, 0, 0, 0, 0, 0xFFFF, a, b] =>
    "::ffff:" ++ v4Text [a / 256, a % 256, b / 256, b % 256]
  | .v6 groups => v6Text groups

end IpAddress

/-- The far end of a connection.  A scope behind the address is read and not kept. -/
structure SocketAddress where
  ip : IpAddress
  service : Nat
deriving DecidableEq, Repr

namespace SocketAddress

/-- An address and its service: `1.2.3.4:5`, `[::1]:5` or `[fe80::1%3]:5`. -/
def parse? (s : String) : Option SocketAddress := do
  match s.toList with
  | '[' :: rest =>
    let (inside, behind) ← Text.splitOnce? ']' rest
    let ':' :: service := behind | none
    let service ← IpAddress.decimal? 65535 true service
    let address ← match Text.splitOnce? '%' inside with
      | none => some inside
      | some (address, scope) => (IpAddress.decimal? 4294967295 true scope).map fun _ => address
    let groups ← IpAddress.parseV6? address
    return { ip := .v6 groups, service }
  | cs =>
    let (address, service) ← Text.splitOnce? ':' cs
    let parts ← IpAddress.parseV4? address
    let service ← IpAddress.decimal? 65535 true service
    return { ip := .v4 parts, service }

end SocketAddress

end Net

end AuthGateway
