import AuthGateway.Crypto.Blowfish
import AuthGateway.Text.Base64
import AuthGateway.Text.Integer
import AuthGateway.Text.Split

namespace AuthGateway

namespace Crypto

namespace Bcrypt

/-!
The bcrypt password hash in its modular text form `$version$cost$salt-and-hash`.

A text that is not of this form proves no password.
-/

open Text (Bytes)

structure Hash where
  /-- Two to this power is the number of times that key and salt are worked in. -/
  cost : Nat
  salt : Bytes
  digest : Bytes

/-- Base64 with an alphabet of its own and no padding. -/
def form : Text.Base64.Form where
  alphabet := "./ABCDEFGHIJKLMNOPQRSTUVWXYZabcdefghijklmnopqrstuvwxyz0123456789".toList
  padded := false

/-- Versions differ in the bugs of old implementations only, and are treated alike. -/
def versions : List String :=
  ["2a", "2b", "2x", "2y"]

/-- The parts that a text writes; empty parts between dollar signs do not count. -/
def Hash.parse? (s : String) : Option Hash := do
  let [version, cost, rest] := (Text.parts '$' s).filter (· ≠ "") | none
  if ¬ versions.contains version then none
  let cost ← Text.nat32? cost
  let letters := rest.toList
  if letters.length ≠ 53 then none
  let salt ← form.decodeChars (letters.take 22)
  let digest ← form.decodeChars (letters.drop 22)
  return { cost, salt, digest }

/-- The text that is encrypted over and over. -/
def magic : List UInt32 :=
  bigEndianWords (Text.encode "OrpheanBeholderScryDoubt")

/-- Both words of a block, encrypted so many times. -/
def encipherTimes (state : Blowfish.State) : Nat → UInt32 × UInt32 → UInt32 × UInt32
  | 0, block => block
  | count + 1, (left, right) =>
    encipherTimes state count (Blowfish.encipher state.subkeys state.boxes left right)

def encipherAll (state : Blowfish.State) : List UInt32 → List UInt32
  | left :: right :: rest =>
    let (left, right) := encipherTimes state 64 (left, right)
    left :: right :: encipherAll state rest
  | rest => rest

/-- The key is the password closed by a zero byte, of which 72 bytes count. -/
def key (password : Bytes) : Array UInt8 :=
  ((password ++ [0]).take 72).toArray

/-- The twenty-three bytes that a password gives under a cost and a salt. -/
def compute (cost : Nat) (salt password : Bytes) : Bytes :=
  let key := key password
  let salt := salt.toArray
  let state := Blowfish.State.alternate key salt (1 <<< cost) (Blowfish.State.initial.expand salt key)
  ((encipherAll state magic).flatMap bigEndianBytes).take 23

/-- The password is the one that the text was made from.  Costs below 4 and above 31 are refused. -/
def verify (stored : String) (password : Bytes) : Bool :=
  match Hash.parse? stored with
  | none => false
  | some hash =>
    4 ≤ hash.cost && hash.cost ≤ 31 && hash.salt.length == 16
      && compute hash.cost hash.salt password == hash.digest

end Bcrypt

end Crypto

end AuthGateway
