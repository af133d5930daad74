import AuthGateway.Text.Percent
import AuthGateway.Text.Split

namespace AuthGateway

namespace Text

namespace Form

/-!
The form encoding of names and values, `name=value&name=value`, as queries and login forms
carry it.
-/

/-- A name or a value: plus signs are spaces, escapes are bytes, malformed UTF-8 is replaced. -/
def decodeText (bytes : Bytes) : String :=
  decodeLossy (Percent.decode (bytes.map fun b => if b = 0x2B then 0x20 else b))

/-- One pair; without an equals sign the value is empty. -/
def decodePair (bytes : Bytes) : String × String :=
  match splitOnce? 0x3D bytes with
  | some (name, value) => (decodeText name, decodeText value)
  | none => (decodeText bytes, "")

/-- The pairs in order; an empty piece is none. -/
def decodePairs (bytes : Bytes) : List (String × String) :=
  ((splitAll 0x26 bytes).filter (· ≠ [])).map decodePair

/-- The declared name that is given more than once, if there is one: the one whose second
occurrence comes first. -/
def repeated? (declared : List String) (pairs : List (String × String)) : Option String :=
  go [] pairs
where
  /-- The same, given the names that have been met. -/
  go (met : List String) : List (String × String) → Option String
    | [] => none
    | (name, _) :: rest =>
      if declared.contains name then
        if met.contains name then some name else go (name :: met) rest
      else go met rest

/-- The value of a name, empty when it is not given. -/
def value (name : String) (pairs : List (String × String)) : String :=
  (pairs.lookup name).getD ""

end Form

end Text

end AuthGateway
