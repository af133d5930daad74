namespace AuthGateway

/-!
Values of the JSON data format.

A number is kept as a whole number or as nothing, since no part of the gateway reads any other
kind.  A string literal can be well formed and still spell no text (half a surrogate pair, bytes
that are not UTF-8); such a literal is kept as nothing: it may be skipped but not read.
-/

/-- A JSON value, with the members of an object in the order in which they were written. -/
inductive Json where
  | null
  | bool (b : Bool)
  | number (value : Option Int)
  | string (text : Option String)
  | array (items : List Json)
  | object (members : List (Option String × Json))
deriving Inhabited

namespace Json

def text (s : String) : Json :=
  .string (some s)

def int (n : Int) : Json :=
  .number (some n)

/-- A whole number that is not negative. -/
def nat (n : Nat) : Json :=
  .number (some (Int.ofNat n))

def texts (ss : List String) : Json :=
  .array (ss.map text)

/-- `null` when there is nothing to say. -/
def ofOption {α : Type} (f : α → Json) : Option α → Json
  | none => .null
  | some a => f a

/-- An object whose names are readable. -/
def record (members : List (String × Json)) : Json :=
  .object (members.map fun (name, value) => (some name, value))

/-- The value of the first member of that name. -/
def member? (name : String) : Json → Option Json
  | .object members => (members.find? (·.1 == some name)).map (·.2)
  | _ => none

end Json

end AuthGateway
