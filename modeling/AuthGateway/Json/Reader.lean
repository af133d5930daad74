import AuthGateway.Json.Basic

namespace AuthGateway

namespace Json

/-!
Reading typed values out of JSON.

A record is read from an object or from an array of its fields in their declared order.  A
member of an unknown name is skipped, a declared name given twice is refused, and whether an
absent field is an error is up to the field.
-/

def asText? : Json → Option String
  | .string text => text
  | _ => none

def asBool? : Json → Option Bool
  | .bool b => some b
  | _ => none

def asInt? (low high : Int) : Json → Option Int
  | .number (some n) => if low ≤ n ∧ n ≤ high then some n else none
  | _ => none

/-- A whole number of so many bits without a sign. -/
def asNat? (bits : Nat) : Json → Option Nat
  | .number (some n) => if 0 ≤ n ∧ n.toNat < 1 <<< bits then some n.toNat else none
  | _ => none

def asList? {α : Type} (item? : Json → Option α) : Json → Option (List α)
  | .array items => items.mapM item?
  | _ => none

def asOption? {α : Type} (value? : Json → Option α) : Json → Option (Option α)
  | .null => some none
  | value => (value? value).map some

/-- One of several names, alone or as the only member of an object whose value is `null`. -/
def asVariant? {α : Type} (variants : List (String × α)) : Json → Option α
  | .string (some name) => variants.lookup name
  | .object [(some name, .null)] => variants.lookup name
  | _ => none

/-- The values given for the declared fields, in the order of the declaration. -/
def fields? (declared : List String) : Json → Option (List (Option Json))
  | .object members =>
    let names := members.map (·.1)
    if names.contains none then none
    else if declared.any fun name => 1 < names.count (some name) then none
    else some (declared.map fun name => (members.find? (·.1 == some name)).map (·.2))
  | .array items =>
    if declared.length < items.length then none
    else some (items.map some ++ List.replicate (declared.length - items.length) none)
  | _ => none

/-- A field that must be given. -/
def required? {α : Type} (value? : Json → Option α) : Option Json → Option α
  | some value => value? value
  | none => none

/-- A field that falls back when it is not given. -/
def orElse? {α : Type} (fallback : α) (value? : Json → Option α) : Option Json → Option α
  | some value => value? value
  | none => some fallback

end Json

end AuthGateway
