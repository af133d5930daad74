import AuthGateway.Text.CodeRanges

namespace AuthGateway

namespace Text

/-!
Values filed under ascending codes.  What a table is asked for is always the last entry at or
before a code; whether that entry speaks for the code itself is up to the value.
-/

structure CodeTable (α : Type) where
  entries : Array (Nat × α)

namespace CodeTable

variable {α : Type}

/-- The number of entries at or before a code, when at least `low` and at most `high` are. -/
def countUpTo (entries : Array (Nat × α)) (code low high : Nat) : Nat :=
  if low < high then
    let middle := (low + high) / 2
    match entries[middle]? with
    | some (first, _) =>
      if first ≤ code then countUpTo entries code (middle + 1) high
      else countUpTo entries code low middle
    | none => low
  else low
termination_by high - low

/-- The last entry at or before a code. -/
def last? (table : CodeTable α) (code : Nat) : Option (Nat × α) :=
  match countUpTo table.entries code 0 table.entries.size with
  | 0 => none
  | count + 1 => table.entries[count]?

def get? (table : CodeTable α) (code : Nat) : Option α :=
  match table.last? code with
  | some (first, value) => if first = code then some value else none
  | none => none

end CodeTable

/-- The codes that an item such as `41+300` lists. -/
def codesOf (item : String) : List Nat :=
  (parts '+' item).map hexNat

end Text

end AuthGateway
