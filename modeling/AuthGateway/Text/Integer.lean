namespace AuthGateway

namespace Text

/-!
Whole numbers written in decimal: ASCII digits behind an optional sign, and nothing else.
-/

/-- The value of decimal digits read from the left; there must be one, and nothing else. -/
def digits? (cs : List Char) : Option Nat :=
  if cs ≠ [] ∧ cs.all Char.isDigit then
    some (cs.foldl (fun n c => n * 10 + (c.toNat - '0'.toNat)) 0)
  else none

/-- An unsigned number; a plus sign is allowed. -/
def natural? (s : String) : Option Nat :=
  match s.toList with
  | '+' :: rest => digits? rest
  | cs => digits? cs

def integer? (s : String) : Option Int :=
  match s.toList with
  | '+' :: rest => (digits? rest).map Int.ofNat
  | '-' :: rest => (digits? rest).map fun n => -Int.ofNat n
  | cs => (digits? cs).map Int.ofNat

/-- The least and the greatest number of 64 bits with a sign. -/
def int64Min : Int := -9223372036854775808
def int64Max : Int := 9223372036854775807

def int64? (s : String) : Option Int :=
  (integer? s).filter fun n => int64Min ≤ n && n ≤ int64Max

def nat32? (s : String) : Option Nat :=
  (natural? s).filter (· < 1 <<< 32)

end Text

end AuthGateway
