import AuthGateway.Text.Bytes
import AuthGateway.Text.Split

namespace AuthGateway

namespace Text

/-!
Sets of characters given by their codes: ascending ranges without overlap, searched by halving.
A table is written in rows of hexadecimal codes, a range as its two ends.
-/

/-- The number that hexadecimal digits write; other characters count as zero. -/
def hexNat (s : String) : Nat :=
  s.toList.foldl (fun n c => n * 16 + (hexDigit? c).getD 0) 0

/-- The two ends that an item such as `300-314` or `345` writes. -/
def endsOf (item : String) : Nat × Nat :=
  match cut? '-' item with
  | some (first, last) => (hexNat first, hexNat last)
  | none => (hexNat item, hexNat item)

structure CodeRanges where
  ranges : Array (Nat × Nat)

namespace CodeRanges

/-- The ranges that the rows of a table write. -/
def ofTable (rows : List String) : CodeRanges where
  ranges := ((rows.flatMap (parts ' ')).map endsOf).toArray

/-- Whether a range with an index of at least `low` and less than `high` holds the code. -/
def search (ranges : Array (Nat × Nat)) (code low high : Nat) : Bool :=
  if low < high then
    let middle := (low + high) / 2
    let (first, last) := ranges.getD middle (0, 0)
    if code < first then search ranges code low middle
    else if last < code then search ranges code (middle + 1) high
    else true
  else false
termination_by high - low

def contains (set : CodeRanges) (c : Char) : Bool :=
  search set.ranges c.toNat 0 set.ranges.size

end CodeRanges

end Text

end AuthGateway
