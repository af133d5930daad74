import AuthGateway.Text.Blank
import AuthGateway.Text.Integer
import AuthGateway.Time.Timestamp

namespace AuthGateway

namespace Time

namespace Rfc3339

/-!
The written form of an instant, `2024-05-06T07:08:09.123Z`.

It is written in one way for each number of fraction digits and read more freely: blanks between
the parts of date and time, short numbers, any offset of less than a day.
-/

/-- Which fraction of the second is written. -/
inductive Fraction where
  /-- None. -/
  | none
  /-- Three, six or nine digits, whichever suffice, or none when there is no fraction. -/
  | shortest
  /-- Always nine digits. -/
  | nine
deriving DecidableEq

inductive Zone where
  | letter
  | numeric
deriving DecidableEq

/-- The last digits of a number, so many of them. -/
def fixedDigits : Nat → Nat → List Char
  | 0, _ => []
  | count + 1, n => fixedDigits count (n / 10) ++ [Nat.digitChar (n % 10)]

/-- Four digits, and a sign where the year needs more of them or lies before year zero. -/
def yearChars (year : Int) : List Char :=
  if 0 ≤ year ∧ year ≤ 9999 then fixedDigits 4 year.toNat
  else
    let digits := Nat.toDigits 10 year.natAbs
    (if year < 0 then '-' else '+') :: List.replicate (4 - digits.length) '0' ++ digits

/-- The fraction with the point before it. -/
def fractionChars (fraction : Fraction) (nano : Nat) : List Char :=
  match fraction with
  | .none => []
  | .nine => '.' :: fixedDigits 9 nano
  | .shortest =>
    if nano = 0 then []
    else if nano % 1000000 = 0 then '.' :: fixedDigits 3 (nano / 1000000)
    else if nano % 1000 = 0 then '.' :: fixedDigits 6 (nano / 1000)
    else '.' :: fixedDigits 9 nano

def chars (fraction : Fraction) (zone : Zone) (t : Timestamp) : List Char :=
  let leap := 1000000000 ≤ t.time.nano
  let second := t.time.second % 60 + if leap then 1 else 0
  let nano := if leap then t.time.nano - 1000000000 else t.time.nano
  yearChars t.date.year ++ '-' :: fixedDigits 2 t.date.month ++ '-' :: fixedDigits 2 t.date.day
    ++ 'T' :: fixedDigits 2 (t.time.second / 3600)
    ++ ':' :: fixedDigits 2 (t.time.second / 60 % 60)
    ++ ':' :: fixedDigits 2 second
    ++ fractionChars fraction nano
    ++ match zone with
      | .letter => ['Z']
      | .numeric => "+00:00".toList

def format (fraction : Fraction) (zone : Zone) (t : Timestamp) : String :=
  String.ofList (chars fraction zone t)

/-- A number of at most so many digits, and at least one. -/
def number? (limit : Nat) (cs : List Char) : Option (Nat × List Char) :=
  let digits := (cs.take limit).takeWhile Char.isDigit
  (Text.digits? digits).map fun n => (n, cs.drop digits.length)

def skipBlank (cs : List Char) : List Char :=
  cs.dropWhile Text.isBlank

/-- The year: up to four digits, or any number of them behind a sign. -/
def year? (cs : List Char) : Option (Int × List Char) :=
  match skipBlank cs with
  | '-' :: rest => (number? rest.length rest).map fun (n, rest) => (-Int.ofNat n, rest)
  | '+' :: rest => (number? rest.length rest).map fun (n, rest) => (Int.ofNat n, rest)
  | cs => (number? 4 cs).map fun (n, rest) => (Int.ofNat n, rest)

/-- A field of one or two digits no greater than the limit, blanks before it skipped. -/
def field? (limit : Nat) (cs : List Char) : Option (Nat × List Char) :=
  (number? 2 (skipBlank cs)).filter (·.1 ≤ limit)

/-- What follows a separator, blanks before it skipped. -/
def after? (separator : Char) (cs : List Char) : Option (List Char) :=
  match skipBlank cs with
  | c :: rest => if c = separator then some rest else none
  | [] => none

/-- A fraction, if there is one, in nanoseconds; digits after the ninth are dropped. -/
def fraction? (cs : List Char) : Option (Nat × List Char) :=
  match cs with
  | '.' :: rest => do
    let digits := rest.takeWhile Char.isDigit
    let n ← Text.digits? (digits.take 9)
    return (n * Nat.pow 10 (9 - (digits.take 9).length), rest.dropWhile Char.isDigit)
  | cs => some (0, cs)

/-- Seconds east of universal time: a letter, or a sign with hours and minutes. -/
def offset? (cs : List Char) : Option (Int × List Char) :=
  let signed (sign : Int) (cs : List Char) : Option (Int × List Char) := do
    let a :: b :: rest := cs | none
    let hours ← Text.digits? [a, b]
    let c :: d :: rest := rest.dropWhile fun c => c == ':' || Text.isBlank c | none
    let minutes ← (Text.digits? [c, d]).filter (· < 60)
    return (sign * Int.ofNat (hours * 3600 + minutes * 60), rest)
  match cs with
  | 'Z' :: rest | 'z' :: rest => some (0, rest)
  | '+' :: rest => signed 1 rest
  | '-' :: rest => signed (-1) rest
  | c :: rest =>
    if c.toNat = 0x2212 then signed (-1) rest
    else
      match rest with
      | d :: e :: rest =>
        if [c, d, e].map Char.toLower = ['u', 't', 'c'] then some (0, rest) else none
      | _ => none
  | [] => none

def parseChars? (cs : List Char) : Option Timestamp := do
  let (year, cs) ← year? cs
  let cs ← after? '-' cs
  let (month, cs) ← field? 12 cs
  let cs ← after? '-' cs
  let (day, cs) ← field? 31 cs
  let cs ← match cs with
    | c :: rest => if c = 'T' ∨ c = 't' ∨ c = ' ' then some rest else none
    | [] => none
  let (hour, cs) ← field? 23 cs
  let cs ← after? ':' cs
  let (minute, cs) ← field? 59 cs
  let cs ← after? ':' cs
  let (second, cs) ← field? 60 cs
  let (nano, cs) ← fraction? cs
  let (east, cs) ← offset? (skipBlank cs)
  if skipBlank cs ≠ [] ∨ secondsPerDay ≤ east.natAbs then none
  let date : Date := { year, month, day }
  if ¬ date.Legal then none
  let leap := second = 60
  let time : TimeOfDay :=
    { second := hour * 3600 + minute * 60 + if leap then 59 else second
      nano := if leap then nano + 1000000000 else nano }
  Timestamp.ofLocal? date time east

def parse? (s : String) : Option Timestamp :=
  parseChars? s.toList

end Rfc3339

end Time

end AuthGateway
