namespace AuthGateway

namespace Time

/-!
Spans of time in nanoseconds, and the short text that shows one in the largest unit it fills.
-/

structure Duration where
  nanos : Nat
deriving DecidableEq, Repr

namespace Duration

def ofSeconds (n : Nat) : Duration where
  nanos := n * 1000000000

def ofMillis (n : Nat) : Duration where
  nanos := n * 1000000

def seconds (d : Duration) : Nat :=
  d.nanos / 1000000000

/-- The digits of a fraction without zeros at the end; there are `count` of them to begin with. -/
def fractionDigits : Nat → Nat → List Char
  | 0, _ => []
  | count + 1, n =>
    if n % 10 = 0 then fractionDigits count (n / 10)
    else digits (count + 1) n
where
  /-- All of so many digits. -/
  digits : Nat → Nat → List Char
    | 0, _ => []
    | count + 1, n => digits count (n / 10) ++ [Nat.digitChar (n % 10)]

/-- A number of units: the whole part, and the rest in so many places. -/
def inUnit (places n : Nat) (unit : String) : String :=
  let fraction := fractionDigits places (n % Nat.pow 10 places)
  let point := if fraction = [] then "" else "."
  toString (n / Nat.pow 10 places) ++ point ++ String.ofList fraction ++ unit

/-- The text of a span, such as `1.5s` or `20ms`. -/
def text (d : Duration) : String :=
  if 1000000000 ≤ d.nanos then inUnit 9 d.nanos "s"
  else if 1000000 ≤ d.nanos then inUnit 6 d.nanos "ms"
  else if 1000 ≤ d.nanos then inUnit 3 d.nanos "µs"
  else inUnit 0 d.nanos "ns"

end Duration

end Time

end AuthGateway
