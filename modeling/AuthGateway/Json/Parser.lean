import AuthGateway.Json.Basic
import AuthGateway.Text.Bytes

namespace AuthGateway

namespace Json

/-!
Reading a JSON text.  `parse?` accepts exactly one value with blanks around it; every departure
from the grammar, at whatever depth, makes it refuse.
-/

open Text (Bytes)

/-- The four bytes that may stand between tokens. -/
def isSpace (b : UInt8) : Bool :=
  b == 0x20 || b == 0x09 || b == 0x0A || b == 0x0D

def skipSpace (bytes : Bytes) : Bytes :=
  bytes.dropWhile isSpace

structure Literal where
  /-- The bytes of the text so far, last first. -/
  bytes : Bytes
  /-- The first half of a surrogate pair that waits for the second. -/
  pending : Option Nat
  /-- The literal is known to spell no text. -/
  garbled : Bool

namespace Literal

/-- Nothing has been read yet. -/
def start : Literal where
  bytes := []
  pending := none
  garbled := false

/-- A half pair that was waiting can no longer be completed. -/
def settle (l : Literal) : Literal :=
  match l.pending with
  | none => l
  | some _ => { l with pending := none, garbled := true }

/-- One byte that stands for itself. -/
def push (l : Literal) (b : UInt8) : Literal :=
  let l := l.settle
  { l with bytes := b :: l.bytes }

def pushScalar (l : Literal) (n : Nat) : Literal :=
  { l with bytes := (Text.encode (String.ofList [Char.ofNat n])).reverse ++ l.bytes }

/-- One escaped 16-bit unit: a character, or half of a pair. -/
def pushUnit (l : Literal) (n : Nat) : Literal :=
  if 0xDC00 ≤ n ∧ n ≤ 0xDFFF then
    match l.pending with
    | some high =>
      { l with pending := none }.pushScalar (0x10000 + (high - 0xD800) * 0x400 + (n - 0xDC00))
    | none => { l with garbled := true }
  else if 0xD800 ≤ n ∧ n ≤ 0xDBFF then { l.settle with pending := some n }
  else l.settle.pushScalar n

def finish (l : Literal) : Option String :=
  let l := l.settle
  if l.garbled then none else Text.decode? l.bytes.reverse

end Literal

/-- The byte that a one-letter escape stands for. -/
def escapedByte? (b : UInt8) : Option UInt8 :=
  if b = 0x22 ∨ b = 0x5C ∨ b = 0x2F then some b
  else if b = 0x62 then some 0x08
  else if b = 0x66 then some 0x0C
  else if b = 0x6E then some 0x0A
  else if b = 0x72 then some 0x0D
  else if b = 0x74 then some 0x09
  else none

def unit? (a b c d : UInt8) : Option Nat := do
  let digit (x : UInt8) : Option Nat := Text.hexDigit? (Char.ofNat x.toNat)
  return (((← digit a) * 16 + (← digit b)) * 16 + (← digit c)) * 16 + (← digit d)

/-- The rest of a literal whose opening quote has been read. -/
def literal? (l : Literal) : Bytes → Option (Option String × Bytes)
  | [] => none
  | b :: rest =>
    if b = 0x22 then some (l.finish, rest)
    else if b < 0x20 then none
    else if b = 0x5C then
      match rest with
      | [] => none
      | e :: rest₁ =>
        if e = 0x75 then
          match rest₁ with
          | w :: x :: y :: z :: rest₂ =>
            match unit? w x y z with
            | some n => literal? (l.pushUnit n) rest₂
            | none => none
          | _ => none
        else
          match escapedByte? e with
          | some byte => literal? (l.push byte) rest₁
          | none => none
    else literal? (l.push b) rest

/-- The bytes of the digits at the front, and what follows them. -/
def spanDigits (bytes : Bytes) : Bytes × Bytes :=
  bytes.span fun b => 0x30 ≤ b && b ≤ 0x39

def digitsValue (digits : Bytes) : Nat :=
  digits.foldl (fun n b => n * 10 + (b.toNat - 0x30)) 0

/-- The digits before any fraction: one zero, or digits that start with none. -/
def wholePart? (bytes : Bytes) : Option (Nat × Bytes) :=
  match spanDigits bytes with
  | ([], _) => none
  | (first :: more, rest) =>
    if first = 0x30 ∧ more ≠ [] then none else some (digitsValue (first :: more), rest)

/-- A fraction, if one is there: whether there was, and what follows. -/
def fraction? : Bytes → Option (Bool × Bytes)
  | 0x2E :: rest =>
    match spanDigits rest with
    | ([], _) => none
    | (_, after) => some (true, after)
  | bytes => some (false, bytes)

/-- An exponent, if one is there: whether there was, and what follows. -/
def exponent? (bytes : Bytes) : Option (Bool × Bytes) :=
  match bytes with
  | [] => some (false, [])
  | e :: rest =>
    if e = 0x65 ∨ e = 0x45 then
      let rest := match rest with
        | sign :: after => if sign = 0x2B ∨ sign = 0x2D then after else rest
        | [] => rest
      match spanDigits rest with
      | ([], _) => none
      | (_, after) => some (true, after)
    else some (false, bytes)

/-- A number.  Minus zero, a fraction and an exponent make it other than whole. -/
def number? (bytes : Bytes) : Option (Json × Bytes) := do
  let (negative, bytes) := match bytes with
    | 0x2D :: rest => (true, rest)
    | _ => (false, bytes)
  let (whole, bytes) ← wholePart? bytes
  let (hasFraction, bytes) ← fraction? bytes
  let (hasExponent, bytes) ← exponent? bytes
  if hasFraction || hasExponent || (negative && whole == 0) then
    return (.number none, bytes)
  else if negative then
    return (.int (-Int.ofNat whole), bytes)
  else
    return (.nat whole, bytes)

/-- What follows a word, if the bytes start with it. -/
def word? (word : String) (bytes : Bytes) : Option Bytes :=
  let expected := Text.encode word
  if expected.isPrefixOf bytes then some (bytes.drop expected.length) else none

mutual

/-- One value at the front of the bytes, blanks before it skipped. -/
def value? : Nat → Bytes → Option (Json × Bytes)
  | 0, _ => none
  | fuel + 1, bytes =>
    match skipSpace bytes with
    | [] => none
    | b :: rest =>
      if b = 0x7B then
        match skipSpace rest with
        | 0x7D :: after => some (.object [], after)
        | after => members? fuel [] after
      else if b = 0x5B then
        match skipSpace rest with
        | 0x5D :: after => some (.array [], after)
        | after => items? fuel [] after
      else if b = 0x22 then
        match literal? .start rest with
        | some (text, after) => some (.string text, after)
        | none => none
      else if b = 0x6E then (word? "null" (b :: rest)).map fun after => (.null, after)
      else if b = 0x74 then (word? "true" (b :: rest)).map fun after => (.bool true, after)
      else if b = 0x66 then (word? "false" (b :: rest)).map fun after => (.bool false, after)
      else number? (b :: rest)

/-- The items that are left of an array, given those before them, last first. -/
def items? : Nat → List Json → Bytes → Option (Json × Bytes)
  | 0, _, _ => none
  | fuel + 1, before, bytes =>
    match value? fuel bytes with
    | none => none
    | some (item, bytes) =>
      match skipSpace bytes with
      | [] => none
      | b :: rest =>
        if b = 0x2C then items? fuel (item :: before) rest
        else if b = 0x5D then some (.array (item :: before).reverse, rest)
        else none

/-- The members that are left of an object, given those before them, last first. -/
def members? : Nat → List (Option String × Json) → Bytes → Option (Json × Bytes)
  | 0, _, _ => none
  | fuel + 1, before, bytes =>
    match skipSpace bytes with
    | [] => none
    | q :: rest =>
      if q ≠ 0x22 then none
      else
        match literal? .start rest with
        | none => none
        | some (name, bytes) =>
          match skipSpace bytes with
          | [] => none
          | colon :: rest =>
            if colon ≠ 0x3A then none
            else
              match value? fuel rest with
              | none => none
              | some (item, bytes) =>
                match skipSpace bytes with
                | [] => none
                | b :: rest =>
                  if b = 0x2C then members? fuel ((name, item) :: before) rest
                  else if b = 0x7D then some (.object ((name, item) :: before).reverse, rest)
                  else none

end

/-- The value that the bytes spell, with nothing but blanks around it.  Every byte of the text
opens at most one container and every container takes two steps, which bounds the fuel. -/
def parse? (bytes : Bytes) : Option Json :=
  match value? (2 * bytes.length + 2) bytes with
  | some (value, rest) => if (skipSpace rest).isEmpty then some value else none
  | none => none

end Json

end AuthGateway
