import AuthGateway.Text.Bytes

namespace AuthGateway

namespace Crypto

namespace Aes

/-!
The AES block cipher with keys of 256 bits, in its encrypting direction, which is the only one
that counter mode needs.  A block is its sixteen bytes, column after column.
-/

open Text (Bytes)

/-- Twice a byte in the field of 256 elements. -/
def double (x : UInt8) : UInt8 :=
  if x &&& 0x80 = 0 then x <<< 1 else (x <<< 1) ^^^ 0x1B

/-- The product of two bytes in the field, from the bits of the second. -/
def multiply (x y : UInt8) : UInt8 :=
  ((List.range 8).foldl
    (fun (acc, power) i =>
      (if y.toNat.testBit i then acc ^^^ power else acc, double power))
    ((0 : UInt8), x)).1

/-- The inverse in the field, `x ^ 254`; zero stays zero. -/
def inverse (x : UInt8) : UInt8 :=
  let square (y : UInt8) := multiply y y
  ((List.range 7).foldl
    (fun (acc, power) _ => (multiply acc power, square power))
    ((1 : UInt8), square x)).1

private def turn (x : UInt8) (n : UInt8) : UInt8 :=
  (x <<< n) ||| (x >>> (8 - n))

/-- The substitution of one byte: its inverse, spread over the bits. -/
def substitute (x : UInt8) : UInt8 :=
  let y := inverse x
  y ^^^ turn y 1 ^^^ turn y 2 ^^^ turn y 3 ^^^ turn y 4 ^^^ 0x63

def box : Array UInt8 :=
  ((List.range 256).map fun i => substitute (UInt8.ofNat i)).toArray

def sub (x : UInt8) : UInt8 :=
  box.getD x.toNat 0

/-- Bytes added in the field, place by place. -/
def xorBytes (xs ys : Bytes) : Bytes :=
  List.zipWith (· ^^^ ·) xs ys

/-- Row `r` of the block is turned by `r` columns. -/
def shiftRows (block : Bytes) : Bytes :=
  let cells := block.toArray
  (List.range 16).map fun i => cells.getD ((i + 4 * (i % 4)) % 16) 0

/-- One column is multiplied by the fixed matrix. -/
def mixColumn (a b c d : UInt8) : Bytes :=
  let all := a ^^^ b ^^^ c ^^^ d
  [a ^^^ all ^^^ double (a ^^^ b), b ^^^ all ^^^ double (b ^^^ c),
    c ^^^ all ^^^ double (c ^^^ d), d ^^^ all ^^^ double (d ^^^ a)]

def mixColumns : Bytes → Bytes
  | a :: b :: c :: d :: rest => mixColumn a b c d ++ mixColumns rest
  | rest => rest

/-- The word after the others in the key schedule, with the constant of its round. -/
def nextWord (words : Array Bytes) (constant : UInt8) : Bytes :=
  let i := words.size
  let last := words.getD (i - 1) []
  let change :=
    if i % 8 = 0 then
      match last with
      | [a, b, c, d] => [sub b ^^^ constant, sub c, sub d, sub a]
      | other => other
    else if i % 8 = 4 then last.map sub
    else last
  xorBytes (words.getD (i - 8) []) change

/-- The words of the schedule, four for each of the fifteen round keys. -/
def expandKey (key : Bytes) : Array Bytes :=
  let bytes := key.toArray
  let start := ((List.range 8).map fun i =>
    (List.range 4).map fun j => bytes.getD (4 * i + j) 0).toArray
  ((List.range 52).foldl
    (fun (words, constant) i =>
      (words.push (nextWord words constant), if i % 8 = 0 then double constant else constant))
    (start, (1 : UInt8))).1

def roundKey (words : Array Bytes) (round : Nat) : Bytes :=
  (List.range 4).flatMap fun j => words.getD (4 * round + j) []

def middleRound (words : Array Bytes) (block : Bytes) (round : Nat) : Bytes :=
  xorBytes (mixColumns (shiftRows (block.map sub))) (roundKey words round)

def encryptBlock (words : Array Bytes) (block : Bytes) : Bytes :=
  let first := xorBytes block (roundKey words 0)
  let middle := ((List.range 13).map (· + 1)).foldl (middleRound words) first
  xorBytes (shiftRows (middle.map sub)) (roundKey words 14)

end Aes

end Crypto

end AuthGateway
