import AuthGateway.Text.Split

namespace AuthGateway

namespace Text

namespace Punycode

/-!
Names with any characters written in letters, digits and hyphens.

The plain characters come first, then a hyphen, then one number for each other character in the
order of their codes.  A number counts the steps from the last insertion to the next one, where
a step goes to the next place and, behind the last place, to the first place of the next code.
Numbers are written lowest digit first, in a mixed base that adapts to the sizes seen so far.
-/

def digit (value : Nat) : Char :=
  if value < 26 then Char.ofNat ('a'.toNat + value) else Char.ofNat ('0'.toNat + (value - 26))

def digit? (c : Char) : Option Nat :=
  if 'a' ≤ c ∧ c ≤ 'z' then some (c.toNat - 'a'.toNat)
  else if '0' ≤ c ∧ c ≤ '9' then some (c.toNat - '0'.toNat + 26)
  else none

/-- A digit below the threshold of its position ends a number. -/
def threshold (bias position : Nat) : Nat :=
  min 26 (max 1 (position - bias))

theorem threshold_pos (bias position : Nat) : 0 < threshold bias position := by
  unfold threshold
  omega

/-- The position whose threshold suits numbers of about this size. -/
def settle (position size : Nat) : Nat :=
  if 455 < size then settle (position + 36) (size / 35) else position + 36 * size / (size + 38)
termination_by size

/-- The bias after a number, once `count` characters stand. -/
def adapt (number count : Nat) (isFirst : Bool) : Nat :=
  let size := if isFirst then number / 700 else number / 2
  settle 0 (size + size / count)

/-- The first position, and the distance between positions. -/
def base : Nat := 36

def firstBias : Nat := 72

/-- The first code that is not plain. -/
def firstCode : Nat := 0x80

def digits (bias position number : Nat) : List Char :=
  let least := threshold bias position
  if number < least then [digit number]
  else
    digit (least + (number - least) % (base - least))
      :: digits bias (position + base) ((number - least) / (base - least))
termination_by number
decreasing_by
  have positive := threshold_pos bias position
  have smaller := Nat.div_le_self (number - threshold bias position)
    (base - threshold bias position)
  omega

/-- What has been written, and where the numbers stand. -/
structure Progress where
  /-- The digits so far, the last one first. -/
  written : List Char
  /-- The steps since the last insertion. -/
  steps : Nat
  bias : Nat
  /-- The characters that the reader has by now. -/
  count : Nat

/-- Going past one character of the name while characters of a code are inserted. -/
def Progress.pass (plain code : Nat) (progress : Progress) (c : Nat) : Progress :=
  if c < code then { progress with steps := progress.steps + 1 }
  else if c = code then
    { written := (digits progress.bias base progress.steps).reverse ++ progress.written
      steps := 0
      bias := adapt progress.steps (progress.count + 1) (progress.count = plain)
      count := progress.count + 1 }
  else progress

/-- The numbers for the codes that are left, the last of those done being `code - 1`. -/
def numbers (name : List Nat) (plain : Nat) (code : Nat) : List Nat → Progress → Progress
  | [], progress => progress
  | next :: rest, progress =>
    let steps := progress.steps + (next - code) * (progress.count + 1)
    let passed := name.foldl (Progress.pass plain next) { progress with steps }
    numbers name plain (next + 1) rest { passed with steps := passed.steps + 1 }

/-- Each value once. -/
def distinct : List Nat → List Nat
  | a :: b :: rest => if a = b then distinct (b :: rest) else a :: distinct (b :: rest)
  | short => short

def encode (name : List Char) : List Char :=
  let plain := name.filter fun c => c.toNat < firstCode
  let codes := name.map Char.toNat
  let others := distinct ((codes.filter (firstCode ≤ ·)).mergeSort)
  let start : Progress := ⟨[], 0, firstBias, plain.length⟩
  let body := (numbers codes plain.length firstCode others start).written.reverse
  plain ++ (if plain = [] then [] else ['-']) ++ body

def numberLimit : Nat := 1 <<< 32

/-- The number that the digits from a position on write, and what follows its digits. -/
def number? (bias position weight sum : Nat) : List Char → Option (Nat × List Char)
  | [] => none
  | c :: rest =>
    match digit? c with
    | none => none
    | some value =>
      let sum := sum + value * weight
      let least := threshold bias position
      if numberLimit ≤ sum then none
      else if value < least then some (sum, rest)
      else number? bias (position + base) (weight * (base - least)) sum rest

theorem length_lt_of_number? {bias position weight sum number : Nat} {cs rest : List Char}
    (read : number? bias position weight sum cs = some (number, rest)) :
    rest.length < cs.length := by
  induction cs generalizing position weight sum with
  | nil => simp [number?] at read
  | cons c cs ih =>
    unfold number? at read
    split at read
    · contradiction
    · simp only at read
      split at read
      · contradiction
      · split at read
        · simp only [Option.some.injEq, Prod.mk.injEq] at read
          simp [← read.2]
        · exact Nat.lt_succ_of_lt (ih read)

/-- The name once the numbers that are left have put in their characters, the next of them at
`place` or later.  Only before the first insertion is the place zero. -/
def insertAll? (bias code place : Nat) (name cs : List Char) : Option (List Char) :=
  match cs with
  | [] => some name
  | c :: rest =>
    match read : number? bias base 1 0 (c :: rest) with
    | none => none
    | some (steps, left) =>
      let count := name.length + 1
      let next := code + (place + steps) / count
      let here := (place + steps) % count
      if next.isValidChar then
        insertAll? (adapt steps count (place = 0)) next (here + 1)
          (name.insertIdx here (Char.ofNat next)) left
      else none
termination_by cs.length
decreasing_by exact length_lt_of_number? read

/-- The name that was written so; the last hyphen ends the plain characters. -/
def decode? (cs : List Char) : Option (List Char) :=
  match splitLast? '-' cs with
  | some (p :: plain, body) => insertAll? firstBias firstCode 0 (p :: plain) body
  | _ => insertAll? firstBias firstCode 0 [] cs

end Punycode

end Text

end AuthGateway
