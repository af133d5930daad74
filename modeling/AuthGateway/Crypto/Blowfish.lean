import AuthGateway.Crypto.Word

namespace AuthGateway

namespace Crypto

namespace Blowfish

/-!
The Blowfish cipher: sixteen rounds over the two halves of a block.  Its subkeys and boxes start
as the binary digits of π, which are computed here, and are then worked over with a key and a
salt by letting the cipher encrypt its own output.
-/

open Text (Bytes)

/-- The sum `term/n - term/(x²·(n+2)) + …` until its terms vanish; `positive` is the next sign. -/
def arctanSum (square : Nat) : Nat → Nat → Nat → Bool → Int → Int
  | 0, _, _, _, sum => sum
  | fuel + 1, term, n, positive, sum =>
    if term = 0 then sum
    else
      let part := Int.ofNat (term / n)
      arctanSum square fuel (term / square) (n + 2) (!positive)
        (if positive then sum + part else sum - part)

/-- `2 ^ bits` times the arc tangent of `1/x`, but for the rounding of each term. -/
def arctan (bits x : Nat) : Int :=
  arctanSum (x * x) bits ((1 <<< bits) / x) 1 true 0

/-- The number of words that a fresh state is made of: eighteen subkeys and four boxes of 256. -/
def wordCount : Nat := 18 + 1024

/-- The first words of the fraction of π.  Machin's formula gives π, and 64 more digits than are
used take up the rounding. -/
def piWords : Array UInt32 :=
  let used := 32 * wordCount
  let bits := used + 64
  let pi := (4 * (4 * arctan bits 5 - arctan bits 239)).toNat
  let digits := pi >>> 64 % (1 <<< used)
  ((List.range wordCount).map fun i =>
    UInt32.ofNat (digits >>> (used - 32 * (i + 1)))).toArray

/-- Eighteen subkeys, and the four boxes one after the other. -/
structure State where
  subkeys : Array UInt32
  boxes : Array UInt32

def State.initial : State where
  subkeys := piWords.extract 0 18
  boxes := piWords.extract 18 wordCount

/-- The round function: one word of each box, chosen by the four bytes. -/
def scramble (boxes : Array UInt32) (x : UInt32) : UInt32 :=
  let a := boxes.getD (x >>> 24).toNat 0
  let b := boxes.getD (256 + ((x >>> 16) &&& 0xFF).toNat) 0
  let c := boxes.getD (512 + ((x >>> 8) &&& 0xFF).toNat) 0
  let d := boxes.getD (768 + (x &&& 0xFF).toNat) 0
  ((a + b) ^^^ c) + d

/-- The rounds that are left, each with the next subkey. -/
def rounds (subkeys boxes : Array UInt32) : Nat → Nat → UInt32 → UInt32 → UInt32 × UInt32
  | 0, _, left, right => (left, right)
  | count + 1, i, left, right =>
    let left := left ^^^ subkeys.getD i 0
    rounds subkeys boxes count (i + 1) (right ^^^ scramble boxes left) left

def encipher (subkeys boxes : Array UInt32) (left right : UInt32) : UInt32 × UInt32 :=
  let (left, right) := rounds subkeys boxes 16 0 left right
  (right ^^^ subkeys.getD 17 0, left ^^^ subkeys.getD 16 0)

/-- Four bytes of the key from the given place on, the key being repeated without end. -/
def cyclicWord (key : Array UInt8) (place : Nat) : UInt32 :=
  let byte (i : Nat) := key.getD ((place + i) % key.size) 0
  bigEndianWord (byte 0) (byte 1) (byte 2) (byte 3)

/-- Pairs of subkeys are replaced by what the cipher makes of the last pair and the salt. -/
def fillSubkeys (boxes : Array UInt32) (salt : Array UInt8) :
    Nat → Nat → Array UInt32 → UInt32 → UInt32 → Array UInt32 × UInt32 × UInt32
  | 0, _, subkeys, left, right => (subkeys, left, right)
  | count + 1, i, subkeys, left, right =>
    let (left, right) := encipher subkeys boxes
      (left ^^^ cyclicWord salt (4 * i)) (right ^^^ cyclicWord salt (4 * i + 4))
    fillSubkeys boxes salt count (i + 2)
      ((subkeys.setIfInBounds i left).setIfInBounds (i + 1) right) left right

/-- Pairs of box words are replaced the same way; the salt goes on where the subkeys left it. -/
def fillBoxes (subkeys : Array UInt32) (salt : Array UInt8) :
    Nat → Nat → Array UInt32 → UInt32 → UInt32 → Array UInt32
  | 0, _, boxes, _, _ => boxes
  | count + 1, i, boxes, left, right =>
    let (left, right) := encipher subkeys boxes
      (left ^^^ cyclicWord salt (4 * (18 + i))) (right ^^^ cyclicWord salt (4 * (18 + i) + 4))
    fillBoxes subkeys salt count (i + 2)
      ((boxes.setIfInBounds i left).setIfInBounds (i + 1) right) left right

/-- The key is worked into the state under a salt. -/
def State.expand (state : State) (salt key : Array UInt8) : State :=
  let mixed := state.subkeys.mapIdx fun i x => x ^^^ cyclicWord key (4 * i)
  let (subkeys, left, right) := fillSubkeys state.boxes salt 9 0 mixed 0 0
  { subkeys, boxes := fillBoxes subkeys salt 512 0 state.boxes left right }

/-- The salt that changes nothing. -/
def noSalt : Array UInt8 :=
  Array.replicate 16 0

/-- Key and salt are worked in by turns. -/
def State.alternate (key salt : Array UInt8) : Nat → State → State
  | 0, state => state
  | count + 1, state =>
    State.alternate key salt count ((state.expand noSalt key).expand noSalt salt)

end Blowfish

end Crypto

end AuthGateway
