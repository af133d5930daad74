import AuthGateway.Text.Bytes

namespace AuthGateway

namespace Crypto

/-!
Words of 32 bits and how byte runs are cut into them: big end first, in blocks, and with the
closing bit and length that the digests of the SHA family append.
-/

open Text (Bytes)

/-- The word turned left by so many bits, between 1 and 31. -/
def rotateLeft (x : UInt32) (n : UInt32) : UInt32 :=
  (x <<< n) ||| (x >>> (32 - n))

/-- The word turned right by so many bits, between 1 and 31. -/
def rotateRight (x : UInt32) (n : UInt32) : UInt32 :=
  (x >>> n) ||| (x <<< (32 - n))

def bigEndianWord (a b c d : UInt8) : UInt32 :=
  (a.toUInt32 <<< 24) ||| (b.toUInt32 <<< 16) ||| (c.toUInt32 <<< 8) ||| d.toUInt32

def bigEndianBytes (x : UInt32) : Bytes :=
  [(x >>> 24).toUInt8, (x >>> 16).toUInt8, (x >>> 8).toUInt8, x.toUInt8]

/-- The words of a byte run; an incomplete last one is dropped. -/
def bigEndianWords : Bytes → List UInt32
  | a :: b :: c :: d :: rest => bigEndianWord a b c d :: bigEndianWords rest
  | _ => []

/-- The number written with so many bytes, big end first. -/
def bigEndianNat (count n : Nat) : Bytes :=
  (List.range count).reverse.map fun i => UInt8.ofNat (n >>> (8 * i))

/-- The run in pieces of the given size, the last one as long as it is. -/
def chunks (size : Nat) (bytes : Bytes) : List Bytes :=
  if bytes.length = 0 ∨ size = 0 then []
  else bytes.take size :: chunks size (bytes.drop size)
termination_by bytes.length
decreasing_by
  simp only [List.length_drop]
  omega

/-- The message with a set bit, zeros, and its length in bits: a multiple of 64 bytes. -/
def padded (message : Bytes) : Bytes :=
  let zeros := (119 - message.length % 64) % 64
  message ++ 0x80 :: List.replicate zeros 0 ++ bigEndianNat 8 (message.length * 8)

end Crypto

end AuthGateway
