import AuthGateway.Crypto.Word

namespace AuthGateway

namespace Crypto

namespace Sha1

/-!
The SHA-1 digest of FIPS 180-4.  It names things here (see `Uuid`) and guards nothing.
-/

open Text (Bytes)

structure State where
  a : UInt32
  b : UInt32
  c : UInt32
  d : UInt32
  e : UInt32

def State.initial : State where
  a := 0x67452301
  b := 0xEFCDAB89
  c := 0x98BADCFE
  d := 0x10325476
  e := 0xC3D2E1F0

def schedule (block : Bytes) : Array UInt32 :=
  (List.range 64).foldl
    (fun w i =>
      let at' (k : Nat) := w.getD (i + k) 0
      w.push (rotateLeft (at' 13 ^^^ at' 8 ^^^ at' 2 ^^^ at' 0) 1))
    (bigEndianWords block).toArray

/-- The choice function and the constant of a round. -/
def mix (i : Nat) (b c d : UInt32) : UInt32 × UInt32 :=
  if i < 20 then ((b &&& c) ||| (~~~b &&& d), 0x5A827999)
  else if i < 40 then (b ^^^ c ^^^ d, 0x6ED9EBA1)
  else if i < 60 then ((b &&& c) ||| (b &&& d) ||| (c &&& d), 0x8F1BBCDC)
  else (b ^^^ c ^^^ d, 0xCA62C1D6)

def round (w : Array UInt32) (s : State) (i : Nat) : State :=
  let (f, k) := mix i s.b s.c s.d
  { a := rotateLeft s.a 5 + f + s.e + k + w.getD i 0
    b := s.a
    c := rotateLeft s.b 30
    d := s.c
    e := s.d }

def compress (s : State) (block : Bytes) : State :=
  let t := (List.range 80).foldl (round (schedule block)) s
  { a := s.a + t.a, b := s.b + t.b, c := s.c + t.c, d := s.d + t.d, e := s.e + t.e }

def digest (message : Bytes) : Bytes :=
  let s := (chunks 64 (padded message)).foldl compress .initial
  [s.a, s.b, s.c, s.d, s.e].flatMap bigEndianBytes

end Sha1

end Crypto

end AuthGateway
