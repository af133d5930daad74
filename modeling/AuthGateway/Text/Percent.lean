import AuthGateway.Text.Bytes

namespace AuthGateway

namespace Text

namespace Percent

/-!
Percent signs that stand for bytes.  Writing takes the set of characters that must be written
so; reading leaves a percent sign alone when no two hexadecimal digits follow it.
-/

/-- A byte as a percent sign and two digits in capitals. -/
def escape (b : UInt8) : List Char :=
  ['%', (Nat.digitChar (b.toNat / 16)).toUpper, (Nat.digitChar (b.toNat % 16)).toUpper]

/-- A character, escaped byte for byte if it is in the set or beyond ASCII. -/
def encodeChar (set : Char → Bool) (c : Char) : List Char :=
  if set c || 0x80 ≤ c.toNat then (encode (String.ofList [c])).flatMap escape else [c]

/-- The characters with those of the set escaped. -/
def encodeChars (set : Char → Bool) (cs : List Char) : List Char :=
  cs.flatMap (encodeChar set)

def isControl (c : Char) : Bool :=
  c.toNat < 0x20 || c.toNat = 0x7F

def fragment (c : Char) : Bool :=
  isControl c || " \"<>`".toList.contains c

def path (c : Char) : Bool :=
  fragment c || "#?\x7b\x7d".toList.contains c

def userinfo (c : Char) : Bool :=
  path c || "/:;=@[\\]^|".toList.contains c

def query (c : Char) : Bool :=
  isControl c || " \"#<>'".toList.contains c

/-- All but letters, digits and four marks: what a value inside a query escapes. -/
def component (c : Char) : Bool :=
  !(c.isAlphanum || "-._~".toList.contains c)

def encodeComponent (s : String) : String :=
  String.ofList (encodeChars component s.toList)

/-- The bytes that the escapes among them stand for, and the other bytes. -/
def decode : Bytes → Bytes
  | [] => []
  | b :: rest =>
    if b = 0x25 then
      match rest with
      | h :: l :: after =>
        match hexDigit? (Char.ofNat h.toNat), hexDigit? (Char.ofNat l.toNat) with
        | some high, some low => UInt8.ofNat (high * 16 + low) :: decode after
        | _, _ => b :: decode (h :: l :: after)
      | rest => b :: rest
    else b :: decode rest

end Percent

end Text

end AuthGateway
