namespace AuthGateway

namespace Text

/-!
Texts and the bytes that carry them.

A text is written as UTF-8.  Reading bytes back is strict (`decode?`) where a malformed
sequence must be refused, and forgiving (`decodeLossy`) where every maximal malformed piece
becomes one replacement character.  `hex` writes bytes as lower-case hexadecimal digits.
-/

abbrev Bytes := List UInt8

def encode (s : String) : Bytes :=
  s.toByteArray.data.toList

/-- The text that the bytes spell in UTF-8, if they spell one. -/
def decode? (bytes : Bytes) : Option String :=
  String.fromUTF8? ⟨bytes.toArray⟩

def replacement : Char :=
  Char.ofNat 0xFFFD

/-- What the first byte of a sequence announces. -/
inductive Lead where
  /-- The byte is a character by itself. -/
  | single
  /-- So many more bytes follow, the first of them between the two bounds. -/
  | more (count : Nat) (low high : UInt8)
  /-- No sequence starts with this byte. -/
  | malformed

/-- The bounds on the second byte exclude overlong forms, surrogates and values past U+10FFFF. -/
def Lead.ofByte (b : UInt8) : Lead :=
  if b < 0x80 then .single
  else if b < 0xC2 then .malformed
  else if b < 0xE0 then .more 1 0x80 0xBF
  else if b = 0xE0 then .more 2 0xA0 0xBF
  else if b = 0xED then .more 2 0x80 0x9F
  else if b < 0xF0 then .more 2 0x80 0xBF
  else if b = 0xF0 then .more 3 0x90 0xBF
  else if b < 0xF4 then .more 3 0x80 0xBF
  else if b = 0xF4 then .more 3 0x80 0x8F
  else .malformed

/-- The character of a complete sequence: the low bits of the lead, then six bits a byte. -/
private def scalarOf (lead : UInt8) (rest : Bytes) : Char :=
  let mask := match rest.length with
    | 1 => 0x1F
    | 2 => 0x0F
    | _ => 0x07
  Char.ofNat (rest.foldl (fun n b => n * 64 + (b.toNat &&& 0x3F)) (lead.toNat &&& mask))

private def isContinuation (b : UInt8) : Bool :=
  0x80 ≤ b && b ≤ 0xBF

/-- The characters of the bytes, with one replacement for each maximal malformed piece. -/
def scalars : Bytes → List Char
  | [] => []
  | a :: rest =>
    match Lead.ofByte a with
    | .single => Char.ofNat a.toNat :: scalars rest
    | .malformed => replacement :: scalars rest
    | .more count low high =>
      match rest with
      | [] => [replacement]
      | b :: rest₂ =>
        if low ≤ b && b ≤ high then
          if count = 1 then scalarOf a [b] :: scalars rest₂
          else
            match rest₂ with
            | [] => [replacement]
            | c :: rest₃ =>
              if isContinuation c then
                if count = 2 then scalarOf a [b, c] :: scalars rest₃
                else
                  match rest₃ with
                  | [] => [replacement]
                  | d :: rest₄ =>
                    if isContinuation d then scalarOf a [b, c, d] :: scalars rest₄
                    else replacement :: scalars (d :: rest₄)
              else replacement :: scalars (c :: rest₃)
        else replacement :: scalars (b :: rest₂)
termination_by bytes => bytes.length

/-- The text of the bytes, with one replacement for each maximal malformed piece. -/
def decodeLossy (bytes : Bytes) : String :=
  match decode? bytes with
  | some text => text
  | none => String.ofList (scalars bytes)

/-- The characters of the same numbers as the bytes. -/
def latin1 (bytes : Bytes) : String :=
  String.ofList (bytes.map fun b => Char.ofNat b.toNat)

/-- The bytes of the same numbers as the characters, if all of them are below 256. -/
def ofLatin1? (s : String) : Option Bytes :=
  s.toList.mapM fun c => if c.toNat < 256 then some (UInt8.ofNat c.toNat) else none

/-- Two lower-case hexadecimal digits a byte. -/
def hex (bytes : Bytes) : String :=
  String.ofList (bytes.flatMap fun b =>
    [Nat.digitChar (b.toNat / 16), Nat.digitChar (b.toNat % 16)])

def hexDigit? (c : Char) : Option Nat :=
  if '0' ≤ c ∧ c ≤ '9' then some (c.toNat - '0'.toNat)
  else if 'a' ≤ c ∧ c ≤ 'f' then some (c.toNat - 'a'.toNat + 10)
  else if 'A' ≤ c ∧ c ≤ 'F' then some (c.toNat - 'A'.toNat + 10)
  else none

def unhexChars : List Char → Option Bytes
  | [] => some []
  | [_] => none
  | a :: b :: rest => do
    let high ← hexDigit? a
    let low ← hexDigit? b
    let tail ← unhexChars rest
    return UInt8.ofNat (high * 16 + low) :: tail

def unhex? (s : String) : Option Bytes :=
  unhexChars s.toList

end Text

end AuthGateway
