import AuthGateway.Text.Bytes

namespace AuthGateway

namespace Text

namespace Base64

/-!
Base64, read strictly.  Each byte run has exactly one written form: padding must be as the form
demands, and the unused bits of the last character must be zero.
-/

/-- A form: the characters of the sixty-four digits, and whether `=` fills the last group. -/
structure Form where
  alphabet : List Char
  padded : Bool

/-- `+` and `/` close the alphabet, and the last group is filled. -/
def standard : Form where
  alphabet := "ABCDEFGHIJKLMNOPQRSTUVWXYZabcdefghijklmnopqrstuvwxyz0123456789+/".toList
  padded := true

/-- `-` and `_` close the alphabet, and nothing is filled: safe in a URL and in a cookie. -/
def urlSafe : Form where
  alphabet := "ABCDEFGHIJKLMNOPQRSTUVWXYZabcdefghijklmnopqrstuvwxyz0123456789-_".toList
  padded := false

def Form.char (form : Form) (n : Nat) : Char :=
  form.alphabet.getD n '='

def Form.value? (form : Form) (c : Char) : Option Nat :=
  form.alphabet.idxOf? c

/-- What fills a group that lacks `n` characters. -/
def Form.fill (form : Form) (n : Nat) : List Char :=
  if form.padded then List.replicate n '=' else []

def Form.encodeChars (form : Form) : Bytes → List Char
  | [] => []
  | [a] =>
    let n := a.toNat * 16
    form.char (n / 64) :: form.char (n % 64) :: form.fill 2
  | [a, b] =>
    let n := (a.toNat * 256 + b.toNat) * 4
    form.char (n / 4096) :: form.char (n / 64 % 64) :: form.char (n % 64) :: form.fill 1
  | a :: b :: c :: rest =>
    let n := (a.toNat * 256 + b.toNat) * 256 + c.toNat
    form.char (n / 262144) :: form.char (n / 4096 % 64) :: form.char (n / 64 % 64)
      :: form.char (n % 64) :: form.encodeChars rest

def Form.lastOne? (form : Form) (a b : Char) : Option Bytes := do
  let n := (← form.value? a) * 64 + (← form.value? b)
  if n % 16 = 0 then some [UInt8.ofNat (n / 16)] else none

def Form.lastTwo? (form : Form) (a b c : Char) : Option Bytes := do
  let n := ((← form.value? a) * 64 + (← form.value? b)) * 64 + (← form.value? c)
  if n % 4 = 0 then some [UInt8.ofNat (n / 1024), UInt8.ofNat (n / 4 % 256)] else none

def Form.group? (form : Form) (a b c d : Char) : Option Bytes := do
  let n := (((← form.value? a) * 64 + (← form.value? b)) * 64 + (← form.value? c)) * 64
    + (← form.value? d)
  some [UInt8.ofNat (n / 65536), UInt8.ofNat (n / 256 % 256), UInt8.ofNat (n % 256)]

/-- Only the last group may be short, and a padded form fills it. -/
def Form.decodeChars (form : Form) : List Char → Option Bytes
  | [] => some []
  | [_] => none
  | [a, b] => if form.padded then none else form.lastOne? a b
  | [a, b, c] => if form.padded then none else form.lastTwo? a b c
  | a :: b :: c :: d :: rest =>
    if form.padded ∧ d = '=' ∧ rest = [] then
      if c = '=' then form.lastOne? a b else form.lastTwo? a b c
    else do
      let head ← form.group? a b c d
      let tail ← form.decodeChars rest
      return head ++ tail

def encode (form : Form) (bytes : Bytes) : String :=
  String.ofList (form.encodeChars bytes)

def decode? (form : Form) (s : String) : Option Bytes :=
  form.decodeChars s.toList

end Base64

end Text

end AuthGateway
