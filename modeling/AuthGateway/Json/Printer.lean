import AuthGateway.Json.Basic

namespace AuthGateway

namespace Json

/-!
The compact written form of a value: no blanks, members in their order, every character that
JSON lets stand left as it is.
-/

/-- A quote, a backslash and the controls are escaped; five controls have a letter. -/
def escapeChar (c : Char) : List Char :=
  if c = '"' then ['\\', '"']
  else if c = '\\' then ['\\', '\\']
  else if c.toNat = 0x08 then ['\\', 'b']
  else if c.toNat = 0x0C then ['\\', 'f']
  else if c = '\n' then ['\\', 'n']
  else if c = '\r' then ['\\', 'r']
  else if c = '\t' then ['\\', 't']
  else if c.toNat < 0x20 then
    ['\\', 'u', '0', '0', Nat.digitChar (c.toNat / 16), Nat.digitChar (c.toNat % 16)]
  else [c]

def quote (s : String) : List Char :=
  '"' :: s.toList.flatMap escapeChar ++ ['"']

/-- A literal that spells no text has no written form of its own. -/
def quoteLiteral : Option String → List Char
  | some s => quote s
  | none => quote ""

mutual

def chars : Json → List Char
  | .null => "null".toList
  | .bool true => "true".toList
  | .bool false => "false".toList
  | .number (some n) => (toString n).toList
  | .number none => "null".toList
  | .string literal => quoteLiteral literal
  | .array items => '[' :: itemChars items ++ [']']
  | .object members => '\x7b' :: memberChars members ++ ['\x7d']

def itemChars : List Json → List Char
  | [] => []
  | [item] => chars item
  | item :: rest => chars item ++ ',' :: itemChars rest

def memberChars : List (Option String × Json) → List Char
  | [] => []
  | [(name, value)] => quoteLiteral name ++ ':' :: chars value
  | (name, value) :: rest => quoteLiteral name ++ ':' :: chars value ++ ',' :: memberChars rest

end

def compact (value : Json) : String :=
  String.ofList value.chars

end Json

end AuthGateway
