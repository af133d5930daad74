import AuthGateway.Proofs.Json.Literal
import AuthGateway.Proofs.Json.Number

namespace AuthGateway

namespace Json

/-!
# Values are read back from their compact text

A value is plain if each of its literals spells a text and each of its numbers is whole, at
whatever depth.  The compact text of a plain value is read as that value (`parse?_encode_compact`).

The reader takes a value off the front of the bytes, so the induction is about a value and the
bytes behind it, which must not go on with a number.  Every container takes two steps of the
reader and at least two bytes, and that is why twice the length is fuel enough.
-/

open Text (Bytes)

mutual

/-- Each literal spells a text and each number is whole. -/
def isPlain : Json → Bool
  | .null => true
  | .bool _ => true
  | .number value => value.isSome
  | .string text => text.isSome
  | .array items => arePlain items
  | .object members => membersPlain members

/-- All items are plain. -/
def arePlain : List Json → Bool
  | [] => true
  | item :: rest => item.isPlain && arePlain rest

/-- All members have readable names and plain values. -/
def membersPlain : List (Option String × Json) → Bool
  | [] => true
  | (name, value) :: rest => name.isSome && value.isPlain && membersPlain rest

end

/-- The bytes of the compact text. -/
def bytes (v : Json) : Bytes :=
  v.chars.flatMap String.utf8EncodeChar

/-- The bytes of items between commas. -/
def itemBytes (items : List Json) : Bytes :=
  (itemChars items).flatMap String.utf8EncodeChar

/-- The bytes of members between commas. -/
def memberBytes (members : List (Option String × Json)) : Bytes :=
  (memberChars members).flatMap String.utf8EncodeChar

/-- The bytes of a text behind its opening quote. -/
def quotedBytes (s : String) : Bytes :=
  (s.toList.flatMap escapeChar).flatMap String.utf8EncodeChar ++ [0x22]

private theorem flatMap_quote (s : String) :
    (quote s).flatMap String.utf8EncodeChar = 0x22 :: quotedBytes s := by
  rw [quote, List.cons_append, List.flatMap_cons, List.flatMap_append]
  rfl

theorem literal?_quotedBytes (s : String) (rest : Bytes) :
    literal? .start (quotedBytes s ++ rest) = some (some s, rest) := by
  rw [quotedBytes, List.append_assoc]
  exact literal?_start_quoted s rest

theorem bytes_number (n : Int) : (number (some n)).bytes = Text.encode (toString n) := by
  rw [bytes, chars, Text.encode_eq_flatMap]

theorem bytes_string (s : String) : (string (some s)).bytes = 0x22 :: quotedBytes s := by
  rw [bytes, chars, quoteLiteral, flatMap_quote]

theorem bytes_array (items : List Json) :
    (array items).bytes = 0x5B :: (itemBytes items ++ [0x5D]) := by
  rw [bytes, chars, List.cons_append, List.flatMap_cons, List.flatMap_append]
  rfl

theorem bytes_object (members : List (Option String × Json)) :
    (object members).bytes = 0x7B :: (memberBytes members ++ [0x7D]) := by
  rw [bytes, chars, List.cons_append, List.flatMap_cons, List.flatMap_append]
  rfl

theorem itemBytes_singleton (item : Json) : itemBytes [item] = item.bytes := by
  rw [itemBytes, itemChars, bytes]

theorem itemBytes_cons_cons (item next : Json) (rest : List Json) :
    itemBytes (item :: next :: rest) = item.bytes ++ 0x2C :: itemBytes (next :: rest) := by
  rw [itemBytes, itemChars, List.flatMap_append, List.flatMap_cons]
  · rfl
  · simp

theorem memberBytes_singleton (name : String) (value : Json) :
    memberBytes [(some name, value)] = 0x22 :: (quotedBytes name ++ 0x3A :: value.bytes) := by
  rw [memberBytes, memberChars, quoteLiteral, List.flatMap_append, flatMap_quote,
    List.flatMap_cons]
  rfl

theorem memberBytes_cons_cons (name : String) (value : Json) (next : Option String × Json)
    (rest : List (Option String × Json)) :
    memberBytes ((some name, value) :: next :: rest) =
      0x22 :: (quotedBytes name ++ 0x3A :: (value.bytes ++ 0x2C :: memberBytes (next :: rest))) := by
  rw [memberBytes, memberChars, quoteLiteral, List.flatMap_append, List.flatMap_append,
    flatMap_quote, List.flatMap_cons, List.flatMap_cons]
  · simp only [List.append_assoc, List.cons_append]
    rfl
  · simp

private theorem skipSpace_cons {b : UInt8} (solid : isSpace b = false) (rest : Bytes) :
    skipSpace (b :: rest) = b :: rest :=
  List.dropWhile_cons_of_neg (by simp [solid])

/-- The first byte of a number is neither a blank nor the start of any other value. -/
private theorem number_front {b : UInt8} (front : b = 0x2D ∨ 0x30 ≤ b.toNat ∧ b.toNat ≤ 0x39) :
    isSpace b = false ∧ b ≠ 0x5D ∧ b ≠ 0x7B ∧ b ≠ 0x5B ∧ b ≠ 0x22 ∧ b ≠ 0x6E ∧ b ≠ 0x74
      ∧ b ≠ 0x66 := by
  have apart : ∀ c : UInt8, c.toNat < 0x2D ∨ 0x39 < c.toNat → b ≠ c := by
    rintro c outside rfl
    rcases front with rfl | digit
    · exact absurd outside (by decide)
    · omega
  simp only [isSpace, Bool.or_eq_false_iff, beq_eq_false_iff_ne]
  refine ⟨⟨⟨⟨?_, ?_⟩, ?_⟩, ?_⟩, ?_, ?_, ?_, ?_, ?_, ?_, ?_⟩ <;> exact apart _ (by decide)

/-- A value starts with a byte that is no blank and closes no array. -/
theorem bytes_eq_cons {v : Json} (plain : v.isPlain) :
    ∃ b more, v.bytes = b :: more ∧ isSpace b = false ∧ b ≠ 0x5D := by
  cases v with
  | null => exact ⟨0x6E, _, rfl, rfl, by decide⟩
  | bool b =>
    cases b with
    | true => exact ⟨0x74, _, rfl, rfl, by decide⟩
    | false => exact ⟨0x66, _, rfl, rfl, by decide⟩
  | number value =>
    rcases Option.isSome_iff_exists.mp plain with ⟨n, rfl⟩
    rcases encode_toString_eq_cons n with ⟨b, more, whole, front⟩
    exact ⟨b, more, (bytes_number n).trans whole, (number_front front).1, (number_front front).2.1⟩
  | string text =>
    rcases Option.isSome_iff_exists.mp plain with ⟨s, rfl⟩
    exact ⟨0x22, _, bytes_string s, rfl, by decide⟩
  | array items => exact ⟨0x5B, _, bytes_array items, rfl, by decide⟩
  | object members => exact ⟨0x7B, _, bytes_object members, rfl, by decide⟩

private theorem value?_null (fuel : Nat) (rest : Bytes) :
    value? (fuel + 1) (null.bytes ++ rest) = some (null, rest) := by
  rfl

private theorem value?_bool (fuel : Nat) (b : Bool) (rest : Bytes) :
    value? (fuel + 1) ((bool b).bytes ++ rest) = some (bool b, rest) := by
  cases b <;> rfl

private theorem value?_number (fuel : Nat) (n : Int) {rest : Bytes} (closed : Closed rest) :
    value? (fuel + 1) ((number (some n)).bytes ++ rest) = some (number (some n), rest) := by
  have read := number?_toString n closed
  rcases encode_toString_eq_cons n with ⟨b, more, whole, front⟩
  rw [bytes_number, whole, List.cons_append]
  rw [whole, List.cons_append] at read
  have apart := number_front front
  rw [value?, skipSpace_cons apart.1]
  simp only [apart, if_false]
  exact read

private theorem value?_string (fuel : Nat) (s : String) (rest : Bytes) :
    value? (fuel + 1) ((string (some s)).bytes ++ rest) = some (string (some s), rest) := by
  rw [bytes_string, List.cons_append, value?, skipSpace_cons rfl]
  simp [literal?_quotedBytes]

/-- An array is its items, if the bytes behind the bracket do not close it at once. -/
private theorem value?_bracket (fuel : Nat) {b : UInt8} (solid : isSpace b = false) (item : b ≠ 0x5D)
    (rest : Bytes) : value? (fuel + 1) (0x5B :: b :: rest) = items? fuel [] (b :: rest) := by
  rw [value?, skipSpace_cons rfl]
  simp only [skipSpace_cons solid, if_true]
  rw [if_neg (by decide)]
  split
  · rename_i same
    exact absurd (List.cons.inj same).1 item
  · rfl

/-- An object is its members, if the bytes behind the brace do not close it at once. -/
private theorem value?_brace (fuel : Nat) (rest : Bytes) :
    value? (fuel + 1) (0x7B :: 0x22 :: rest) = members? fuel [] (0x22 :: rest) := by
  rfl

private theorem memberBytes_eq_cons {name : Option String} {value : Json}
    (others : List (Option String × Json)) (plain : membersPlain ((name, value) :: others)) :
    ∃ back, memberBytes ((name, value) :: others) = 0x22 :: back := by
  simp only [membersPlain, Bool.and_eq_true] at plain
  rcases Option.isSome_iff_exists.mp plain.1.1 with ⟨s, rfl⟩
  cases others with
  | nil => exact ⟨_, memberBytes_singleton s value⟩
  | cons next others => exact ⟨_, memberBytes_cons_cons s value next others⟩

private theorem itemBytes_eq_cons {item : Json} (others : List Json)
    (plain : arePlain (item :: others)) :
    ∃ b back, itemBytes (item :: others) = b :: back ∧ isSpace b = false ∧ b ≠ 0x5D := by
  rcases bytes_eq_cons (Bool.and_eq_true_iff.mp plain).1 with ⟨b, front, first, solid, opens⟩
  cases others with
  | nil => exact ⟨b, front, (itemBytes_singleton item).trans first, solid, opens⟩
  | cons next others =>
    rw [itemBytes_cons_cons, first]
    exact ⟨b, _, rfl, solid, opens⟩

/-- A member is its name, a colon and its value, and what follows says whether there are more. -/
private theorem members?_quote {fuel : Nat} (before : List (Option String × Json)) (name : String)
    {item : Json} {b : UInt8} {written rest : Bytes} (solid : isSpace b = false)
    (value : value? fuel written = some (item, b :: rest)) :
    members? (fuel + 1) before (0x22 :: (quotedBytes name ++ 0x3A :: written)) =
      if b = 0x2C then members? fuel ((some name, item) :: before) rest
      else if b = 0x7D then some (.object ((some name, item) :: before).reverse, rest)
      else none := by
  have colon : isSpace 0x3A = false := rfl
  rw [members?, skipSpace_cons rfl]
  simp only [ne_eq, not_true_eq_false, if_false, literal?_quotedBytes, skipSpace_cons colon, value,
    skipSpace_cons solid]

mutual

/-- A plain value is read off the front of the bytes. -/
theorem value?_bytes : ∀ (fuel : Nat) (v : Json), v.isPlain → 2 * v.bytes.length ≤ fuel →
    ∀ rest, Closed rest → value? fuel (v.bytes ++ rest) = some (v, rest)
  | 0, v, plain, enough, rest, closed => by
    rcases bytes_eq_cons plain with ⟨b, more, whole, -⟩
    simp [whole] at enough
  | fuel + 1, .null, plain, enough, rest, closed => value?_null fuel rest
  | fuel + 1, .bool b, plain, enough, rest, closed => value?_bool fuel b rest
  | fuel + 1, .number value, plain, enough, rest, closed => by
    rcases Option.isSome_iff_exists.mp plain with ⟨n, rfl⟩
    exact value?_number fuel n closed
  | fuel + 1, .string text, plain, enough, rest, closed => by
    rcases Option.isSome_iff_exists.mp plain with ⟨s, rfl⟩
    exact value?_string fuel s rest
  | fuel + 1, .array [], plain, enough, rest, closed => rfl
  | fuel + 1, .array (item :: others), plain, enough, rest, closed => by
    rw [bytes_array, List.length_cons, List.length_append] at enough
    rw [bytes_array, List.cons_append, List.append_assoc, List.singleton_append]
    have read := items?_itemBytes fuel item others plain (by omega) [] rest
    rcases itemBytes_eq_cons others plain with ⟨b, back, start, solid, opens⟩
    rw [start, List.cons_append] at read ⊢
    rw [value?_bracket fuel solid opens, read]
    rfl
  | fuel + 1, .object [], plain, enough, rest, closed => rfl
  | fuel + 1, .object ((name, value) :: others), plain, enough, rest, closed => by
    rw [bytes_object, List.length_cons, List.length_append] at enough
    rw [bytes_object, List.cons_append, List.append_assoc, List.singleton_append]
    have read := members?_memberBytes fuel name value others plain (by omega) [] rest
    rcases memberBytes_eq_cons others plain with ⟨back, start⟩
    rw [start, List.cons_append] at read ⊢
    rw [value?_brace, read]
    rfl

/-- The items of an array are read up to its closing bracket. -/
theorem items?_itemBytes : ∀ (fuel : Nat) (item : Json) (others : List Json),
    arePlain (item :: others) → 2 * (itemBytes (item :: others)).length + 1 ≤ fuel →
    ∀ (before : List Json) (rest : Bytes),
      items? fuel before (itemBytes (item :: others) ++ 0x5D :: rest) =
        some (.array (before.reverse ++ item :: others), rest)
  | 0, item, others, plain, enough, before, rest => absurd enough (Nat.not_succ_le_zero _)
  | fuel + 1, item, [], plain, enough, before, rest => by
    rcases Bool.and_eq_true_iff.mp plain with ⟨first, -⟩
    rw [itemBytes_singleton] at enough ⊢
    rw [items?, value?_bytes fuel item first (by omega) _ (closed_cons rfl rest)]
    simp [skipSpace_cons (show isSpace 0x5D = false from rfl)]
  | fuel + 1, item, next :: others, plain, enough, before, rest => by
    rcases Bool.and_eq_true_iff.mp plain with ⟨first, remaining⟩
    rw [itemBytes_cons_cons] at enough ⊢
    rw [List.length_append, List.length_cons] at enough
    rw [List.append_assoc, List.cons_append, items?,
      value?_bytes fuel item first (by omega) _ (closed_cons rfl _)]
    simp only [skipSpace_cons (show isSpace 0x2C = false from rfl), if_true]
    rw [items?_itemBytes fuel next others remaining (by omega)]
    simp

/-- The members of an object are read up to its closing brace. -/
theorem members?_memberBytes : ∀ (fuel : Nat) (name : Option String) (value : Json)
    (others : List (Option String × Json)), membersPlain ((name, value) :: others) →
    2 * (memberBytes ((name, value) :: others)).length + 1 ≤ fuel →
    ∀ (before : List (Option String × Json)) (rest : Bytes),
      members? fuel before (memberBytes ((name, value) :: others) ++ 0x7D :: rest) =
        some (.object (before.reverse ++ (name, value) :: others), rest)
  | 0, name, value, others, plain, enough, before, rest => absurd enough (Nat.not_succ_le_zero _)
  | fuel + 1, name, value, [], plain, enough, before, rest => by
    simp only [membersPlain, Bool.and_eq_true] at plain
    rcases Option.isSome_iff_exists.mp plain.1.1 with ⟨s, rfl⟩
    rw [memberBytes_singleton] at enough ⊢
    simp only [List.length_cons, List.length_append] at enough
    have read := value?_bytes fuel value plain.1.2 (by omega) _ (closed_cons (b := 0x7D) rfl rest)
    rw [List.cons_append, List.append_assoc, List.cons_append, members?_quote before s rfl read]
    simp
  | fuel + 1, name, value, (following, item) :: others, plain, enough, before, rest => by
    rcases Bool.and_eq_true_iff.mp plain with ⟨first, remaining⟩
    rcases Bool.and_eq_true_iff.mp first with ⟨named, first⟩
    rcases Option.isSome_iff_exists.mp named with ⟨s, rfl⟩
    rw [memberBytes_cons_cons] at enough ⊢
    simp only [List.length_cons, List.length_append] at enough
    have read := fun more => value?_bytes fuel value first (by omega) _ (closed_cons (b := 0x2C) rfl more)
    rw [List.cons_append, List.append_assoc, List.cons_append, List.append_assoc,
      List.cons_append, members?_quote before s rfl (read _), if_pos rfl,
      members?_memberBytes fuel following item others remaining (by omega)]
    simp

end

/-- A plain value is read back from its compact text. -/
theorem parse?_encode_compact {v : Json} (plain : v.isPlain) :
    parse? (Text.encode v.compact) = some v := by
  have written : Text.encode v.compact = v.bytes := by rw [compact, Text.encode_ofList, bytes]
  have read := value?_bytes (2 * v.bytes.length + 2) v plain (Nat.le_add_right _ _) []
    (fun b first => absurd first (by simp))
  rw [List.append_nil] at read
  rw [written, parse?, read]
  rfl

end Json

end AuthGateway
