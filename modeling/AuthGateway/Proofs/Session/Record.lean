import AuthGateway.Proofs.Json.Reader
import AuthGateway.Proofs.Time.Rfc3339
import AuthGateway.Session.Record

namespace AuthGateway

/-!
# Session records come back

A session record is read back from its written form, whatever its texts hold and whenever the
login was.  The groups come back as the same set, since a set has one written form.
-/

namespace TextSet

theorem eq_of_items {left right : TextSet} (same : left.items = right.items) : left = right := by
  cases left
  cases right
  cases same
  rfl

private theorem place_of_forall_lt {s : String} {xs : List String} (greatest : ∀ x ∈ xs, x < s) :
    place s xs = xs ++ [s] := by
  induction xs with
  | nil => rfl
  | cons x rest inductionHypothesis =>
    have below := greatest x List.mem_cons_self
    rw [place, if_neg (String.lt_asymm below), if_neg (String.ne_of_lt below).symm,
      inductionHypothesis fun y member => greatest y (List.mem_cons_of_mem x member), List.cons_append]

private theorem items_foldl_insert {xs : List String} : ∀ {set : TextSet},
    (set.items ++ xs).Pairwise (· < ·) → (xs.foldl insert set).items = set.items ++ xs := by
  induction xs with
  | nil =>
    intro set _
    rw [List.foldl_nil, List.append_nil]
  | cons x rest inductionHypothesis =>
    intro set ordered
    have greatest : ∀ y ∈ set.items, y < x :=
      fun y member => (List.pairwise_append.mp ordered).2.2 y member x List.mem_cons_self
    have placed : (set.insert x).items = set.items ++ [x] := place_of_forall_lt greatest
    rw [List.append_cons] at ordered ⊢
    rw [List.foldl_cons, inductionHypothesis (placed ▸ ordered), placed]

/-- A set is the set of its elements. -/
theorem ofList_toList (set : TextSet) : ofList set.toList = set :=
  eq_of_items (items_foldl_insert set.ordered)

theorem ofJson?_toJson (set : TextSet) : ofJson? set.toJson = some set := by
  rw [toJson, Json.texts, ofJson?, Json.asList?_map Json.asText?_text, Option.map_some, ofList_toList]

end TextSet

namespace Session

theorem instant?_createdText (s : Session) : instant? (.text s.createdText) = some s.createdAt := by
  rw [instant?, Json.asText?_text, Option.bind_some, createdText,
    Time.Rfc3339.parse?_format (by decide)]

/-- A session record is read back from its written form. -/
theorem ofJson?_toJson (s : Session) : ofJson? s.toJson = some s := by
  have distinct : fieldNames.Nodup := by decide
  have fields : s.toJson.fields? fieldNames = _ := Json.fields?_record distinct
  rw [ofJson?, fields]
  simp only [List.map_cons, List.map_nil, Json.orElse?, Json.asText?_text, TextSet.ofJson?_toJson,
    instant?_createdText, Option.bind_eq_bind, Option.bind_some]
  rfl

/-- Each part of a written record is a text. -/
theorem isPlain_toJson (s : Session) : s.toJson.isPlain := by
  rw [toJson, Json.isPlain_record]
  simp [Json.text, Json.isPlain, TextSet.toJson, Json.isPlain_texts]

/-- The bytes of a record are read as the record. -/
theorem parse?_encode_compact (s : Session) :
    (Json.parse? (Text.encode s.toJson.compact)).bind ofJson? = some s := by
  rw [Json.parse?_encode_compact s.isPlain_toJson, Option.bind_some, ofJson?_toJson]

end Session

end AuthGateway
