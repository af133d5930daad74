import AuthGateway.Text.Form
import AuthGateway.Proofs.Text.Percent
import AuthGateway.Proofs.Text.Split

namespace AuthGateway

namespace Text

namespace Form

/-!
# Forms are read as they were written

A byte of a name or a value may be written in more than one way: as it is, as an escape with digits
of either case, and a space as a plus sign.  Whichever way is chosen, the fields come back in their
order (`decodePairs_of_writes`).
-/

/-- The bytes that mean something in a form. -/
def marks : Bytes := [0x25, 0x26, 0x2B, 0x3D]

/-- The first run is a way to write the second. -/
inductive Spells : Bytes → Bytes → Prop where
  | nil : Spells [] []
  | kept {b : UInt8} {written bytes : Bytes} (plain : b ∉ marks) (rest : Spells written bytes) :
      Spells (b :: written) (b :: bytes)
  | plus {written bytes : Bytes} (rest : Spells written bytes) : Spells (0x2B :: written) (0x20 :: bytes)
  | escaped {h l : UInt8} {high low : Nat} {written bytes : Bytes}
      (first : hexDigit? (Char.ofNat h.toNat) = some high)
      (second : hexDigit? (Char.ofNat l.toNat) = some low) (rest : Spells written bytes) :
      Spells (0x25 :: h :: l :: written) (UInt8.ofNat (high * 16 + low) :: bytes)

/-- The run is a way to write the fields in their order. -/
inductive Writes : Bytes → List (String × String) → Prop where
  | nothing : Writes [] []
  | field {name value : String} {front back : Bytes} (left : Spells front (encode name))
      (right : Spells back (encode value)) : Writes (front ++ 0x3D :: back) [(name, value)]
  | append {front back : Bytes} {before after : List (String × String)} (early : Writes front before)
      (late : Writes back after) : Writes (front ++ 0x26 :: back) (before ++ after)

section

variable {written bytes : Bytes}

/-- Bytes that mean nothing in a form may stand for themselves. -/
theorem spells_self (plain : bytes.all (!marks.contains ·) = true) : Spells bytes bytes := by
  induction bytes with
  | nil => exact .nil
  | cons b rest inductionHypothesis =>
    rw [List.all_cons, Bool.and_eq_true, Bool.not_eq_true', List.contains_eq_mem,
      decide_eq_false_iff_not] at plain
    exact .kept plain.1 (inductionHypothesis plain.2)

/-- Plus signs stand for spaces, however many. -/
theorem spells_plus (spells : Spells written bytes) (count : Nat) :
    Spells (List.replicate count 0x2B ++ written) (List.replicate count 0x20 ++ bytes) := by
  induction count with
  | zero => exact spells
  | succ count inductionHypothesis =>
    rw [List.replicate_succ, List.replicate_succ, List.cons_append, List.cons_append]
    exact .plus inductionHypothesis

/-- Every byte may be escaped, and those that mean something in a form are. -/
theorem spells_flatMap_escapeByte {set : Char → Bool}
    (escapes : marks.all (fun b => set (Char.ofNat b.toNat)) = true) (bytes : Bytes) :
    Spells (bytes.flatMap (Percent.escapeByte set)) bytes := by
  induction bytes with
  | nil => exact .nil
  | cons b rest inductionHypothesis =>
    rw [List.flatMap_cons, Percent.escapeByte]
    split
    · have high := Percent.hexDigit?_toUpper (Nat.div_lt_of_lt_mul b.toNat_lt : b.toNat / 16 < 16)
      have low := Percent.hexDigit?_toUpper (Nat.mod_lt b.toNat (by decide) : b.toNat % 16 < 16)
      have spells := Spells.escaped high low inductionHypothesis
      rw [Nat.div_add_mod', UInt8.ofNat_toNat] at spells
      exact spells
    · rename_i kept
      refine .kept (fun mark => kept ?_) inductionHypothesis
      rw [List.all_eq_true.mp escapes b mark, Bool.true_or]

theorem spells_encodeComponent (s : String) : Spells (encode (Percent.encodeComponent s)) (encode s) := by
  rw [Percent.encodeComponent, Percent.encode_encodeChars, String.ofList_toList]
  exact spells_flatMap_escapeByte (by decide) (encode s)

/-- A name that means nothing in a form stands for itself, before any value as a component. -/
theorem writes_component {name : String} (plain : (encode name).all (!marks.contains ·) = true)
    (value : String) : Writes (encode (name ++ "=" ++ Percent.encodeComponent value)) [(name, value)] := by
  rw [encode_append, encode_append, List.append_assoc]
  exact .field (spells_self plain) (spells_encodeComponent value)

theorem writes_append {s t : String} {before after : List (String × String)}
    (early : Writes (encode s) before) (late : Writes (encode t) after) :
    Writes (encode (s ++ "&" ++ t)) (before ++ after) := by
  rw [encode_append, encode_append, List.append_assoc]
  exact .append early late

private theorem mark_of_digit {b : UInt8} {digit : Nat}
    (read : hexDigit? (Char.ofNat b.toNat) = some digit) : b ∉ marks := by
  have others : marks.all (fun b => (hexDigit? (Char.ofNat b.toNat)).isNone) = true := by decide
  intro mark
  rw [Option.isNone_iff_eq_none.mp (List.all_eq_true.mp others b mark)] at read
  exact absurd read (by simp)

/-- The bytes that separate fields and their parts are escaped. -/
private theorem separators_not_mem (spells : Spells written bytes) :
    0x26 ∉ written ∧ 0x3D ∉ written := by
  have others : ∀ {b : UInt8}, b ∉ marks → (0x26 : UInt8) ≠ b ∧ (0x3D : UInt8) ≠ b := by
    intro b plain
    constructor
    · rintro rfl
      exact plain (by decide)
    · rintro rfl
      exact plain (by decide)
  induction spells with
  | nil => exact ⟨List.not_mem_nil, List.not_mem_nil⟩
  | kept plain _ inductionHypothesis =>
    simp only [List.mem_cons, not_or]
    exact ⟨⟨(others plain).1, inductionHypothesis.1⟩, (others plain).2, inductionHypothesis.2⟩
  | plus _ inductionHypothesis =>
    simp only [List.mem_cons, not_or]
    exact ⟨⟨by decide, inductionHypothesis.1⟩, by decide, inductionHypothesis.2⟩
  | escaped first second _ inductionHypothesis =>
    have high := others (mark_of_digit first)
    have low := others (mark_of_digit second)
    simp only [List.mem_cons, not_or]
    exact ⟨⟨by decide, high.1, low.1, inductionHypothesis.1⟩, by decide, high.2, low.2,
      inductionHypothesis.2⟩

private theorem decode_of_spells (spells : Spells written bytes) :
    Percent.decode (written.map fun b => if b = 0x2B then 0x20 else b) = bytes := by
  have kept : ∀ {b : UInt8}, b ∉ marks → b ≠ 0x25 ∧ (if b = 0x2B then 0x20 else b) = b := by
    intro b plain
    constructor
    · rintro rfl
      exact plain (by decide)
    · rw [if_neg]
      rintro rfl
      exact plain (by decide)
  induction spells with
  | nil => rfl
  | kept plain _ inductionHypothesis =>
    rw [List.map_cons, (kept plain).2, Percent.decode_of_ne (kept plain).1, inductionHypothesis]
  | plus _ inductionHypothesis =>
    rw [List.map_cons, if_pos rfl, Percent.decode_of_ne (by decide), inductionHypothesis]
  | escaped first second _ inductionHypothesis =>
    rw [List.map_cons, List.map_cons, List.map_cons, (kept (mark_of_digit first)).2,
      (kept (mark_of_digit second)).2, if_neg (by decide), Percent.decode_digits first second,
      inductionHypothesis]

private theorem decodeText_of_spells {s : String} (spells : Spells written (encode s)) :
    decodeText written = s := by
  rw [decodeText, decode_of_spells spells, decodeLossy, decode?_encode]

/-- The fields come back, however they were written. -/
theorem decodePairs_of_writes {fields : List (String × String)} (writes : Writes written fields) :
    decodePairs written = fields := by
  induction writes with
  | nothing => rfl
  | @field name value front back left right =>
    have alone : 0x26 ∉ front ++ 0x3D :: back := by
      rw [List.mem_append, List.mem_cons]
      rintro (early | equals | late)
      · exact (separators_not_mem left).1 early
      · exact absurd equals (by decide)
      · exact (separators_not_mem right).1 late
    rw [decodePairs, splitAll_of_not_mem alone, List.filter_cons_of_pos (by simp), List.filter_nil,
      List.map_singleton, decodePair, splitOnce?_append (separators_not_mem left).2]
    dsimp only
    rw [decodeText_of_spells left, decodeText_of_spells right]
  | append _ _ early late =>
    rw [← early, ← late, decodePairs, splitAll_append_cons, List.filter_append, List.map_append]
    rfl

end

/-- No declared name is repeated. -/
theorem repeated?_eq_none {declared : List String} {pairs : List (String × String)}
    (single : ((pairs.map (·.1)).filter declared.contains).Nodup) : repeated? declared pairs = none := by
  have unmet : ∀ (pairs : List (String × String)) (met : List String),
      ((pairs.map (·.1)).filter declared.contains).Nodup →
        (∀ name ∈ (pairs.map (·.1)).filter declared.contains, name ∉ met) →
          repeated?.go declared met pairs = none := by
    intro pairs
    induction pairs with
    | nil => exact fun met _ _ => rfl
    | cons pair rest inductionHypothesis =>
      intro met distinct fresh
      rw [List.map_cons] at distinct fresh
      rw [repeated?.go]
      split
      · rename_i declaredName
        rw [List.filter_cons_of_pos declaredName] at distinct fresh
        rcases List.nodup_cons.mp distinct with ⟨first, others⟩
        have new : ¬ met.contains pair.1 = true := fun member =>
          fresh pair.1 List.mem_cons_self (List.contains_iff_mem.mp member)
        rw [if_neg new]
        refine inductionHypothesis (pair.1 :: met) others fun name member => ?_
        rw [List.mem_cons, not_or]
        exact ⟨fun same => first (same ▸ member), fresh name (List.mem_cons_of_mem _ member)⟩
      · rename_i other
        rw [List.filter_cons_of_neg other] at distinct fresh
        exact inductionHypothesis met distinct fresh
  exact unmet pairs [] single fun _ _ => List.not_mem_nil

end Form

end Text

end AuthGateway
