import AuthGateway.Json.Reader
import AuthGateway.Proofs.Json.RoundTrip
import Mathlib.Data.List.Nodup

namespace AuthGateway

namespace Json

/-!
# Records are read field by field

A record that was made of distinct names gives each declared field the value under its name, or nothing
if there is none.  If it was made of all its fields, each gets its own value back.
-/

/-- The items of a list are read one by one. -/
theorem asList?_map_of {α β : Type} {item? : Json → Option β} {f : α → Json} {g : α → β}
    (read : ∀ a, item? (f a) = some (g a)) (as : List α) :
    asList? item? (.array (as.map f)) = some (as.map g) := by
  rw [asList?]
  induction as with
  | nil => rfl
  | cons a rest inductionHypothesis =>
    rw [List.map_cons, List.mapM_cons, read, inductionHypothesis]
    rfl

/-- The items of a list come back when every item does. -/
theorem asList?_map {α : Type} {item? : Json → Option α} {f : α → Json}
    (read : ∀ a, item? (f a) = some a) (as : List α) :
    asList? item? (.array (as.map f)) = some as :=
  (asList?_map_of read as).trans (congrArg some (List.map_id as))

@[simp]
theorem asText?_text (s : String) : asText? (text s) = some s :=
  rfl

@[simp]
theorem asTexts?_texts (ss : List String) : asList? asText? (texts ss) = some ss :=
  asList?_map asText?_text ss

@[simp]
theorem asBool?_bool (b : Bool) : asBool? (.bool b) = some b :=
  rfl

theorem asInt?_int {low high n : Int} (least : low ≤ n) (greatest : n ≤ high) :
    asInt? low high (int n) = some n :=
  if_pos ⟨least, greatest⟩

theorem asNat?_nat {bits n : Nat} (small : n < 1 <<< bits) : asNat? bits (nat n) = some n :=
  if_pos ⟨Int.natCast_nonneg n, small⟩

theorem range_of_asInt? {low high n : Int} {value : Json} (read : asInt? low high value = some n) :
    low ≤ n ∧ n ≤ high := by
  unfold asInt? at read
  split at read
  · split at read
    · rename_i inside
      exact Option.some.inj read ▸ inside
    · exact absurd read (by simp)
  · exact absurd read (by simp)

theorem lt_of_asNat? {bits n : Nat} {value : Json} (read : asNat? bits value = some n) : n < 1 <<< bits := by
  unfold asNat? at read
  split at read
  · split at read
    · rename_i inside
      exact Option.some.inj read ▸ inside.2
    · exact absurd read (by simp)
  · exact absurd read (by simp)

/-- What holds of the fallback and of whatever is read holds of the field. -/
theorem orElse?_induction {α : Type} {motive : α → Prop} {fallback a : α} {value? : Json → Option α}
    {field : Option Json} (missing : motive fallback)
    (given : ∀ {value : Json} {a : α}, value? value = some a → motive a)
    (read : orElse? fallback value? field = some a) : motive a := by
  cases field with
  | none => exact Option.some.inj read ▸ missing
  | some value => exact given read

@[simp]
theorem asText?_ofOption (s : Option String) : asOption? asText? (ofOption text s) = some s := by
  cases s <;> rfl

private theorem find?_named (members : List (String × Json)) (name : String) :
    ((members.map fun (name, value) => (some name, value)).find? (·.1 == some name)).map (·.2) =
      members.lookup name := by
  induction members with
  | nil => rfl
  | cons first rest inductionHypothesis =>
    rw [List.map_cons, List.lookup_cons]
    by_cases same : name = first.1
    · rw [List.find?_cons_of_pos (by simp [same]), beq_iff_eq.mpr same]
      rfl
    · rw [List.find?_cons_of_neg (by simp [Ne.symm same]), beq_eq_false_iff_ne.mpr same]
      exact inductionHypothesis

private theorem lookup_of_mem {members : List (String × Json)} {name : String} {value : Json}
    (distinct : (members.map (·.1)).Nodup) (member : (name, value) ∈ members) :
    members.lookup name = some value := by
  induction members with
  | nil => exact absurd member List.not_mem_nil
  | cons first rest inductionHypothesis =>
    rcases List.nodup_cons.mp distinct with ⟨new, others⟩
    rcases List.mem_cons.mp member with rfl | later
    · exact List.lookup_cons_self
    · have other : name ≠ first.1 := by
        rintro rfl
        exact new (List.mem_map.mpr ⟨_, later, rfl⟩)
      rw [List.lookup_cons, beq_eq_false_iff_ne.mpr other]
      exact inductionHypothesis others later

/-- Each declared field of a record is given as the value under its name, if there is one.  The record
need not have a member for every field, nor a field for every member. -/
theorem fields?_record_declared {members : List (String × Json)}
    (distinct : (members.map (·.1)).Nodup) (declared : List String) :
    (record members).fields? declared = some (declared.map fun name => members.lookup name) := by
  have names : (members.map fun (name, value) => (some name, value)).map (·.1) =
      (members.map (·.1)).map some := by
    rw [List.map_map, List.map_map]
    rfl
  have readable : ((members.map (·.1)).map some).contains none = false := by simp
  have once : declared.any
      (fun name => 1 < ((members.map (·.1)).map some).count (some name)) = false := by
    rw [List.any_eq_false]
    intro name _
    have count := List.nodup_iff_count_le_one.mp
      (distinct.map (fun _ _ same => Option.some.inj same)) (some name)
    exact (decide_eq_true_iff.not).mpr (Nat.not_lt.mpr count)
  simp only [record, fields?, names, readable, once, Bool.false_eq_true, if_false]
  exact congrArg some (List.map_congr_left fun name _ => find?_named members name)

/-- The fields of a record, in the order of the declaration. -/
theorem fields?_record {members : List (String × Json)} (distinct : (members.map (·.1)).Nodup) :
    (record members).fields? (members.map (·.1)) = some (members.map fun member => some member.2) := by
  rw [fields?_record_declared distinct, List.map_map]
  exact congrArg some (List.map_congr_left fun member listed => lookup_of_mem distinct listed)

/-- A record is plain when its values are. -/
theorem isPlain_record (members : List (String × Json)) :
    (record members).isPlain = members.all fun member => member.2.isPlain := by
  rw [record, isPlain]
  induction members with
  | nil => rfl
  | cons member rest inductionHypothesis =>
    rw [List.map_cons, membersPlain, inductionHypothesis, List.all_cons, Option.isSome_some,
      Bool.true_and]

@[simp]
theorem isPlain_text (s : String) : (text s).isPlain = true :=
  rfl

@[simp]
theorem isPlain_bool (b : Bool) : (bool b).isPlain = true :=
  rfl

@[simp]
theorem isPlain_int (n : Int) : (int n).isPlain = true :=
  rfl

@[simp]
theorem isPlain_nat (n : Nat) : (nat n).isPlain = true :=
  rfl

theorem isPlain_array_map {α : Type} {f : α → Json} (plain : ∀ a, (f a).isPlain = true) (as : List α) :
    (array (as.map f)).isPlain = true := by
  rw [isPlain]
  induction as with
  | nil => rfl
  | cons a rest inductionHypothesis => rw [List.map_cons, arePlain, plain, inductionHypothesis, Bool.true_and]

@[simp]
theorem isPlain_texts (ss : List String) : (texts ss).isPlain :=
  isPlain_array_map isPlain_text ss

theorem isPlain_ofOption {α : Type} {f : α → Json} (plain : ∀ a, (f a).isPlain = true) (a : Option α) :
    (ofOption f a).isPlain = true := by
  cases a with
  | none => rfl
  | some a => exact plain a

end Json

end AuthGateway
