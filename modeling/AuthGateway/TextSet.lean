namespace AuthGateway

/-!
Finite sets of texts, such as the groups of a user.

A set is its elements in ascending order of their characters, so that equal sets are equal
values and every set has one written form.
-/

structure TextSet where
  items : List String
  ordered : items.Pairwise (· < ·)
deriving DecidableEq

namespace TextSet

/-- The list with the text at its place, unless it is there. -/
def place (s : String) : List String → List String
  | [] => [s]
  | t :: rest => if s < t then s :: t :: rest else if s = t then t :: rest else t :: place s rest

theorem mem_place {s x : String} {xs : List String} : x ∈ place s xs ↔ x = s ∨ x ∈ xs := by
  induction xs with
  | nil => simp [place]
  | cons t rest ih =>
    unfold place
    split
    · simp
    · split
      · rename_i h
        subst h
        simp
      · simp only [List.mem_cons, ih]
        constructor
        · rintro (h | h | h) <;> simp [h]
        · rintro (h | h | h) <;> simp [h]

theorem ordered_place {s : String} {xs : List String} (h : xs.Pairwise (· < ·)) :
    (place s xs).Pairwise (· < ·) := by
  induction xs with
  | nil => simp [place]
  | cons t rest ih =>
    have ht := List.pairwise_cons.1 h
    unfold place
    split
    · rename_i hs
      refine List.pairwise_cons.2 ⟨fun x hx => ?_, h⟩
      rcases List.mem_cons.1 hx with rfl | hx
      · exact hs
      · exact String.lt_trans hs (ht.1 x hx)
    · split
      · exact h
      · rename_i hn hne
        refine List.pairwise_cons.2 ⟨fun x hx => ?_, ih ht.2⟩
        rcases mem_place.1 hx with rfl | hx
        · exact Decidable.byContradiction fun hlt =>
            hne (String.le_antisymm (String.not_lt.1 hlt) (String.not_lt.1 hn))
        · exact ht.1 x hx

def empty : TextSet where
  items := []
  ordered := List.Pairwise.nil

instance : Inhabited TextSet :=
  ⟨empty⟩

def insert (set : TextSet) (s : String) : TextSet where
  items := place s set.items
  ordered := ordered_place set.ordered

/-- The elements of a list, whatever their order and number. -/
def ofList (xs : List String) : TextSet :=
  xs.foldl insert empty

def toList (set : TextSet) : List String :=
  set.items

instance : Membership String TextSet :=
  ⟨fun set s => s ∈ set.items⟩

instance (s : String) (set : TextSet) : Decidable (s ∈ set) :=
  inferInstanceAs (Decidable (s ∈ set.items))

theorem mem_insert {s x : String} {set : TextSet} : x ∈ set.insert s ↔ x = s ∨ x ∈ set :=
  mem_place

/-- The elements of a list are what it lists. -/
theorem mem_ofList {x : String} {xs : List String} : x ∈ ofList xs ↔ x ∈ xs := by
  have general : ∀ set : TextSet, x ∈ xs.foldl insert set ↔ x ∈ set ∨ x ∈ xs := by
    induction xs with
    | nil => simp
    | cons s rest ih =>
      intro set
      simp only [List.foldl_cons, ih, mem_insert, List.mem_cons]
      constructor
      · rintro ((h | h) | h) <;> simp [h]
      · rintro (h | h | h) <;> simp [h]
  have outside : x ∉ empty := List.not_mem_nil
  simp [ofList, general, outside]

end TextSet

end AuthGateway
