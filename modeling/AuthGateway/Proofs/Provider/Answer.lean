import AuthGateway.Provider.Answer

namespace AuthGateway

/-!
# Asking one after another

Several who may know an answer are asked one after another.  A refusal passes the question on to the
next one; whoever does not refuse is the last who is asked, and so is the last of all.  What this last
one says is the answer.
-/

/-- The ending is an error of the provider. -/
def Ending.isRefused {α : Type} : Ending α → Bool
  | refused _ => true
  | value _ | crashed _ => false

theorem Ending.ofExcept_eq_value_iff {α : Type} {outcome : Except AuthError α} {result : α} :
    Ending.ofExcept outcome = .value result ↔ outcome = .ok result := by
  cases outcome with
  | error e => simp [ofExcept]
  | ok other => simp [ofExcept]

/-- What is known is no crash. -/
theorem Ending.ofExcept_ne_crashed {α : Type} (outcome : Except AuthError α) (message : String) :
    Ending.ofExcept outcome ≠ .crashed message := by
  cases outcome with
  | error e => simp [ofExcept]
  | ok result => simp [ofExcept]

namespace Answer

variable {α ι κ : Type}

theorem orElse_of_refused {a b : Answer α} (refused : a.ending.isRefused = true) :
    a.orElse b = { calls := a.calls ++ b.calls, ending := b.ending } := by
  rcases a with ⟨calls, _ | e | message⟩
  · exact absurd refused Bool.false_ne_true
  · rfl
  · exact absurd refused Bool.false_ne_true

theorem orElse_of_not_refused {a b : Answer α} (kept : a.ending.isRefused = false) :
    a.orElse b = a := by
  rcases a with ⟨calls, _ | e | message⟩
  · rfl
  · exact absurd kept.symm Bool.false_ne_true
  · rfl

theorem ending_orElse (a b : Answer α) :
    (a.orElse b).ending = if a.ending.isRefused then b.ending else a.ending := by
  cases refused : a.ending.isRefused with
  | true => rw [orElse_of_refused refused, if_pos rfl]
  | false => rw [orElse_of_not_refused refused, if_neg Bool.false_ne_true]

/-- All before the last one refuse, and the last one does not unless nobody comes after. -/
structure AskedUpTo (ask : ι → Answer α) (before : List ι) (last : ι) (after : List ι)
    (answer : Answer α) : Prop where
  refused : ∀ one ∈ before, (ask one).ending.isRefused = true
  decided : after ≠ [] → (ask last).ending.isRefused = false
  calls : answer.calls = (before ++ [last]).flatMap fun one => (ask one).calls
  ending : answer.ending = (ask last).ending

/-- The answer of those in the list, who are asked in their order. -/
def InTurn (ask : ι → Answer α) (ones : List ι) (answer : Answer α) : Prop :=
  ∃ before last after, ones = before ++ last :: after ∧ AskedUpTo ask before last after answer

namespace InTurn

variable {ask : ι → Answer α} {xs ys : List ι} {a b : Answer α}

theorem single (ask : ι → Answer α) (one : ι) : InTurn ask [one] (ask one) := by
  refine ⟨[], one, [], rfl, ?_⟩
  exact {
    refused := fun _ member => absurd member List.not_mem_nil
    decided := fun more => absurd rfl more
    calls := (List.append_nil _).symm
    ending := rfl }

/-- If there is only one to ask, the answer is that of the one. -/
theorem eq_of_single {one : ι} (turn : InTurn ask [one] a) : a = ask one := by
  rcases turn with ⟨before, last, after, listed, asked⟩
  have alone : before = [] ∧ last = one ∧ after = [] := by
    cases before with
    | nil =>
      rcases List.cons.inj listed with ⟨same, none⟩
      exact ⟨rfl, same.symm, none.symm⟩
    | cons first rest => exact absurd (List.cons.inj listed).2 (by simp)
  rcases alone with ⟨rfl, rfl, rfl⟩
  have calls : a.calls = (ask last).calls := asked.calls.trans (List.append_nil _)
  cases a with
  | mk madeCalls ending =>
    have same : ending = (ask last).ending := asked.ending
    dsimp only at calls
    rw [calls, same]

/-- Those of a second list are asked after those of a first. -/
theorem orElse (first : InTurn ask xs a) (second : InTurn ask ys b) :
    InTurn ask (xs ++ ys) (a.orElse b) := by
  rcases first with ⟨before, last, after, rfl, asked⟩
  cases refused : (ask last).ending.isRefused with
  | false =>
    rw [orElse_of_not_refused (asked.ending ▸ refused)]
    refine ⟨before, last, after ++ ys, ?_, ?_⟩
    · rw [List.append_assoc, List.cons_append]
    · exact { asked with decided := fun _ => refused }
  | true =>
    have last_of_all : after = [] := by
      cases after with
      | nil => rfl
      | cons one more =>
        have decided := asked.decided (List.cons_ne_nil one more)
        exact absurd (refused.symm.trans decided) (by simp)
    rcases second with ⟨before', last', after', rfl, asked'⟩
    rw [orElse_of_refused (asked.ending ▸ refused), last_of_all]
    refine ⟨before ++ last :: before', last', after', ?_, ?_⟩
    · simp only [List.append_assoc, List.cons_append, List.nil_append]
    · constructor
      case refused =>
        intro one member
        rcases List.mem_append.mp member with early | late
        · exact asked.refused one early
        · rcases List.mem_cons.mp late with rfl | later
          · exact refused
          · exact asked'.refused one later
      case decided => exact asked'.decided
      case calls =>
        rw [asked.calls, asked'.calls, ← List.flatMap_append]
        simp only [List.append_assoc, List.cons_append, List.nil_append]
      case ending => exact asked'.ending

/-- It does not matter under which names those are listed who are asked. -/
theorem map_iff {name : κ → ι} {listed : List κ} :
    InTurn ask (listed.map name) a ↔ InTurn (fun one => ask (name one)) listed a := by
  constructor
  · rintro ⟨before, last, after, named, asked⟩
    rcases List.map_eq_append_iff.mp named with ⟨early, late, rfl, rfl, rest⟩
    rcases List.map_eq_cons_iff.mp rest with ⟨one, others, rfl, rfl, rfl⟩
    refine ⟨early, one, others, rfl, ?_⟩
    exact {
      refused := fun other member => asked.refused _ (List.mem_map_of_mem member)
      decided := fun more => asked.decided fun none => more (List.map_eq_nil_iff.mp none)
      calls := by
        rw [asked.calls, List.flatMap_append, List.flatMap_append, List.flatMap_map]
        rfl
      ending := asked.ending }
  · rintro ⟨before, last, after, rfl, asked⟩
    refine ⟨before.map name, name last, after.map name, ?_, ?_⟩
    · rw [List.map_append, List.map_cons]
    · exact {
        refused := fun one member => by
          rcases List.mem_map.mp member with ⟨other, early, rfl⟩
          exact asked.refused other early
        decided := fun more => asked.decided fun none => more (List.map_eq_nil_iff.mpr none)
        calls := by
          rw [asked.calls, List.flatMap_append, List.flatMap_append, List.flatMap_map]
          rfl
        ending := asked.ending }

end InTurn

end Answer

end AuthGateway
