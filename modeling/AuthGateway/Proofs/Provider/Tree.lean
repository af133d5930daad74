import AuthGateway.Provider.Basic
import AuthGateway.Proofs.Provider.Answer
import AuthGateway.Proofs.Text.Split
import Mathlib.Data.List.Nodup

namespace AuthGateway

/-!
# Trees of providers

Composite providers within one another make a tree, whose leaves are the single providers.  An
account is offered to some of the leaves, to each with what is left of it when the names are taken off
that have led there.  These leaves are asked in turn, and nobody else is (`Provider.trace`).

Two cases are of interest.  An account without a colon names nobody and is offered to all leaves.  An
account that spells the way to one leaf is offered to this leaf only (`Provider.answers_of_tree`).
-/

/-- What is asked about an account. -/
inductive Question where
  | login (password : String)
  | get

/-- The kind of a question, as a call of a provider outside of the gateway shows it. -/
def Question.kind : Question → String
  | login _ => "login"
  | get => "get"

namespace Provider

def answer (p : Provider) : Question → String → Answer Identity
  | .login password, account => p.login account password
  | .get, account => p.get account

/-- The provider is a single one. -/
def isLeaf : Provider → Bool
  | composite .. => false
  | localUsers .. | database | directory _ | foreign _ => true

/-- A single provider in a tree, and the turns on the way to it. -/
structure Leaf where
  place : List Side
  provider : Provider

/-- The leaf as it is seen from one level above. -/
def Leaf.under (side : Side) (leaf : Leaf) : Leaf where
  place := side :: leaf.place
  provider := leaf.provider

/-- All leaves from left to right. -/
def leaves : Provider → List Leaf
  | composite _ first _ second =>
    first.leaves.map (.under .first) ++ second.leaves.map (.under .second)
  | p => [{ place := [], provider := p }]

/-- The leaves that an account is offered to, each with what is left of it there. -/
def offers : Provider → String → List (Leaf × String)
  | composite firstName first secondName second, account =>
    match route? firstName secondName account with
    | some (.first, rest) => (first.offers rest).map (Prod.map (.under .first) id)
    | some (.second, rest) => (second.offers rest).map (Prod.map (.under .second) id)
    | none =>
      (first.offers account).map (Prod.map (.under .first) id) ++
        (second.offers account).map (Prod.map (.under .second) id)
  | p, account => [({ place := [], provider := p }, account)]

def Side.digit : Side → Char
  | first => '1'
  | second => '2'

/-- A place as a text. -/
def placeText (place : List Side) : String :=
  String.ofList (place.map Side.digit)

/-- The provider as one outside of the gateway, every call of which shows under this name. -/
def seenAs (p : Provider) (name : String) : Provider :=
  .foreign {
    name
    login := fun account password => (p.login account password).ending
    get := fun account => (p.get account).ending
    list := p.list.ending }

/-- The tree in which each leaf is seen under the text of its place below `path`. -/
def exposedAt (path : List Side) : Provider → Provider
  | composite firstName first secondName second =>
    composite firstName (first.exposedAt (path ++ [.first]))
      secondName (second.exposedAt (path ++ [.second]))
  | p => p.seenAs (placeText path)

/-- The tree in which each leaf is seen under the text of its place. -/
def exposed (p : Provider) : Provider :=
  p.exposedAt []

section

variable {p : Provider} (leaf : p.isLeaf = true)

include leaf

theorem leaves_of_isLeaf : p.leaves = [{ place := [], provider := p }] := by
  cases p with
  | composite => exact absurd leaf Bool.false_ne_true
  | _ => rfl

theorem offers_of_isLeaf (account : String) :
    p.offers account = [({ place := [], provider := p }, account)] := by
  cases p with
  | composite => exact absurd leaf Bool.false_ne_true
  | _ => rfl

theorem exposedAt_of_isLeaf (path : List Side) : p.exposedAt path = p.seenAs (placeText path) := by
  cases p with
  | composite => exact absurd leaf Bool.false_ne_true
  | _ => rfl

end

section

variable (question : Question) (account : String)

theorem answer_composite (firstName : String) (first : Provider) (secondName : String)
    (second : Provider) :
    (composite firstName first secondName second).answer question account =
      match route? firstName secondName account with
      | some (.first, rest) => first.answer question rest
      | some (.second, rest) => second.answer question rest
      | none => (first.answer question account).orElse (second.answer question account) := by
  cases question with
  | login password => rfl
  | get => rfl

theorem answer_seenAs (p : Provider) (name : String) :
    (p.seenAs name).answer question account =
      .after (.ask name question.kind account) (.plain (p.answer question account).ending) := by
  cases question with
  | login password => rfl
  | get => rfl

/-- To see the leaves changes no answer. -/
theorem ending_exposedAt (p : Provider) (path : List Side) :
    ((p.exposedAt path).answer question account).ending = (p.answer question account).ending := by
  induction p generalizing path account with
  | composite firstName first secondName second firstHypothesis secondHypothesis =>
    rw [exposedAt, answer_composite, answer_composite]
    split
    · exact firstHypothesis _ _
    · exact secondHypothesis _ _
    · rw [Answer.ending_orElse, Answer.ending_orElse, firstHypothesis, secondHypothesis]
  | _ =>
    rw [exposedAt_of_isLeaf rfl, answer_seenAs]
    rfl

end

/-- The leaves that an account is offered to are asked in turn. -/
theorem inTurn_offers (p : Provider) (question : Question) (account : String) :
    Answer.InTurn (fun offer => offer.1.provider.answer question offer.2) (p.offers account)
      (p.answer question account) := by
  induction p generalizing account with
  | composite firstName first secondName second firstHypothesis secondHypothesis =>
    rw [offers, answer_composite]
    split
    · exact Answer.InTurn.map_iff.mpr (firstHypothesis _)
    · exact Answer.InTurn.map_iff.mpr (secondHypothesis _)
    · exact (Answer.InTurn.map_iff.mpr (firstHypothesis account)).orElse
        (Answer.InTurn.map_iff.mpr (secondHypothesis account))
  | _ =>
    rw [offers_of_isLeaf rfl]
    exact .single (fun offer : Leaf × String => offer.1.provider.answer question offer.2) _

/-- The leaf as it is seen in an exposed tree. -/
private def Leaf.seenAt (path : List Side) (leaf : Leaf) : Leaf where
  place := leaf.place
  provider := leaf.provider.seenAs (placeText (path ++ leaf.place))

private theorem map_under_seenAt (path : List Side) (side : Side) :
    Prod.map (.under side) id ∘ Prod.map (Leaf.seenAt (path ++ [side])) id =
      (Prod.map (Leaf.seenAt path) id ∘ Prod.map (.under side) id : Leaf × String → _) := by
  rw [Prod.map_comp_map, Prod.map_comp_map]
  congr 1
  funext leaf
  simp only [Function.comp_apply, Leaf.seenAt, Leaf.under, List.append_assoc, List.singleton_append]

private theorem offers_exposedAt (p : Provider) (path : List Side) (account : String) :
    (p.exposedAt path).offers account =
      (p.offers account).map (Prod.map (Leaf.seenAt path) id) := by
  induction p generalizing path account with
  | composite firstName first secondName second firstHypothesis secondHypothesis =>
    rw [exposedAt, offers, offers]
    split
    · rw [firstHypothesis, List.map_map, List.map_map, map_under_seenAt]
    · rw [secondHypothesis, List.map_map, List.map_map, map_under_seenAt]
    · rw [firstHypothesis, secondHypothesis, List.map_append, List.map_map, List.map_map,
        List.map_map, List.map_map, map_under_seenAt, map_under_seenAt]
  | _ =>
    rw [exposedAt_of_isLeaf rfl, offers_of_isLeaf rfl, offers_of_isLeaf rfl]
    simp only [List.map_singleton, Prod.map, Leaf.seenAt, List.append_nil, id_eq]

/-- Whichever leaves an account is offered to, they are asked in turn, each at most once and with what
is left of the account there, until one does not refuse; what this one says is the answer. -/
theorem trace (p : Provider) (question : Question) (account : String) :
    ∃ before last after, p.offers account = before ++ last :: after ∧
      (∀ offer ∈ before, (offer.1.provider.answer question offer.2).ending.isRefused = true) ∧
      (after ≠ [] → (last.1.provider.answer question last.2).ending.isRefused = false) ∧
      (p.answer question account).ending = (last.1.provider.answer question last.2).ending ∧
      (p.exposed.answer question account).calls = (before ++ [last]).map fun offer =>
        .ask (placeText offer.1.place) question.kind offer.2 := by
  have turn := p.exposed.inTurn_offers question account
  rw [exposed, offers_exposedAt, Answer.InTurn.map_iff] at turn
  rcases turn with ⟨before, last, after, listed, asked⟩
  have ending : ∀ offer : Leaf × String,
      ((offer.1.seenAt []).provider.answer question offer.2).ending =
        (offer.1.provider.answer question offer.2).ending := by
    intro offer
    rw [Leaf.seenAt, answer_seenAs]
    rfl
  refine ⟨before, last, after, listed, ?_, ?_, ?_, ?_⟩
  · intro offer member
    rw [← ending]
    exact asked.refused offer member
  · intro more
    rw [← ending]
    exact asked.decided more
  · rw [← ending_exposedAt question account p [], asked.ending]
    exact ending last
  · rw [exposed, asked.calls, List.map_eq_flatMap]
    congr 1
    funext offer
    exact congrArg Answer.calls (answer_seenAs question offer.2 offer.1.provider _)

/-! ## Accounts that name nobody, and accounts that name a leaf -/

section

variable {firstName secondName account : String}

/-- An account is cut at its first colon. -/
theorem cut?_eq_some_iff {name rest : String} :
    Text.cut? ':' account = some (name, rest) ↔
      ':' ∉ name.toList ∧ account = name ++ ":" ++ rest := by
  have joined : (name ++ ":" ++ rest).toList = name.toList ++ ':' :: rest.toList := by
    rw [String.toList_append, String.toList_append, List.append_assoc]
    rfl
  rw [Text.cut?_eq_some_iff, ← joined, String.toList_inj]

theorem route?_of_bare (bare : ':' ∉ account.toList) :
    route? firstName secondName account = none := by
  have uncut : Text.cut? ':' account = none := by
    rw [Text.cut?, Text.splitOnce?_of_not_mem bare, Option.map_none]
  rw [route?, uncut]

theorem route?_of_named {name : String} (clean : ':' ∉ name.toList) (rest : String) :
    route? firstName secondName (name ++ ":" ++ rest) =
      if name = firstName then some (.first, rest)
      else if name = secondName then some (.second, rest)
      else none := by
  rw [route?, cut?_eq_some_iff.mpr ⟨clean, rfl⟩]

/-- An account that names nobody is offered to all leaves. -/
theorem offers_of_bare (p : Provider) (bare : ':' ∉ account.toList) :
    p.offers account = p.leaves.map fun leaf => (leaf, account) := by
  induction p with
  | composite firstName first secondName second firstHypothesis secondHypothesis =>
    rw [offers, route?_of_bare bare, leaves]
    dsimp only
    rw [firstHypothesis, secondHypothesis, List.map_append, List.map_map, List.map_map, List.map_map,
      List.map_map]
    rfl
  | _ => rw [offers_of_isLeaf rfl, leaves_of_isLeaf rfl, List.map_singleton]

end

/-- The account begins with these names, each up to the next colon, and the rest is behind them. -/
inductive Spells : List String → String → String → Prop where
  | nil (rest : String) : Spells [] rest rest
  | cons {name : String} {names : List String} {rest account : String} (clean : ':' ∉ name.toList)
      (later : Spells names rest account) : Spells (name :: names) rest (name ++ ":" ++ account)

/-- The names lead to the leaf.  Of two with one name the first is meant. -/
inductive Leads : Provider → List String → Leaf → Prop where
  | here {p : Provider} (single : p.isLeaf = true) : Leads p [] { place := [], provider := p }
  | first {firstName secondName : String} {first second : Provider} {names : List String} {leaf : Leaf}
      (later : Leads first names leaf) :
      Leads (composite firstName first secondName second) (firstName :: names) (leaf.under .first)
  | second {firstName secondName : String} {first second : Provider} {names : List String} {leaf : Leaf}
      (different : secondName ≠ firstName) (later : Leads second names leaf) :
      Leads (composite firstName first secondName second) (secondName :: names) (leaf.under .second)

/-- An account that names a leaf is offered to this leaf only. -/
theorem offers_of_leads {p : Provider} {names : List String} {leaf : Leaf} (leads : p.Leads names leaf)
    {rest account : String} (spells : Spells names rest account) :
    p.offers account = [(leaf, rest)] := by
  induction leads generalizing account with
  | here single =>
    cases spells with
    | nil => exact offers_of_isLeaf single rest
  | first later inductionHypothesis =>
    cases spells with
    | cons clean spelled =>
      rw [offers, route?_of_named clean, if_pos rfl]
      dsimp only
      rw [inductionHypothesis spelled]
      rfl
  | second different later inductionHypothesis =>
    cases spells with
    | cons clean spelled =>
      rw [offers, route?_of_named clean, if_neg different, if_pos rfl]
      dsimp only
      rw [inductionHypothesis spelled]
      rfl

/-- What it answers is the answer of the leaf. -/
theorem answer_of_leads {p : Provider} {names : List String} {leaf : Leaf} (leads : p.Leads names leaf)
    {rest account : String} (spells : Spells names rest account) (question : Question) :
    p.answer question account = leaf.provider.answer question rest := by
  have turn := p.inTurn_offers question account
  rw [offers_of_leads leads spells] at turn
  exact turn.eq_of_single

/-- The leaf is asked once, and nobody else is. -/
theorem calls_of_leads {p : Provider} {names : List String} {leaf : Leaf} (leads : p.Leads names leaf)
    {rest account : String} (spells : Spells names rest account) (question : Question) :
    (p.exposed.answer question account).calls =
      [.ask (placeText leaf.place) question.kind rest] := by
  rcases p.trace question account with ⟨before, last, after, listed, -, -, -, calls⟩
  rw [offers_of_leads leads spells] at listed
  have alone : before = [] ∧ last = (leaf, rest) := by
    cases before with
    | nil => exact ⟨rfl, (List.cons.inj listed).1.symm⟩
    | cons first others => exact absurd (List.cons.inj listed).2 (by simp)
  rw [calls, alone.1, alone.2]
  rfl

/-! ## Lists of users -/

/-- The users in a list, if one is given. -/
def listed : Ending (List Identity) → List Identity
  | .value users => users
  | .refused _ | .crashed _ => []

/-- Unless a leaf crashes, all users of all leaves are listed. -/
private def ListsAll (p : Provider) (ending : Ending (List Identity)) : Prop :=
  ending = .value (p.leaves.flatMap fun leaf => listed leaf.provider.list.ending) ∨
    ∃ leaf ∈ p.leaves, ∃ message, leaf.provider.list.ending = .crashed message ∧
      ending = .crashed message

private theorem listsAll_recover_leaf {p : Provider} (leaf : p.isLeaf = true) :
    p.ListsAll (p.list.recover []).ending := by
  rw [ListsAll, leaves_of_isLeaf leaf, List.flatMap_singleton, Answer.recover, Answer.ending_orElse]
  cases ending : p.list.ending with
  | value users => exact Or.inl rfl
  | refused e => exact Or.inl rfl
  | crashed message => exact Or.inr ⟨_, List.mem_singleton_self _, message, ending, rfl⟩

private theorem listsAll_list {firstName secondName : String} {first second : Provider}
    (before : first.ListsAll (first.list.recover []).ending)
    (after : second.ListsAll (second.list.recover []).ending) :
    (composite firstName first secondName second).ListsAll
      (composite firstName first secondName second).list.ending := by
  have places : (composite firstName first secondName second).leaves =
      first.leaves.map (.under .first) ++ second.leaves.map (.under .second) := rfl
  rw [ListsAll, places, list, Answer.bind]
  rcases before with users | ⟨leaf, member, message, crashed, ending⟩
  · rw [users]
    dsimp only
    rw [Answer.bind]
    rcases after with others | ⟨leaf, member, message, crashed, ending⟩
    · rw [others, List.flatMap_append, List.flatMap_map, List.flatMap_map]
      exact Or.inl rfl
    · rw [ending]
      exact Or.inr ⟨leaf.under .second, List.mem_append_right _ (List.mem_map_of_mem member), message,
        crashed, rfl⟩
  · rw [ending]
    exact Or.inr ⟨leaf.under .first, List.mem_append_left _ (List.mem_map_of_mem member), message,
      crashed, rfl⟩

/-- A list that is given, or a crash, is not changed by looking past a refusal. -/
private theorem ListsAll.recover {p : Provider} {answer : Answer (List Identity)}
    (lists : p.ListsAll answer.ending) : p.ListsAll (answer.recover []).ending := by
  have kept : answer.ending.isRefused = false := by
    rcases lists with users | ⟨_, _, message, _, ending⟩
    · rw [users]
      rfl
    · rw [ending]
      rfl
  rwa [Answer.recover, Answer.orElse_of_not_refused kept]

private theorem listsAll_recover (p : Provider) : p.ListsAll (p.list.recover []).ending := by
  induction p with
  | composite firstName first secondName second firstHypothesis secondHypothesis =>
    exact (listsAll_list firstHypothesis secondHypothesis).recover
  | _ => exact listsAll_recover_leaf rfl

/-- A composite provider never refuses to list its users. -/
theorem list_of_composite {p : Provider} (composed : p.isLeaf = false) :
    p.list.ending = .value (p.leaves.flatMap fun leaf => listed leaf.provider.list.ending) ∨
      ∃ leaf ∈ p.leaves, ∃ message, leaf.provider.list.ending = .crashed message ∧
        p.list.ending = .crashed message := by
  cases p with
  | composite firstName first secondName second =>
    exact listsAll_list (listsAll_recover first) (listsAll_recover second)
  | _ => exact absurd composed (by simp [isLeaf])

/-! ## Trees as a whole -/

theorem placeText_injective : Function.Injective placeText := by
  have apart : Function.Injective Side.digit := by
    intro side side' same
    cases side with
    | first =>
      cases side' with
      | first => rfl
      | second => exact absurd same (by decide)
    | second =>
      cases side' with
      | first => exact absurd same (by decide)
      | second => rfl
  exact fun _ _ same => List.map_injective_iff.mpr apart (String.ofList_injective same)

/-- No two leaves of a tree have one place. -/
theorem nodup_places (p : Provider) : (p.leaves.map Leaf.place).Nodup := by
  induction p with
  | composite firstName first secondName second firstHypothesis secondHypothesis =>
    have places : ∀ (side : Side) (below : List Leaf),
        (below.map (.under side)).map Leaf.place = (below.map Leaf.place).map (side :: ·) := by
      intro side below
      rw [List.map_map, List.map_map]
      rfl
    rw [leaves, List.map_append, places, places, List.nodup_append]
    refine ⟨firstHypothesis.map (List.cons_injective), secondHypothesis.map List.cons_injective, ?_⟩
    intro place early place' late same
    rcases List.mem_map.mp early with ⟨_, _, rfl⟩
    rcases List.mem_map.mp late with ⟨_, _, rfl⟩
    exact absurd (List.cons.inj same).1 (by decide)
  | _ =>
    rw [leaves_of_isLeaf rfl]
    exact List.nodup_singleton _

/-- What a tree of providers does when it is asked about an account.  An account without a colon is
asked of the leaves from left to right, as it is, until one does not refuse; no two leaves have one
place, so none is asked twice.  An account that spells the way to a leaf is asked of this leaf only and
once, by what is behind the names, and the leaf has the last word.  A composite provider lists all users
that its leaves list, unless a leaf crashes. -/
theorem answers_of_tree (p : Provider) :
    (∀ question account, ':' ∉ account.toList →
      ∃ before leaf after, p.leaves = before ++ leaf :: after ∧
        (∀ other ∈ before, (other.provider.answer question account).ending.isRefused = true) ∧
        (after ≠ [] → (leaf.provider.answer question account).ending.isRefused = false) ∧
        (p.answer question account).ending = (leaf.provider.answer question account).ending ∧
        (p.exposed.answer question account).calls = (before ++ [leaf]).map fun asked =>
          .ask (placeText asked.place) question.kind account) ∧
    (∀ question account names leaf rest, Spells names rest account → p.Leads names leaf →
      p.answer question account = leaf.provider.answer question rest ∧
      (p.exposed.answer question account).calls =
        [.ask (placeText leaf.place) question.kind rest]) ∧
    (p.isLeaf = false →
      p.list.ending = .value (p.leaves.flatMap fun leaf => listed leaf.provider.list.ending) ∨
        ∃ leaf ∈ p.leaves, ∃ message, leaf.provider.list.ending = .crashed message ∧
          p.list.ending = .crashed message) ∧
    (∀ question account,
      (p.exposed.answer question account).ending = (p.answer question account).ending) ∧
    (p.leaves.map fun leaf => placeText leaf.place).Nodup := by
  refine ⟨?_, ?_, list_of_composite, fun question account => ending_exposedAt question account p [], ?_⟩
  · intro question account bare
    rcases p.trace question account with ⟨before, last, after, listed, refused, decided, ending, calls⟩
    rw [offers_of_bare p bare] at listed
    rcases List.map_eq_append_iff.mp listed with ⟨early, late, order, rfl, rest⟩
    rcases List.map_eq_cons_iff.mp rest with ⟨leaf, others, rfl, rfl, rfl⟩
    refine ⟨early, leaf, others, order, ?_, ?_, ending, ?_⟩
    · exact fun other member => refused (other, account) (List.mem_map_of_mem member)
    · exact fun more => decided fun none => more (List.map_eq_nil_iff.mp none)
    · rw [calls, List.map_append, List.map_append, List.map_map]
      rfl
  · intro question account names leaf rest spells leads
    exact ⟨answer_of_leads leads spells question, calls_of_leads leads spells question⟩
  · have apart := (nodup_places p).map placeText_injective
    rwa [List.map_map] at apart

/-- A provider outside that says this of everybody. -/
def saying (ending : Ending Identity) : Provider :=
  foreign {
    name := ""
    login := fun _ _ => ending
    get := fun _ => ending
    list := .value [] }

def guest : Identity where
  userType := ""
  uuid := ""
  name := "guest"
  account := "guest"
  groups := .empty
  status := 1

/-- A provider of two leaves, and beside it a leaf of the same name. -/
def twins : Provider :=
  composite "a" (composite "a" (saying (.refused .noSuchUser)) "b" (saying (.value guest)))
    "a" (saying (.value guest))

theorem answers_of_tree_twins :
    (':' ∉ "alice".toList ∧
      ∃ before leaf after, twins.leaves = before ++ leaf :: after ∧
        (twins.exposed.answer .get "alice").calls = (before ++ [leaf]).map fun asked =>
          .ask (placeText asked.place) "get" "alice") ∧
    (twins.exposed.answer .get "a:b:x:y").calls = [.ask "12" "get" "x:y"] ∧
    twins.list.ending = .value [] := by
  rcases answers_of_tree twins with ⟨bare, named, lists, -, -⟩
  have clean : ':' ∉ "alice".toList := by decide
  have spells : Spells ["a", "b"] "x:y" "a:b:x:y" :=
    .cons (by decide) (.cons (by decide) (.nil "x:y"))
  have leads : twins.Leads ["a", "b"]
      { place := [.first, .second], provider := saying (.value guest) } :=
    .first (.second (by decide) (.here rfl))
  refine ⟨⟨clean, ?_⟩, (named .get _ _ _ _ spells leads).2, ?_⟩
  · rcases bare .get "alice" clean with ⟨before, leaf, after, order, -, -, -, calls⟩
    exact ⟨before, leaf, after, order, calls⟩
  · rcases lists rfl with users | ⟨_, _, message, -, crashed⟩
    · exact users
    · change Ending.value [] = _ at crashed
      cases crashed

end Provider

end AuthGateway
