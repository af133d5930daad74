import AuthGateway.Proofs.Provider.Escape
import AuthGateway.Proofs.Text.Split

namespace AuthGateway

/-!
# What a search filter asks for

A filter is a test of an attribute, or it is made of other filters.  The filter for an account is made of
what the settings ask for and a test for the account.

What is read from it is exactly that.  The settings decide whether it can be read, and as what, and the
account is the value of the last test and nothing else (`Directory.Source.reads_filterFor`).  That is so
because a filter ends with a parenthesis, and none belongs to a value.  So the last test is the one that
was written last, however the text before it reads (`Directory.Reads.exists_of_item`).
-/

open Text (Bytes)

namespace Directory

/-- What a filter asks for. -/
inductive Filter where
  | all (parts : List Filter)
  | any (parts : List Filter)
  | negation (part : Filter)
  /-- A test, as it is written before its equals sign, and the pieces of the value behind it. -/
  | item (test : String) (pieces : List Bytes)

/-- The filter that a mark makes of others. -/
def Filter.compose? : Char → List Filter → Option Filter
  | '&', part :: parts => some (.all (part :: parts))
  | '|', part :: parts => some (.any (part :: parts))
  | '!', [part] => some (.negation part)
  | _, _ => none

/-- A character of an attribute and its options. -/
def isAttributeChar (c : Char) : Bool :=
  c.isAlphanum || "-.;".toList.contains c

/-- Whether the text names an attribute. -/
def isAttribute (cs : List Char) : Bool :=
  !cs.isEmpty && cs.all isAttributeChar

/-- Whether the text may stand before the pieces: an attribute, and before a single piece perhaps the
mark of a comparison or of a matching rule. -/
def isTest (cs : List Char) (pieces : List Bytes) : Bool :=
  !cs.isEmpty && cs.all fun c =>
    isAttributeChar c || pieces.length == 1 && ":~<>".toList.contains c

/-- The units of an item between its parentheses. -/
def within (test : List Char) (right : List Token) : List Token :=
  test.map .plain ++ .plain '=' :: right

/-- The units are those of the filters, one behind the other. -/
inductive Reads : List Token → List Filter → Prop where
  | nothing : Reads [] []
  | composed {mark : Char} {inner rest : List Token} {parts others : List Filter} {whole : Filter}
      (made : Filter.compose? mark parts = some whole) (joined : Reads inner parts)
      (after : Reads rest others) :
      Reads (.opening :: (.plain mark :: inner ++ .closing :: rest)) (whole :: others)
  | item {test : List Char} {right rest : List Token} {pieces : List Bytes} {others : List Filter}
      (values : pieces? right = some pieces) (legal : isTest test pieces = true) (after : Reads rest others) :
      Reads (.opening :: (within test right ++ .closing :: rest))
        (.item (String.ofList test) pieces :: others)

/-- The text is a filter. -/
def Filter.Reads (s : String) (f : Filter) : Prop :=
  Directory.Reads (tokens s.toList) [f]

/-- No parenthesis belongs to a value. -/
theorem parenthesis_not_mem_of_pieces? {units : List Token} {pieces : List Bytes}
    (values : pieces? units = some pieces) : .opening ∉ units ∧ .closing ∉ units := by
  induction units generalizing pieces with
  | nil => exact ⟨List.not_mem_nil, List.not_mem_nil⟩
  | cons unit rest inductionHypothesis =>
    have front : unit ≠ .opening ∧ unit ≠ .closing := by
      constructor
      · rintro rfl
        exact absurd values (by simp [pieces?, Token.octets?])
      · rintro rfl
        exact absurd values (by simp [pieces?, Token.octets?])
    have later : ∃ pieces, pieces? rest = some pieces := by
      rw [pieces?] at values
      split at values
      · rcases Option.map_eq_some_iff.mp values with ⟨others, read, -⟩
        exact ⟨others, read⟩
      · split at values
        · rename_i octets piece others read
          exact ⟨_, read⟩
        · exact absurd values (by simp)
    rcases later with ⟨others, read⟩
    rcases inductionHypothesis read with ⟨unopened, unclosed⟩
    exact ⟨List.not_mem_cons_of_ne_of_not_mem front.1.symm unopened,
      List.not_mem_cons_of_ne_of_not_mem front.2.symm unclosed⟩

/-- No mark belongs to a test, nor does an equals sign or what joins filters. -/
theorem unmarked_of_isTest {cs : List Char} {pieces : List Bytes} (legal : isTest cs pieces = true) :
    ∀ c ∈ cs, c ∉ marks ∧ c ∉ ['=', '&', '|', '!'] := by
  have others : (marks ++ ['=', '&', '|', '!']).all
      (fun d => !(isAttributeChar d || ":~<>".toList.contains d)) = true := by decide
  intro c member
  have listed : (isAttributeChar c || ":~<>".toList.contains c) = true := by
    have allowed := List.all_eq_true.mp (Bool.and_eq_true_iff.mp legal).2 c member
    rcases Bool.or_eq_true_iff.mp allowed with plain | tested
    · rw [plain, Bool.true_or]
    · rw [(Bool.and_eq_true_iff.mp tested).2, Bool.or_true]
  rw [← not_or, ← List.mem_append]
  intro other
  have unlisted := List.all_eq_true.mp others c other
  rw [listed] at unlisted
  exact absurd unlisted (by decide)

namespace Reads

theorem append {units more : List Token} {filters others : List Filter} (front : Reads units filters)
    (back : Reads more others) : Reads (units ++ more) (filters ++ others) := by
  induction front with
  | nothing => exact back
  | composed made joined _ _ inductionHypothesis =>
    rw [List.cons_append, List.append_assoc]
    exact .composed made joined inductionHypothesis
  | item values legal _ inductionHypothesis =>
    rw [List.cons_append, List.append_assoc]
    exact .item values legal inductionHypothesis

/-- Filters start with a parenthesis. -/
theorem starts {units : List Token} {filters : List Filter} (reads : Reads units filters) :
    units = [] ∨ ∃ rest, units = .opening :: rest := by
  cases reads with
  | nothing => exact Or.inl rfl
  | composed => exact Or.inr ⟨_, rfl⟩
  | item => exact Or.inr ⟨_, rfl⟩

/-- Filters end with a parenthesis. -/
theorem ends {units : List Token} {filters : List Filter} (reads : Reads units filters) :
    units = [] ∨ units.getLast? = some .closing := by
  have last : ∀ (head rest : List Token), (rest = [] ∨ rest.getLast? = some .closing) →
      (Token.opening :: (head ++ Token.closing :: rest)).getLast? = some .closing := by
    rintro head rest (rfl | ends)
    · rw [List.getLast?_cons, List.getLast?_concat, Option.getD_some]
    · rw [List.getLast?_cons, List.getLast?_append, List.getLast?_cons, ends]
      rfl
  induction reads with
  | nothing => exact Or.inl rfl
  | composed _ _ _ _ inductionHypothesis => exact Or.inr (last _ _ inductionHypothesis)
  | item _ _ _ inductionHypothesis => exact Or.inr (last _ _ inductionHypothesis)

/-- The last filter is either the one that starts here, or it lies behind it. -/
private theorem last_or_later {front head rest body : List Token} {others : List Filter}
    (unopened : .opening ∉ body) (after : Reads rest others)
    (same : front ++ .opening :: (body ++ [.closing]) = .opening :: (head ++ .closing :: rest)) :
    rest = [] ∧ front ++ .opening :: body = .opening :: head ∨
      ∃ middle, front = .opening :: (head ++ .closing :: middle) ∧
        rest = middle ++ .opening :: (body ++ [.closing]) := by
  change _ = (.opening :: head) ++ .closing :: rest at same
  rcases after.starts with rfl | ⟨inner, rfl⟩
  · rw [← List.cons_append, ← List.append_assoc, List.append_left_inj] at same
    exact Or.inl ⟨rfl, same⟩
  · rw [List.append_cons (.opening :: head)] at same
    refine Or.inr ?_
    rcases List.append_eq_append_iff.mp same with ⟨gap, whole, tail⟩ | ⟨gap, whole, tail⟩
    · cases gap with
      | nil =>
        rw [List.append_nil] at whole
        exact ⟨[], whole.symm, tail.symm⟩
      | cons unit gap =>
        have opened : Token.opening ∈ body ++ [.closing] := by
          rw [(List.cons.inj tail).2]
          exact List.mem_append_right gap List.mem_cons_self
        rcases List.mem_append.mp opened with inBody | last
        · exact absurd inBody unopened
        · exact absurd (List.mem_singleton.mp last) (by decide)
    · rw [← List.append_cons] at whole
      exact ⟨gap, whole, tail⟩

private theorem parenthesis_not_mem_within {right : List Token} {pieces : List Bytes}
    (values : pieces? right = some pieces) (test : List Char) :
    .opening ∉ within test right ∧ .closing ∉ within test right := by
  rcases parenthesis_not_mem_of_pieces? values with ⟨unopened, unclosed⟩
  simp [within, unopened, unclosed]

/-- A test ends at its first equals sign. -/
private theorem within_inj {test other : List Char} {right value : List Token}
    {pieces octets : List Bytes} (first : isTest test pieces = true) (second : isTest other octets = true)
    (same : within test right = within other value) : test = other ∧ right = value := by
  have clean : ∀ {cs : List Char} {pieces : List Bytes}, isTest cs pieces = true →
      Token.plain '=' ∉ cs.map Token.plain := by
    intro cs pieces legal member
    rcases List.mem_map.mp member with ⟨c, listed, equals⟩
    rw [Token.plain.inj equals] at listed
    exact (unmarked_of_isTest legal '=' listed).2 (by decide)
  have cut := congrArg (Text.splitOnce? (Token.plain '=')) same
  rw [within, within, Text.splitOnce?_append (clean first), Text.splitOnce?_append (clean second),
    Option.some.injEq, Prod.mk.injEq] at cut
  exact ⟨(List.map_inj_right fun _ _ => Token.plain.inj).mp cut.1, cut.2⟩

/-- A test at the end of the units is the last filter, and what is before it are the others. -/
theorem exists_of_item {front right : List Token} {test : List Char} {pieces : List Bytes}
    {filters : List Filter} (values : pieces? right = some pieces) (legal : isTest test pieces = true)
    (reads : Reads (front ++ .opening :: (within test right ++ [.closing])) filters) :
    ∃ before, Reads front before ∧ filters = before ++ [.item (String.ofList test) pieces] := by
  rcases parenthesis_not_mem_within values test with ⟨unopened, unclosed⟩
  generalize same : front ++ .opening :: (within test right ++ [.closing]) = units at reads
  induction reads generalizing front with
  | nothing => exact absurd same (by simp)
  | @composed mark inner rest parts others whole made joined after _ inductionHypothesis =>
    rcases last_or_later unopened after same with ⟨-, last⟩ | ⟨middle, rfl, later⟩
    · -- Then the units within would end with a parenthesis, and those of a test do not.
      have closed : (Token.opening :: within test right).getLast? = some .closing := by
        rcases joined.ends with rfl | ends
        · cases joined
          exact absurd made (by simp [Filter.compose?])
        · have same := congrArg List.getLast? last
          rw [List.getLast?_append, List.getLast?_cons, List.getLast?_cons, List.getLast?_cons, ends] at same
          rw [List.getLast?_cons]
          exact same
      rcases List.mem_cons.mp (List.mem_of_getLast? closed) with opening | inside
      · exact absurd opening (by decide)
      · exact absurd inside unclosed
    · rcases inductionHypothesis later.symm with ⟨before, early, rfl⟩
      exact ⟨whole :: before, .composed made joined early, rfl⟩
  | @item other value rest octets others read named after inductionHypothesis =>
    rcases last_or_later unopened after same with ⟨rfl, last⟩ | ⟨middle, rfl, later⟩
    · cases front with
      | nil =>
        rcases within_inj legal named (List.cons.inj last).2 with ⟨rfl, rfl⟩
        rw [values] at read
        cases read
        cases after
        exact ⟨[], .nothing, rfl⟩
      | cons unit front =>
        have opened : Token.opening ∈ within other value := by
          rw [← (List.cons.inj last).2]
          exact List.mem_append_right front List.mem_cons_self
        exact absurd opened (parenthesis_not_mem_within read other).1
    · rcases inductionHypothesis later.symm with ⟨before, early, rfl⟩
      exact ⟨_ :: before, .item read named early, rfl⟩

end Reads

theorem isTest_of_isAttribute {cs : List Char} (named : isAttribute cs = true) (pieces : List Bytes) :
    isTest cs pieces = true := by
  rcases Bool.and_eq_true_iff.mp named with ⟨nonempty, plain⟩
  refine Bool.and_eq_true_iff.mpr ⟨nonempty, List.all_eq_true.mpr fun c member => ?_⟩
  rw [List.all_eq_true.mp plain c member, Bool.true_or]

theorem Filter.compose?_all {parts : List Filter} (nonempty : parts ≠ []) :
    compose? '&' parts = some (.all parts) := by
  cases parts with
  | nil => exact absurd rfl nonempty
  | cons part parts => rfl

namespace Source

variable (s : Source) (account : String)

private theorem toList_filterFor :
    (s.filterFor account).toList =
      ("(&" ++ s.settings.userFilter ++ "(" ++ s.settings.uid).toList ++
        '=' :: (account.toList.flatMap escapeChar ++ [')', ')']) := by
  simp only [filterFor, filter, escape, String.toList_append, String.toList_ofList, List.append_assoc]
  rfl

private theorem tokens_value :
    tokens ('=' :: (account.toList.flatMap escapeChar ++ [')', ')'])) =
      .plain '=' :: (account.toList.map .ofAccount ++ [.closing, .closing]) := by
  rw [tokens_of_unmarked (by decide), tokens_escape_append]
  rfl

/-- The units of the filter are those of its settings around those of the account. -/
theorem tokens_filterFor :
    tokens (s.filterFor account).toList =
      tokens ("(&" ++ s.settings.userFilter ++ "(" ++ s.settings.uid ++ "=").toList ++
        (account.toList.map .ofAccount ++ [.closing, .closing]) := by
  have front : ("(&" ++ s.settings.userFilter ++ "(" ++ s.settings.uid ++ "=").toList =
      ("(&" ++ s.settings.userFilter ++ "(" ++ s.settings.uid).toList ++ ['='] := String.toList_append
  rw [toList_filterFor, tokens_append (by decide), tokens_value, front, tokens_append (by decide),
    List.append_assoc]
  rfl

/-- The account is the value of the last test of the filter. -/
private theorem tokens_filterFor_of_named (named : isAttribute s.settings.uid.toList = true) :
    tokens (s.filterFor account).toList =
      .opening :: (.plain '&' :: (tokens s.settings.userFilter.toList ++
        .opening :: (within s.settings.uid.toList (account.toList.map .ofAccount) ++ [.closing])) ++
        .closing :: []) := by
  have unmarked : ∀ c ∈ s.settings.uid.toList, c ∉ marks := fun c member =>
    (unmarked_of_isTest (isTest_of_isAttribute named []) c member).1
  have chars : (s.filterFor account).toList = '(' :: '&' :: (s.settings.userFilter.toList ++
      '(' :: (s.settings.uid.toList ++
        '=' :: (account.toList.flatMap escapeChar ++ [')', ')']))) := by
    rw [toList_filterFor]
    simp only [String.toList_append, List.append_assoc]
    rfl
  rw [chars, tokens_of_ne (by decide), tokens_of_unmarked (by decide), tokens_append (by decide),
    tokens_of_ne (by decide), tokens_plain unmarked, tokens_value, within]
  simp [Token.ofChar]

/-- The filter asks for what the settings ask for and the account, and for nothing else. -/
theorem reads_filterFor_iff (named : isAttribute s.settings.uid.toList = true) {f : Filter} :
    Filter.Reads (s.filterFor account) f ↔
      ∃ parts, Reads (tokens s.settings.userFilter.toList) parts ∧
        f = .all (parts ++ [.item s.settings.uid [Text.encode account]]) := by
  have values : pieces? (account.toList.map .ofAccount) = some [Text.encode account] := by
    rw [pieces?_map_ofAccount, ← Text.encode_eq_flatMap]
  have legal := isTest_of_isAttribute named [Text.encode account]
  rw [Filter.Reads, tokens_filterFor_of_named s account named]
  constructor
  · intro reads
    generalize same : Token.opening :: (_ ++ Token.closing :: []) = units at reads
    cases reads with
    | composed made joined after =>
      cases after
      rcases List.cons.inj (List.cons.inj same).2 with ⟨mark, units⟩
      rw [← Token.plain.inj mark] at made
      rw [← List.append_cancel_right units] at joined
      rcases joined.exists_of_item values legal with ⟨parts, reads, rfl⟩
      rw [Filter.compose?_all (by simp), String.ofList_toList] at made
      exact ⟨parts, reads, (Option.some.inj made).symm⟩
    | @item test right rest pieces others read tested after =>
      cases test with
      | nil => exact absurd tested (by simp [isTest])
      | cons c test =>
        have first := Token.plain.inj (List.cons.inj (List.cons.inj same).2).1
        rw [← first] at tested
        exact absurd (by decide) (unmarked_of_isTest tested '&' List.mem_cons_self).2
  · rintro ⟨parts, reads, rfl⟩
    have last := Reads.item values legal .nothing
    rw [String.ofList_toList] at last
    exact .composed (Filter.compose?_all (by simp)) (reads.append last) .nothing

/-- An account is escaped so that nothing in it means anything to a filter, and can be read back.  The
filter for it is that of no other account.  Its units are those of the settings around one value, which
stands for the account, and it is read as nothing but what the settings ask for together with the
account. -/
theorem reads_filterFor :
    (∀ c ∈ ['(', ')', '*', '\x00'], c ∉ (escape account).toList) ∧
    (∀ before after, (escape account).toList = before ++ '\\' :: after →
      ∃ h l rest, after = h :: l :: rest ∧ (Text.hexDigit? h).isSome = true ∧
        (Text.hexDigit? l).isSome = true) ∧
    unescape? (escape account) = some account ∧
    (∀ other, s.filterFor account = s.filterFor other ↔ account = other) ∧
    s.filterFor account =
      "(&" ++ s.settings.userFilter ++ "(" ++ s.settings.uid ++ "=" ++ escape account ++ "))" ∧
    tokens (s.filterFor account).toList =
      tokens ("(&" ++ s.settings.userFilter ++ "(" ++ s.settings.uid ++ "=").toList ++
        (tokens (escape account).toList ++ [.closing, .closing]) ∧
    value? (escape account) = some (Text.encode account) ∧
    (isAttribute s.settings.uid.toList = true → ∀ f, Filter.Reads (s.filterFor account) f ↔
      ∃ parts, Reads (tokens s.settings.userFilter.toList) parts ∧
        f = .all (parts ++ [.item s.settings.uid [Text.encode account]])) := by
  refine ⟨fun c => not_mem_escape, ?_, unescape?_escape account, fun other => ⟨?_, ?_⟩, rfl, ?_,
    value?_escape account, ?_⟩
  · intro before after found
    rw [escape, String.toList_ofList] at found
    exact digits_of_escape found
  · intro same
    have chars := congrArg String.toList same
    rw [toList_filterFor, toList_filterFor] at chars
    have written := List.append_cancel_right (List.cons.inj (List.append_cancel_left chars)).2
    exact escape_injective (congrArg String.ofList written)
  · rintro rfl
    rfl
  · rw [tokens_escape]
    exact tokens_filterFor s account
  · intro named f
    exact reads_filterFor_iff s account named

/-- A directory that has nobody. -/
def standardSource : Source where
  service := { search := fun _ => .ok [], bind := fun _ _ => .error .invalidPassword }
  settings := .standard
  users := []

/-- Read as text, this account would close the filter and ask for any account. -/
theorem reads_filterFor_wildcard :
    standardSource.filterFor "*)(uid=*" =
        "(&(objectClass=person)(sAMAccountName=\\2a\\29\\28uid=\\2a))" ∧
      ∀ f, Filter.Reads (standardSource.filterFor "*)(uid=*") f ↔
        f = .all [.item "objectClass" [Text.encode "person"],
          .item "sAMAccountName" [Text.encode "*)(uid=*"]] := by
  have named : isAttribute standardSource.settings.uid.toList = true := by decide
  rcases reads_filterFor standardSource "*)(uid=*" with ⟨-, -, -, -, -, -, -, read⟩
  have person : tokens standardSource.settings.userFilter.toList =
      [] ++ .opening :: (within "objectClass".toList (tokens "person".toList) ++ [.closing]) := by
    decide +kernel
  have values : pieces? (tokens "person".toList) = some [Text.encode "person"] := by
    decide +kernel
  refine ⟨by decide, fun f => (read named f).trans ?_⟩
  rw [person]
  constructor
  · rintro ⟨parts, reads, rfl⟩
    rcases reads.exists_of_item values (by decide) with ⟨before, empty, rfl⟩
    cases empty
    rfl
  · rintro rfl
    exact ⟨_, .item values (by decide) .nothing, rfl⟩

end Source

end Directory

end AuthGateway
