import AuthGateway.Proofs.Text.Blank
import AuthGateway.Proofs.Text.Split
import AuthGateway.Provider.Directory

namespace AuthGateway

/-!
# Groups by their common names

An entry may list its groups by their distinguished names, of which the first part is the common name.
RFC 4514 puts a backslash in front of the characters that mean something in such a name.

The parts are cut at every comma, escaped or not, and no backslash is taken off.  So a common name is
read up to its first comma, with the backslashes of its escapes (`Directory.commonName?_listed`).  That is
the name itself just where nothing in it is escaped (`Directory.readName_eq_self_iff`).  A user is put
into another group than the listed one where something is (`Directory.Source.groups_misread`).
-/

namespace Directory

/-- The characters that stand behind a backslash in a distinguished name. -/
def nameMarks : List Char := [',', '+', '"', '\\', '<', '>', ';']

/-- How a character of a value stands in a distinguished name. -/
def escapeNameChar (c : Char) : List Char :=
  if c ∈ nameMarks then ['\\', c] else [c]

/-- The distinguished name of what has this common name, with the parts that follow. -/
def distinguishedName (name : String) (further : List String) : String :=
  "CN=" ++ String.ofList (name.toList.flatMap escapeNameChar) ++ String.join (further.map ("," ++ ·))

/-- A name with something in it, and without white space around it. -/
structure IsName (name : String) : Prop where
  nonempty : name ≠ ""
  trimmed : Text.trim name = name

/-- Nothing in the name is escaped. -/
def Unescaped (name : String) : Prop :=
  ∀ c ∈ name.toList, c ∉ nameMarks

instance (name : String) : Decidable (Unescaped name) :=
  inferInstanceAs (Decidable (∀ c ∈ name.toList, c ∉ nameMarks))

/-- The escaped characters before the first comma; of an escaped comma the backslash is left. -/
def readChars : List Char → List Char
  | [] => []
  | c :: rest => if c = ',' then ['\\'] else escapeNameChar c ++ readChars rest

/-- What is read of a common name. -/
def readName (name : String) : String :=
  String.ofList (readChars name.toList)

/-- What is read are the escaped characters, or else the next one of these is a comma. -/
theorem exists_flatMap_eq_readChars (cs : List Char) :
    ∃ rest, cs.flatMap escapeNameChar = readChars cs ++ rest ∧ (rest = [] ∨ ∃ more, rest = ',' :: more) := by
  induction cs with
  | nil => exact ⟨[], rfl, Or.inl rfl⟩
  | cons c others inductionHypothesis =>
    rw [List.flatMap_cons, readChars]
    split
    · rename_i comma
      rw [comma]
      exact ⟨',' :: others.flatMap escapeNameChar, rfl, Or.inr ⟨_, rfl⟩⟩
    · rcases inductionHypothesis with ⟨rest, written, ends⟩
      exact ⟨rest, by rw [written, List.append_assoc], ends⟩

theorem comma_not_mem_readChars (cs : List Char) : ',' ∉ readChars cs := by
  induction cs with
  | nil => exact List.not_mem_nil
  | cons c others inductionHypothesis =>
    rw [readChars]
    split
    · decide
    · rename_i other
      intro member
      rcases List.mem_append.mp member with escaped | later
      · rw [escapeNameChar] at escaped
        split at escaped
        · simp only [List.mem_cons, List.not_mem_nil, or_false] at escaped
          exact escaped.elim (by decide) fun comma => other comma.symm
        · exact other (List.mem_singleton.mp escaped).symm
      · exact inductionHypothesis later

/-- Without a comma all of the escaped characters are read. -/
theorem readChars_of_not_mem {cs : List Char} (clean : ',' ∉ cs) :
    readChars cs = cs.flatMap escapeNameChar := by
  induction cs with
  | nil => rfl
  | cons c others inductionHypothesis =>
    have other : c ≠ ',' := fun comma => clean (comma ▸ List.mem_cons_self)
    rw [readChars, if_neg other, List.flatMap_cons,
      inductionHypothesis fun member => clean (List.mem_cons_of_mem c member)]

/-- Each escape adds a backslash. -/
theorem length_flatMap_escapeNameChar (cs : List Char) :
    (cs.flatMap escapeNameChar).length = cs.length + cs.countP (· ∈ nameMarks) := by
  induction cs with
  | nil => rfl
  | cons c others inductionHypothesis =>
    rw [List.flatMap_cons, List.length_append, inductionHypothesis, List.countP_cons, escapeNameChar,
      List.length_cons]
    by_cases mark : c ∈ nameMarks
    · simp only [mark, if_true, decide_true, List.length_cons, List.length_nil]
      omega
    · simp only [mark, if_false, decide_false, Bool.false_eq_true, List.length_cons, List.length_nil]
      omega

theorem flatMap_escapeNameChar_of_unmarked {cs : List Char} (unmarked : ∀ c ∈ cs, c ∉ nameMarks) :
    cs.flatMap escapeNameChar = cs := by
  induction cs with
  | nil => rfl
  | cons c others inductionHypothesis =>
    rw [List.flatMap_cons, escapeNameChar, if_neg (unmarked c List.mem_cons_self),
      inductionHypothesis fun d member => unmarked d (List.mem_cons_of_mem c member)]
    rfl

/-- A name is read as it is just where it is written as it is. -/
theorem readName_eq_self_iff (name : String) : readName name = name ↔ Unescaped name := by
  constructor
  · intro same
    have chars : readChars name.toList = name.toList := by
      rw [← String.toList_ofList (l := readChars name.toList)]
      exact congrArg String.toList same
    have clean : ',' ∉ name.toList := chars ▸ comma_not_mem_readChars name.toList
    have length := length_flatMap_escapeNameChar name.toList
    rw [← readChars_of_not_mem clean, chars] at length
    have none : name.toList.countP (· ∈ nameMarks) = 0 := by omega
    exact fun c member mark => List.countP_eq_zero.mp none c member (decide_eq_true mark)
  · intro unescaped
    have clean : ',' ∉ name.toList := fun comma => unescaped ',' comma (by decide)
    rw [readName, readChars_of_not_mem clean, flatMap_escapeNameChar_of_unmarked unescaped,
      String.ofList_toList]

/-- What is read begins as the name does, or with the backslash of an escape. -/
private theorem head?_readChars (cs : List Char) :
    (readChars cs).head? = cs.head? ∨ (readChars cs).head? = some '\\' := by
  cases cs with
  | nil => exact Or.inl rfl
  | cons c others =>
    rw [readChars, escapeNameChar]
    split
    · exact Or.inr rfl
    · split
      · exact Or.inr rfl
      · exact Or.inl rfl

/-- It ends as the name does, or with the backslash of a comma. -/
private theorem getLast?_readChars (cs : List Char) :
    (readChars cs).getLast? = cs.getLast? ∨ (readChars cs).getLast? = some '\\' := by
  induction cs with
  | nil => exact Or.inl rfl
  | cons c others inductionHypothesis =>
    have last : (escapeNameChar c).getLast? = some c := by
      rw [escapeNameChar]
      split
      · rfl
      · rfl
    rw [readChars]
    split
    · exact Or.inr rfl
    · rw [List.getLast?_append, last]
      cases others with
      | nil => exact Or.inl rfl
      | cons d more =>
        rw [List.getLast?_cons_cons]
        rcases inductionHypothesis with same | backslash
        · rw [same, List.getLast?_cons]
          exact Or.inl rfl
        · rw [backslash]
          exact Or.inr rfl

theorem toList_readName (name : String) : (readName name).toList = readChars name.toList :=
  String.toList_ofList

theorem IsName.trimBy_eq {name : String} (named : IsName name) :
    Text.trimBy Text.isBlank name.toList = name.toList := by
  rw [← String.toList_ofList (l := Text.trimBy Text.isBlank name.toList)]
  exact congrArg String.toList named.trimmed

theorem IsName.isBlank_head {name : String} (named : IsName name) {c : Char}
    (first : name.toList.head? = some c) : Text.isBlank c = false := by
  rcases List.head?_eq_some_iff.mp first with ⟨rest, shape⟩
  exact Text.front_of_trimBy (named.trimBy_eq.trans shape)

theorem IsName.isBlank_getLast {name : String} (named : IsName name) {c : Char}
    (last : name.toList.getLast? = some c) : Text.isBlank c = false :=
  Text.back_of_trimBy ((congrArg List.getLast? named.trimBy_eq).trans last)

/-- What is read of a name is a name. -/
theorem isName_readName {name : String} (named : IsName name) : IsName (readName name) := by
  have backslash : ∀ c, some '\\' = some c → Text.isBlank c = false := by
    rintro c ⟨⟩
    decide
  have front : ∀ c, (readChars name.toList).head? = some c → Text.isBlank c = false := by
    intro c first
    rcases head?_readChars name.toList with same | escape
    · exact named.isBlank_head (same.symm.trans first)
    · exact backslash c (escape.symm.trans first)
  have back : ∀ c, (readChars name.toList).getLast? = some c → Text.isBlank c = false := by
    intro c last
    rcases getLast?_readChars name.toList with same | escape
    · exact named.isBlank_getLast (same.symm.trans last)
    · exact backslash c (escape.symm.trans last)
  constructor
  · intro empty
    have nothing : readChars name.toList = [] :=
      (toList_readName name).symm.trans (congrArg String.toList empty)
    rcases head?_readChars name.toList with same | escape
    · rw [nothing] at same
      exact named.nonempty (String.toList_inj.mp (List.head?_eq_none_iff.mp same.symm))
    · rw [nothing] at escape
      exact absurd escape (by simp)
  · rw [Text.trim, toList_readName, Text.trimBy_of_ends front back, readName]

/-- The first part of a distinguished name ends at the first comma of the common name. -/
private theorem parts_distinguishedName (name : String) (further : List String) :
    ∃ others, Text.parts ',' (distinguishedName name further) = ("CN=" ++ readName name) :: others := by
  have clean : ',' ∉ ("CN=" ++ readName name).toList := by
    rw [String.toList_append, toList_readName]
    intro member
    rcases List.mem_append.mp member with key | value
    · exact absurd key (by decide)
    · exact comma_not_mem_readChars _ value
  have behind : ∀ parts : List String, (String.join (parts.map ("," ++ ·))).toList = [] ∨
      ∃ more, (String.join (parts.map ("," ++ ·))).toList = ',' :: more := by
    intro parts
    cases parts with
    | nil => exact Or.inl rfl
    | cons part others =>
      rw [List.map_cons, String.join_cons, String.toList_append, String.toList_append]
      exact Or.inr ⟨_, rfl⟩
  have whole : ∃ tail, (distinguishedName name further).toList = ("CN=" ++ readName name).toList ++ tail ∧
      (tail = [] ∨ ∃ more, tail = ',' :: more) := by
    rcases exists_flatMap_eq_readChars name.toList with ⟨rest, written, ends⟩
    refine ⟨rest ++ (String.join (further.map ("," ++ ·))).toList, ?_, ?_⟩
    · simp only [distinguishedName, String.toList_append, String.toList_ofList, written, toList_readName,
        List.append_assoc]
    · rcases ends with rfl | ⟨more, rfl⟩
      · exact behind further
      · exact Or.inr ⟨_, rfl⟩
  rcases whole with ⟨tail, written, rfl | ⟨more, rfl⟩⟩
  · refine ⟨[], ?_⟩
    rw [List.append_nil] at written
    rw [Text.parts, written, Text.splitAll_of_not_mem clean, List.map_singleton, String.ofList_toList]
  · refine ⟨(Text.splitAll ',' more).map String.ofList, ?_⟩
    rw [Text.parts, written, Text.splitAll_append_cons, Text.splitAll_of_not_mem clean,
      List.singleton_append, List.map_cons, String.ofList_toList]

private theorem attribute?_of_isName {value : String} (named : IsName value) :
    attribute? ("CN=" ++ value) = some ("CN", value) := by
  have chars : ("CN=" ++ value).toList = 'C' :: 'N' :: '=' :: value.toList := String.toList_append
  have front : ∀ c, ("CN=" ++ value).toList.head? = some c → Text.isBlank c = false := by
    rw [chars]
    rintro c ⟨⟩
    decide
  have back : ∀ c, ("CN=" ++ value).toList.getLast? = some c → Text.isBlank c = false := by
    intro c last
    rw [String.toList_append, List.getLast?_append] at last
    cases ends : value.toList.getLast? with
    | none => exact absurd (String.toList_inj.mp (List.getLast?_eq_none_iff.mp ends)) named.nonempty
    | some d =>
      rw [ends] at last
      exact Option.some.inj last ▸ named.isBlank_getLast ends
  rw [attribute?, Text.trim, Text.trimBy_of_ends front back, String.ofList_toList,
    Text.cut?_eq_some_iff]
  exact ⟨by decide, chars⟩

/-- The first common name is read up to its first comma, with the backslashes of its escapes. -/
theorem commonName?_listed {name : String} (named : IsName name) (further : List String) :
    commonName? (distinguishedName name further) = some (readName name) := by
  have key : sameLetters (Text.trim "CN") "cn" = true := by decide
  have read := isName_readName named
  rcases parts_distinguishedName name further with ⟨others, cut⟩
  have found : (("CN", readName name) :: others.filterMap attribute?).find?
      (fun pair => sameLetters (Text.trim pair.1) "cn") = some ("CN", readName name) := by
    rw [List.find?_cons, key]
  rw [commonName?, cut, List.filterMap_cons_some (attribute?_of_isName read), found]
  dsimp only
  rw [read.trimmed, Option.filter_some, if_pos (decide_eq_true read.nonempty)]

namespace Source

variable (s : Source)

/-- A user gets the groups that the configuration adds, and what is read of the names of the listed
groups.  This is the name itself of each group in whose name nothing is escaped, and of no other.  So the
groups are those that are listed if nothing is escaped in any of their names. -/
theorem groups_of_listed {field : String} (asked : s.settings.groupAttribute = some field)
    {listed : List (String × List String)} (named : ∀ group ∈ listed, IsName group.1) {entry : Entry}
    (lists : entry.values field = listed.map fun group => distinguishedName group.1 group.2)
    (account : String) :
    let user := s.identity account entry
    let added (name : String) := ∃ other ∈ s.users,
      sameLetters other.account user.account = true ∧ name ∈ other.userGroups
    (∀ group ∈ listed,
      commonName? (distinguishedName group.1 group.2) = some (readName group.1) ∧
      (readName group.1 = group.1 ↔ Unescaped group.1)) ∧
    (∀ name, name ∈ user.groups ↔ added name ∨ ∃ group ∈ listed, name = readName group.1) ∧
    ((∀ group ∈ listed, Unescaped group.1) →
      ∀ name, name ∈ user.groups ↔ added name ∨ ∃ group ∈ listed, name = group.1) := by
  intro user added
  have read : ∀ group ∈ listed,
      commonName? (distinguishedName group.1 group.2) = some (readName group.1) :=
    fun group member => commonName?_listed (named group member) group.2
  have groups : ∀ name, name ∈ user.groups ↔ added name ∨ ∃ group ∈ listed, name = readName group.1 := by
    intro name
    change name ∈ s.groupsOf user.account entry ↔ _
    rw [groupsOf, asked, TextSet.mem_ofList, List.mem_append, List.mem_flatMap, List.mem_filterMap, lists]
    refine or_congr (exists_congr fun other => ?_) ?_
    · rw [List.mem_filter, and_assoc]
      exact Iff.rfl
    · constructor
      · rintro ⟨text, member, found⟩
        rcases List.mem_map.mp member with ⟨group, inside, rfl⟩
        rw [read group inside] at found
        exact ⟨group, inside, (Option.some.inj found).symm⟩
      · rintro ⟨group, inside, rfl⟩
        exact ⟨_, List.mem_map_of_mem inside, read group inside⟩
  refine ⟨fun group member => ⟨read group member, readName_eq_self_iff group.1⟩, groups, ?_⟩
  intro unescaped name
  rw [groups]
  refine or_congr_right (exists_congr fun group => and_congr_right fun member => ?_)
  rw [(readName_eq_self_iff group.1).mpr (unescaped group member)]

/-- A directory whose entries list their groups, and a user to whom the configuration adds one. -/
def groupedSource : Source where
  service := { search := fun _ => .ok [], bind := fun _ _ => .error .invalidPassword }
  settings := { LdapConfig.standard with groupAttribute := some "memberOf" }
  users := [{ account := "Bob", group := "wiki", groups := [] }]

/-- Bob, with the groups that his entry lists. -/
def bobIn (groups : List (String × List String)) : Entry where
  dn := "CN=Bob,DC=home"
  attributes := [("sAMAccountName", ["bob"]),
    ("memberOf", groups.map fun group => distinguishedName group.1 group.2)]

theorem groups_of_listed_bob :
    let listed := [("R&D = #1", ["OU=Groups", "DC=home"]), ("Ops, Europe", ["OU=Groups"]), ("1 < 2", [])]
    ∀ name, name ∈ (groupedSource.identity "BOB" (bobIn listed)).groups ↔
      name ∈ ["wiki", "R&D = #1", "Ops\\", "1 \\< 2"] := by
  intro listed name
  have named : ∀ group ∈ listed, IsName group.1 := by
    intro group member
    simp only [listed, List.mem_cons, List.not_mem_nil, or_false] at member
    rcases member with rfl | rfl | rfl
    · exact ⟨by decide, by decide⟩
    · exact ⟨by decide, by decide⟩
    · exact ⟨by decide, by decide⟩
  have lists : (bobIn listed).values "memberOf" =
      listed.map fun group => distinguishedName group.1 group.2 := by decide +kernel
  rcases groups_of_listed groupedSource rfl named lists "BOB" with ⟨-, groups, -⟩
  have added : sameLetters "Bob" (groupedSource.identity "BOB" (bobIn listed)).account = true := by
    decide +kernel
  have wiki : ∀ other : String,
      other ∈ ({ account := "Bob", group := "wiki", groups := [] } : DirectoryUser).userGroups ↔
        other = "wiki" := by
    intro other
    rw [DirectoryUser.userGroups, mergeGroups, TextSet.mem_ofList]
    simp
  have first : readName "R&D = #1" = "R&D = #1" := by decide +kernel
  have second : readName "Ops, Europe" = "Ops\\" := by decide +kernel
  have third : readName "1 < 2" = "1 \\< 2" := by decide +kernel
  rw [groups]
  simp only [groupedSource, exists_eq_left, wiki, listed, List.mem_cons,
    List.not_mem_nil, or_false, exists_eq_or_imp, first, second, third]
  exact or_congr_left (and_iff_right added)

/-- The group of this name is written with an escape, and another one is read. -/
theorem groups_misread :
    IsName "Ops, Europe" ∧
    distinguishedName "Ops, Europe" ["OU=Groups"] = "CN=Ops\\, Europe,OU=Groups" ∧
    commonName? "CN=Ops\\, Europe,OU=Groups" = some "Ops\\" ∧
    "Ops, Europe" ∉ (groupedSource.identity "bob" (bobIn [("Ops, Europe", ["OU=Groups"])])).groups ∧
    "Ops\\" ∈ (groupedSource.identity "bob" (bobIn [("Ops, Europe", ["OU=Groups"])])).groups :=
  ⟨⟨by decide, by decide⟩, by decide +kernel, by decide +kernel, by decide +kernel, by decide +kernel⟩

end Source

end Directory

end AuthGateway
