import AuthGateway.Gateway.Page
import AuthGateway.Proofs.Time.Rfc3339
import Mathlib.Data.List.Basic

namespace AuthGateway

/-!
# Texts add no markup

A page is markup of the gateway with texts of somebody else in it.  Whatever the texts are, they bring
no character that could open or close a tag or a value: those characters are the same on all pages of one
outline.  What the texts bring instead is entities, each of which stands for one character, so that every
text can be read as it was.

Nor does a text hide another.  Most texts stand in front of a delimiter, and none is in what is written for
them, so that the page shows where they end.  On the page of a forbidden host two of them stand in a
sentence, but the host stands once more in a link, and is read there first.  Two pages of one outline are
therefore the same only if their texts are (`Page.texts_add_no_markup`).
-/

/-! ## Escaped texts -/

/-- The characters that open and close tags and values. -/
def delimiters (cs : List Char) : List Char :=
  cs.filter fun c => c ∈ ['<', '>', '"', '\'']

/-- What is written for the characters that are escaped. -/
def entities : List String :=
  ["&amp;", "&lt;", "&gt;", "&quot;", "&#39;"]

/-- Every ampersand begins an entity. -/
def EntitiesOnly (cs : List Char) : Prop :=
  ∀ before after, cs = before ++ '&' :: after → ∃ entity ∈ entities, entity.toList <+: '&' :: after

/-- The characters with one character in the place of each entity. -/
def unescapeChars : List Char → List Char
  | '&' :: 'a' :: 'm' :: 'p' :: ';' :: rest => '&' :: unescapeChars rest
  | '&' :: 'l' :: 't' :: ';' :: rest => '<' :: unescapeChars rest
  | '&' :: 'g' :: 't' :: ';' :: rest => '>' :: unescapeChars rest
  | '&' :: 'q' :: 'u' :: 'o' :: 't' :: ';' :: rest => '"' :: unescapeChars rest
  | '&' :: '#' :: '3' :: '9' :: ';' :: rest => '\'' :: unescapeChars rest
  | c :: rest => c :: unescapeChars rest
  | [] => []

def unescapeHtml (s : String) : String :=
  String.ofList (unescapeChars s.toList)

/-- A character is written as an entity, or it is itself and none of the escaped ones. -/
theorem escapeHtmlChar_cases (c : Char) :
    (∃ entity ∈ entities, escapeHtmlChar c = entity.toList) ∨
      (escapeHtmlChar c = [c] ∧ c ≠ '&' ∧ delimiters [c] = []) := by
  unfold escapeHtmlChar
  split
  · exact Or.inl ⟨"&amp;", by decide, rfl⟩
  · exact Or.inl ⟨"&lt;", by decide, rfl⟩
  · exact Or.inl ⟨"&gt;", by decide, rfl⟩
  · exact Or.inl ⟨"&quot;", by decide, rfl⟩
  · exact Or.inl ⟨"&#39;", by decide, rfl⟩
  · rename_i ampersand less greater quote apostrophe
    have none : c ∉ ['<', '>', '"', '\''] := by
      simp only [List.mem_cons, List.not_mem_nil, or_false, not_or]
      exact ⟨less, greater, quote, apostrophe⟩
    refine Or.inr ⟨rfl, ampersand, List.filter_eq_nil_iff.mpr ?_⟩
    intro d member delimiter
    exact none (List.mem_singleton.mp member ▸ of_decide_eq_true delimiter)

theorem delimiters_flatMap {α : Type} (f : α → List Char) (xs : List α) :
    delimiters (xs.flatMap f) = xs.flatMap fun x => delimiters (f x) := by
  unfold delimiters
  rw [List.filter_flatMap]

theorem delimiters_append_of_nil {xs ys : List Char} (left : delimiters xs = [])
    (right : delimiters ys = []) : delimiters (xs ++ ys) = [] :=
  (List.filter_append xs ys).trans (List.append_eq_nil_iff.mpr ⟨left, right⟩)

/-- What has no delimiter ends in one way in front of one. -/
theorem eq_of_append_delimiter {xs ys us vs : List Char} {c d : Char} (plain : delimiters xs = [])
    (plain' : delimiters ys = []) (stops : delimiters [c] = [c]) (stops' : delimiters [d] = [d])
    (same : xs ++ c :: us = ys ++ d :: vs) : xs = ys ∧ c :: us = d :: vs := by
  have cut : ∀ {zs ws : List Char} {e : Char}, delimiters zs = [] → delimiters [e] = [e] →
      (zs ++ e :: ws).takeWhile (fun c => delimiters [c] = []) = zs := by
    intro zs ws e none one
    have each : ∀ c ∈ zs, decide (delimiters [c] = []) = true := by
      intro c member
      apply decide_eq_true
      apply List.filter_eq_nil_iff.mpr
      intro d single
      rw [List.mem_singleton.mp single]
      exact List.filter_eq_nil_iff.mp none c member
    rw [List.takeWhile_append_of_pos each, List.takeWhile_cons_of_neg (by simp [one]), List.append_nil]
  have front : xs = ys := by
    rw [← cut plain stops, same, cut plain' stops']
  subst front
  exact ⟨rfl, List.append_cancel_left same⟩

/-- An escaped text has no delimiters. -/
theorem delimiters_escapeHtml (s : String) : delimiters (escapeHtml s).toList = [] := by
  have harmless : ∀ c, delimiters (escapeHtmlChar c) = [] := by
    intro c
    rcases escapeHtmlChar_cases c with ⟨entity, listed, written⟩ | ⟨itself, -, harmless⟩
    · have none : ∀ entity ∈ entities, delimiters entity.toList = [] := by decide
      rw [written]
      exact none entity listed
    · rw [itself]
      exact harmless
  rw [escapeHtml, String.toList_ofList, delimiters_flatMap]
  exact List.flatMap_eq_nil_iff.mpr fun c _ => harmless c

namespace EntitiesOnly

theorem of_not_mem {cs : List Char} (none : '&' ∉ cs) : EntitiesOnly cs := by
  rintro before after rfl
  exact absurd (by simp) none

theorem of_entity {entity : String} (listed : entity ∈ entities) : EntitiesOnly entity.toList := by
  have once : ∀ entity ∈ entities, '&' ∉ entity.toList.tail := by decide
  intro before after same
  cases before with
  | nil => exact ⟨entity, listed, by rw [same]; exact List.prefix_rfl⟩
  | cons c before =>
    have second : '&' ∈ entity.toList.tail := by rw [same]; simp
    exact absurd second (once entity listed)

theorem append {xs ys : List Char} (left : EntitiesOnly xs) (right : EntitiesOnly ys) :
    EntitiesOnly (xs ++ ys) := by
  intro before after same
  rcases List.append_eq_append_iff.mp same with ⟨between, -, rest⟩ | ⟨between, front, rest⟩
  · exact right between after rest
  · cases between with
    | nil => exact right [] after rest.symm
    | cons c between =>
      cases rest
      rcases left before between front with ⟨entity, listed, begins⟩
      exact ⟨entity, listed, begins.trans (List.prefix_append ('&' :: between) ys)⟩

theorem flatMap {α : Type} {f : α → List Char} {xs : List α} (each : ∀ x ∈ xs, EntitiesOnly (f x)) :
    EntitiesOnly (xs.flatMap f) := by
  induction xs with
  | nil => exact of_not_mem List.not_mem_nil
  | cons x xs inductionHypothesis =>
    rw [List.flatMap_cons]
    apply append (each x List.mem_cons_self)
    exact inductionHypothesis fun y member => each y (List.mem_cons_of_mem x member)

theorem escapeHtml (s : String) : EntitiesOnly (escapeHtml s).toList := by
  rw [AuthGateway.escapeHtml, String.toList_ofList]
  apply flatMap
  intro c _
  rcases escapeHtmlChar_cases c with ⟨entity, listed, written⟩ | ⟨itself, plain, -⟩
  · exact written ▸ of_entity listed
  · exact of_not_mem (by simp [itself, plain.symm])

end EntitiesOnly

private theorem unescapeChars_escapeHtmlChar (c : Char) (rest : List Char) :
    unescapeChars (escapeHtmlChar c ++ rest) = c :: unescapeChars rest := by
  unfold escapeHtmlChar
  split
  · rfl
  · rfl
  · rfl
  · rfl
  · rfl
  · rename_i ampersand _ _ _ _
    have plain : c ≠ '&' := ampersand
    simp [unescapeChars, plain]

/-- An escaped text can be read as it was. -/
theorem unescapeHtml_escapeHtml (s : String) : unescapeHtml (escapeHtml s) = s := by
  have chars : ∀ cs : List Char, unescapeChars (cs.flatMap escapeHtmlChar) = cs := by
    intro cs
    induction cs with
    | nil => rfl
    | cons c cs inductionHypothesis =>
      rw [List.flatMap_cons, unescapeChars_escapeHtmlChar, inductionHypothesis]
  rw [unescapeHtml, escapeHtml, String.toList_ofList, chars, String.ofList_toList]

theorem escapeHtml_injective : Function.Injective escapeHtml :=
  Function.LeftInverse.injective unescapeHtml_escapeHtml

/-! ## Pieces -/

namespace Piece

/-- What there is of markup in a piece. -/
def frame : Piece → List Char
  | markup s => delimiters s.toList
  | text _ => []

/-- The piece has no ampersand before it is escaped. -/
def isClean : Piece → Bool
  | markup s => !s.toList.contains '&'
  | text _ => true

/-- A text as it is written into a page. -/
def inserted? : Piece → Option String
  | markup _ => none
  | text s => some (text s).render

/-- The markup of a piece, which is a gap for a text. -/
def markup? : Piece → Option String
  | markup s => some s
  | text _ => none

/-- The delimiters of a piece are those of its markup. -/
theorem delimiters_render (piece : Piece) : delimiters piece.render.toList = piece.frame := by
  cases piece with
  | markup s => rfl
  | text s => exact delimiters_escapeHtml s

theorem inserted?_eq_of_render {p q : Piece} (kind : p.inserted?.isSome = q.inserted?.isSome)
    (same : p.render = q.render) : p.inserted? = q.inserted? := by
  cases p with
  | markup s =>
    cases q with
    | markup t => rfl
    | text t => exact absurd kind Bool.false_ne_true
  | text s =>
    cases q with
    | markup t => exact absurd kind Bool.noConfusion
    | text t => exact congrArg some same

end Piece

/-- The characters that are written for pieces. -/
def written (pieces : List Piece) : List Char :=
  pieces.flatMap fun piece => piece.render.toList

/-- The markup begins with a delimiter. -/
def Closes (markup : String) : Prop :=
  ∃ c rest, markup.toList = c :: rest ∧ delimiters [c] = [c]

/-- The pieces are the same, but for such as hold no delimiter and stand in front of one. -/
inductive Alike : List Piece → List Piece → Prop where
  | nil : Alike [] []
  | cons (piece : Piece) {ps qs : List Piece} (rest : Alike ps qs) : Alike (piece :: ps) (piece :: qs)
  | shown {p q : Piece} {close : String} {ps qs : List Piece}
      (kind : p.inserted?.isSome = q.inserted?.isSome) (plain : p.frame = []) (plain' : q.frame = [])
      (closes : Closes close) (rest : Alike ps qs) :
      Alike (p :: .markup close :: ps) (q :: .markup close :: qs)

namespace Alike

theorem refl (ps : List Piece) : Alike ps ps := by
  induction ps with
  | nil => exact nil
  | cons piece ps inductionHypothesis => exact cons piece inductionHypothesis

variable {ps qs ps' qs' : List Piece}

/-- Another text in front of a delimiter. -/
theorem text (s t : String) {close : String} (closes : Closes close) (rest : Alike ps qs) :
    Alike (.text s :: .markup close :: ps) (.text t :: .markup close :: qs) :=
  shown rfl rfl rfl closes rest

theorem append (left : Alike ps qs) (right : Alike ps' qs') : Alike (ps ++ ps') (qs ++ qs') := by
  induction left with
  | nil => exact right
  | cons piece _ inductionHypothesis => exact cons piece inductionHypothesis
  | shown kind plain plain' closes _ inductionHypothesis =>
    exact shown kind plain plain' closes inductionHypothesis

theorem frame (alike : Alike ps qs) : ps.flatMap Piece.frame = qs.flatMap Piece.frame := by
  induction alike with
  | nil => rfl
  | cons piece _ inductionHypothesis => rw [List.flatMap_cons, List.flatMap_cons, inductionHypothesis]
  | shown _ plain plain' _ _ inductionHypothesis =>
    simp only [List.flatMap_cons, plain, plain', inductionHypothesis]

/-- What is written shows the texts. -/
theorem inserted (alike : Alike ps qs) (same : written ps = written qs) :
    ps.filterMap Piece.inserted? = qs.filterMap Piece.inserted? := by
  unfold written at same
  induction alike with
  | nil => rfl
  | cons piece _ inductionHypothesis =>
    rw [List.flatMap_cons, List.flatMap_cons] at same
    simp only [List.filterMap_cons, inductionHypothesis (List.append_cancel_left same)]
  | @shown p q close ps qs kind plain plain' closes _ inductionHypothesis =>
    rcases closes with ⟨c, rest, begins, stops⟩
    have closing : (Piece.markup close).render.toList = c :: rest := begins
    simp only [List.flatMap_cons, closing, List.cons_append] at same
    rcases eq_of_append_delimiter (p.delimiters_render.trans plain) (q.delimiters_render.trans plain')
      stops stops same with ⟨front, back⟩
    have texts := inductionHypothesis (List.append_cancel_left (List.cons.inj back).2)
    have shown := Piece.inserted?_eq_of_render kind (String.toList_inj.mp front)
    simp only [List.filterMap_cons, shown, texts]

end Alike

/-- The gaps in a run of markup are filled with the texts, one after the other. -/
def fill : List (Option String) → List String → String
  | some markup :: gaps, texts => markup ++ fill gaps texts
  | none :: gaps, text :: texts => text ++ fill gaps texts
  | _, _ => ""

/-! ## Pages -/

namespace Page

/-- The texts in a page, as they are written there. -/
def inserted (p : Page) : List String :=
  p.pieces.filterMap Piece.inserted?

/-- The markup of a page, with a gap for each text. -/
def gaps (p : Page) : List (Option String) :=
  p.pieces.map Piece.markup?

theorem toList_render (p : Page) : p.render.toList = written p.pieces := by
  rw [render, String.toList_join, List.flatMap_map, written]

/-- A page is its markup with what is written for the texts in between. -/
theorem render_eq_fill (p : Page) : p.render = fill p.gaps p.inserted := by
  rcases p with ⟨pieces⟩
  unfold render gaps inserted
  dsimp only
  induction pieces with
  | nil => rfl
  | cons piece pieces inductionHypothesis =>
    rw [List.map_cons, String.join_cons, inductionHypothesis]
    cases piece with
    | markup s => rfl
    | text s => rfl

theorem count_gaps (p : Page) : p.gaps.count none = p.inserted.length := by
  rcases p with ⟨pieces⟩
  unfold gaps inserted
  dsimp only
  induction pieces with
  | nil => rfl
  | cons piece pieces inductionHypothesis =>
    cases piece with
    | markup s => exact (List.count_cons_of_ne (by simp [Piece.markup?])).trans inductionHypothesis
    | text s => exact List.count_cons_self.trans (congrArg (· + 1) inductionHypothesis)

/-- The delimiters of a page are those of its markup. -/
theorem delimiters_render (p : Page) : delimiters p.render.toList = p.pieces.flatMap Piece.frame := by
  rw [toList_render, written, delimiters_flatMap]
  congr
  funext piece
  exact piece.delimiters_render

/-- In a page of clean markup every ampersand is that of an escaped character. -/
theorem entitiesOnly_render {p : Page} (clean : p.pieces.all Piece.isClean = true) :
    EntitiesOnly p.render.toList := by
  rw [toList_render]
  apply EntitiesOnly.flatMap
  intro piece member
  have isClean := List.all_eq_true.mp clean piece member
  cases piece with
  | markup s =>
    have none : '&' ∉ s.toList := by simpa [Piece.isClean] using isClean
    exact EntitiesOnly.of_not_mem none
  | text s => exact EntitiesOnly.escapeHtml s

theorem clean_opening {title heading : String} (titled : (Piece.markup title).isClean = true)
    (headed : (Piece.markup heading).isClean = true) :
    (opening title heading).all Piece.isClean = true := by
  simp only [opening, List.all_cons, titled, headed]
  rfl

/-! ### The login page -/

private theorem clean_choice (asked value : String) :
    (Piece.markup (if asked = value then " selected" else "")).isClean = true := by
  split
  · rfl
  · rfl

/-- The selector shows no more of the kind that was asked for than which option it is. -/
theorem selector_eq {view other : LoginView}
    (same : ∀ value ∈ ["local", "ldap"], view.userType = value ↔ other.userType = value) :
    selector view = selector other := by
  have each : ∀ value ∈ ["local", "ldap"], ∀ label,
      option view.userType value label = option other.userType value label := by
    intro value listed label
    simp only [option, same value listed]
  rw [selector, selector, each "local" (by decide), each "ldap" (by decide)]

theorem clean_selector (view : LoginView) : (selector view).all Piece.isClean = true := by
  simp only [selector, option, List.all_append, List.all_cons, clean_choice]
  rfl

theorem alike_errorLine {view other : LoginView} (same : view.error = "" ↔ other.error = "") :
    Alike (errorLine view) (errorLine other) := by
  unfold errorLine
  by_cases empty : view.error = ""
  · rw [if_pos empty, if_pos (same.mp empty)]
    exact .nil
  · rw [if_neg empty, if_neg fun none => empty (same.mpr none)]
    exact .cons _ (.text view.error other.error ⟨'<', _, rfl, rfl⟩ .nil)

theorem clean_errorLine (view : LoginView) : (errorLine view).all Piece.isClean = true := by
  unfold errorLine
  split
  · rfl
  · rfl

/-- The message is shown if there is one. -/
theorem inserted_errorLine (view : LoginView) :
    (errorLine view).filterMap Piece.inserted? =
      (if view.error = "" then [] else [view.error]).map escapeHtml := by
  unfold errorLine
  split
  · rfl
  · rfl

section

variable (authType : AuthType) (view : LoginView)

theorem alike_login {other : LoginView} (failed : view.error = "" ↔ other.error = "")
    (selected : authType = .composite → selector view = selector other) :
    Alike (login authType view).pieces (login authType other).pieces := by
  have options : Alike (if authType = .composite then selector view else [])
      (if authType = .composite then selector other else []) := by
    split
    · rename_i composite
      exact selected composite ▸ .refl _
    · exact .nil
  have opened := ((Alike.refl (opening "Sign in" "Sign in")).append (alike_errorLine failed)).append
    (.refl [.markup "<form method=\"post\" action=\"/secure-proxy/auth/login\">"])
  refine ((opened.append options).append ?_).append (.refl closing)
  exact .cons _ (.text view.username other.username ⟨'"', _, rfl, rfl⟩ (.refl _))

theorem clean_login : (login authType view).pieces.all Piece.isClean = true := by
  have opened : (opening "Sign in" "Sign in").all Piece.isClean = true := clean_opening rfl rfl
  have selected : (if authType = .composite then selector view else []).all Piece.isClean = true := by
    split
    · exact clean_selector view
    · rfl
  simp only [login, List.all_append, opened, clean_errorLine, selected]
  rfl

theorem inserted_login :
    (login authType view).inserted =
      ((if view.error = "" then [] else [view.error]) ++ [view.username]).map escapeHtml := by
  have none : (if authType = .composite then selector view else []).filterMap Piece.inserted? = [] := by
    split
    · rfl
    · rfl
  simp only [inserted, login, List.filterMap_append, inserted_errorLine, none, List.map_append]
  split
  · rfl
  · rfl

end

/-! ### The status page -/

theorem alike_groupItems {groups other : TextSet} (same : groups.toList.length = other.toList.length) :
    Alike (groupItems groups) (groupItems other) := by
  have items : ∀ names others : List String, names.length = others.length →
      Alike (names.flatMap fun name => [.markup "<li>", .text name, .markup "</li>"])
        (others.flatMap fun name => [.markup "<li>", .text name, .markup "</li>"]) := by
    intro names
    induction names with
    | nil =>
      intro others none
      rw [List.length_eq_zero_iff.mp none.symm]
      exact .nil
    | cons name names inductionHypothesis =>
      intro others many
      rcases List.exists_cons_of_length_eq_add_one many.symm with ⟨first, rest, rfl⟩
      exact .cons _ (.text name first ⟨'<', _, rfl, rfl⟩
        (inductionHypothesis rest (Nat.succ.inj many)))
  unfold groupItems
  split
  · rename_i none
    rw [none] at same
    rw [List.length_eq_zero_iff.mp same.symm]
    exact .refl _
  · rename_i some
    split
    · rename_i none
      rw [none] at same
      exact absurd (List.length_eq_zero_iff.mp same) some
    · exact items _ _ same

theorem clean_groupItems (groups : TextSet) : (groupItems groups).all Piece.isClean = true := by
  unfold groupItems
  split
  · rfl
  · rw [List.all_flatMap]
    exact List.all_eq_true.mpr fun name _ => rfl

theorem inserted_groupItems (groups : TextSet) :
    (groupItems groups).filterMap Piece.inserted? = groups.toList.map escapeHtml := by
  unfold groupItems
  split
  · rename_i none
    rw [none]
    rfl
  · rw [List.filterMap_flatMap, List.map_eq_flatMap]
    rfl

section

variable (user : Session)

private theorem plain_of_mem_loginTime {c : Char}
    (member : c ∈ (Time.Rfc3339.format .none .letter user.createdAt).toList) :
    c ∉ ['&', '<', '>', '"', '\''] := by
  rcases Time.Rfc3339.of_mem_format member with digit | mark
  · intro special
    have none : ['&', '<', '>', '"', '\''].all (fun c => !c.isDigit) = true := by decide
    have other := List.all_eq_true.mp none c special
    rw [digit] at other
    exact Bool.false_ne_true other
  · have none : Time.Rfc3339.marks.all (fun c => c ∉ ['&', '<', '>', '"', '\'']) = true := by decide
    exact of_decide_eq_true (List.all_eq_true.mp none c mark)

theorem frame_loginTime :
    (Piece.markup (Time.Rfc3339.format .none .letter user.createdAt)).frame = [] := by
  apply List.filter_eq_nil_iff.mpr
  intro c member delimiter
  exact plain_of_mem_loginTime user member (List.mem_cons_of_mem '&' (of_decide_eq_true delimiter))

theorem clean_loginTime :
    (Piece.markup (Time.Rfc3339.format .none .letter user.createdAt)).isClean = true := by
  have none : '&' ∉ (Time.Rfc3339.format .none .letter user.createdAt).toList :=
    fun member => plain_of_mem_loginTime user member List.mem_cons_self
  simpa [Piece.isClean] using none

theorem alike_entry (label : String) {p q : Piece} (kind : p.inserted?.isSome = q.inserted?.isSome)
    (plain : p.frame = []) (plain' : q.frame = []) : Alike (entry label p) (entry label q) :=
  .cons _ (.cons _ (.cons _ (.shown kind plain plain' ⟨'<', _, rfl, rfl⟩ .nil)))

theorem alike_status {other : Session}
    (same : user.groups.toList.length = other.groups.toList.length) :
    Alike (status user).pieces (status other).pieces := by
  have text : ∀ label s t, Alike (entry label (.text s)) (entry label (.text t)) :=
    fun label s t => alike_entry label rfl rfl rfl
  have since : Alike (entry "Login time" (.markup (Time.Rfc3339.format .none .letter user.createdAt)))
      (entry "Login time" (.markup (Time.Rfc3339.format .none .letter other.createdAt))) :=
    alike_entry "Login time" rfl (frame_loginTime user) (frame_loginTime other)
  have named := (((Alike.refl (opening "Session" "Signed in" ++ [.markup "<dl>"])).append
    (text "Account" user.account other.account)).append (text "Name" user.name other.name)).append
    (text "Type" user.userType other.userType)
  have listed := ((named.append since).append (.refl [.markup "<dt>Groups</dt><dd><ul>"])).append
    (alike_groupItems same)
  exact (listed.append (.refl _)).append (.refl closing)

theorem clean_status : (status user).pieces.all Piece.isClean = true := by
  have opened : (opening "Session" "Signed in").all Piece.isClean = true := clean_opening rfl rfl
  simp only [status, entry, List.all_append, List.all_cons, opened, clean_loginTime, clean_groupItems]
  rfl

theorem inserted_status :
    (status user).inserted =
      ([user.account, user.name, user.userType] ++ user.groups.toList).map escapeHtml := by
  simp only [inserted, status, List.filterMap_append, inserted_groupItems, List.map_append]
  change [escapeHtml user.account, escapeHtml user.name, escapeHtml user.userType] ++
    user.groups.toList.map escapeHtml ++ [] ++ [] = _
  rw [List.append_nil, List.append_nil]
  rfl

end

/-! ### The page of a forbidden host -/

/-- Two texts stand in a sentence, and the second once more in a link that follows.  It is read there, and
then the first one in the sentence. -/
private theorem eq_of_sentence {a b c d e xs ys xs' ys' : List Char} (plain : delimiters b = [])
    (plain' : delimiters c = []) (opens : ∃ o rest, d = o :: rest ∧ delimiters [o] = [o])
    (closes : ∃ path o rest, e = path ++ o :: rest ∧ delimiters path = [] ∧ delimiters [o] = [o])
    (left : delimiters xs = []) (right : delimiters ys = []) (left' : delimiters xs' = [])
    (right' : delimiters ys' = [])
    (same : a ++ (xs ++ (b ++ (ys ++ (c ++ (d ++ (ys ++ e)))))) =
      a ++ (xs' ++ (b ++ (ys' ++ (c ++ (d ++ (ys' ++ e))))))) : xs = xs' ∧ ys = ys' := by
  rcases opens with ⟨o, link, rfl, opens⟩
  rcases closes with ⟨path, o', rest, rfl, path_plain, closes⟩
  have sentences : (xs ++ (b ++ (ys ++ c))) ++ o :: (link ++ ((ys ++ path) ++ o' :: rest)) =
      (xs' ++ (b ++ (ys' ++ c))) ++ o :: (link ++ ((ys' ++ path) ++ o' :: rest)) := by
    simpa only [List.append_assoc, List.cons_append] using List.append_cancel_left same
  have sentence : ∀ {us vs : List Char}, delimiters us = [] → delimiters vs = [] →
      delimiters (us ++ (b ++ (vs ++ c))) = [] := fun first second =>
    delimiters_append_of_nil first
      (delimiters_append_of_nil plain (delimiters_append_of_nil second plain'))
  rcases eq_of_append_delimiter (sentence left right) (sentence left' right') opens opens sentences with
    ⟨front, back⟩
  have links := List.append_cancel_left (List.cons.inj back).2
  rcases eq_of_append_delimiter (delimiters_append_of_nil right path_plain)
    (delimiters_append_of_nil right' path_plain) closes closes links with ⟨addresses, -⟩
  have second : ys = ys' := List.append_cancel_right addresses
  subst second
  exact ⟨List.append_cancel_right front, rfl⟩

/-- The texts are read from what is written for the page. -/
theorem inserted_forbidden {host name host' name' : String}
    (same : written (forbidden host name).pieces = written (forbidden host' name').pieces) :
    (forbidden host name).inserted = (forbidden host' name').inserted := by
  simp only [written, forbidden, List.flatMap_cons, List.flatMap_nil, Piece.render, List.append_nil] at same
  rcases eq_of_sentence (by decide) (by decide +kernel) ⟨'<', _, rfl, rfl⟩
    ⟨"/secure-proxy".toList, '<', _, rfl, by decide, rfl⟩ (delimiters_escapeHtml name)
    (delimiters_escapeHtml host) (delimiters_escapeHtml name') (delimiters_escapeHtml host') same with
    ⟨names, hosts⟩
  simp only [inserted, forbidden, List.filterMap_cons, List.filterMap_nil, Piece.inserted?, Piece.render,
    String.toList_inj.mp names, String.toList_inj.mp hosts]

/-! ### All pages -/

/-- A page that shows texts of somebody else. -/
inductive Display where
  | login (authType : AuthType) (view : LoginView)
  | status (user : Session)
  | forbidden (host name : String)

/-- What a page tells of its texts by its markup. -/
inductive Outline where
  | login (authType : AuthType) (failed : Bool) (chosen : Option String)
  | status (groups : Nat)
  | forbidden
deriving DecidableEq

namespace Display

def page : Display → Page
  | login authType view => Page.login authType view
  | status user => Page.status user
  | forbidden host name => Page.forbidden host name

/-- The texts that the page shows, in their order. -/
def texts : Display → List String
  | login _ view => (if view.error = "" then [] else [view.error]) ++ [view.username]
  | status user => [user.account, user.name, user.userType] ++ user.groups.toList
  | forbidden host name => [name, host, host]

/-- The option that the page shows as chosen, if it has options. -/
def chosen? (authType : AuthType) (view : LoginView) : Option String :=
  if authType = .composite then ["local", "ldap"].find? (view.userType = ·) else none

def outline : Display → Outline
  | login authType view => .login authType (view.error ≠ "") (chosen? authType view)
  | status user => .status user.groups.toList.length
  | forbidden _ _ => .forbidden

theorem chosen?_eq_some_iff {view : LoginView} {value : String} (listed : value ∈ ["local", "ldap"]) :
    chosen? .composite view = some value ↔ view.userType = value := by
  rw [chosen?, if_pos rfl]
  constructor
  · intro found
    have asked := List.find?_some found
    exact of_decide_eq_true asked
  · rintro rfl
    simp only [List.mem_cons, List.not_mem_nil, or_false] at listed
    rcases listed with first | second
    · rw [first]
      rfl
    · rw [second]
      rfl

variable {display other : Display}

/-- Two pages of one outline are alike, or both are of a forbidden host. -/
theorem alike_page (same : display.outline = other.outline) :
    Alike display.page.pieces other.page.pieces ∨
      ∃ host name host' name', display = .forbidden host name ∧ other = .forbidden host' name' := by
  cases display with
  | login authType view =>
    cases other with
    | login authType' view' =>
      rw [outline, outline, Outline.login.injEq] at same
      rcases same with ⟨rfl, failed, chosen⟩
      refine Or.inl (alike_login authType view (not_iff_not.mp (decide_eq_decide.mp failed)) ?_)
      rintro rfl
      apply selector_eq
      intro value listed
      rw [← chosen?_eq_some_iff listed, chosen, chosen?_eq_some_iff listed]
    | status user' => exact absurd same (by simp [outline])
    | forbidden host' name' => exact absurd same (by simp [outline])
  | status user =>
    cases other with
    | login authType' view' => exact absurd same (by simp [outline])
    | status user' => exact Or.inl (alike_status user (Outline.status.inj same))
    | forbidden host' name' => exact absurd same (by simp [outline])
  | forbidden host name =>
    cases other with
    | login authType' view' => exact absurd same (by simp [outline])
    | status user' => exact absurd same (by simp [outline])
    | forbidden host' name' => exact Or.inr ⟨host, name, host', name', rfl, rfl⟩

theorem frame_page (same : display.outline = other.outline) :
    display.page.pieces.flatMap Piece.frame = other.page.pieces.flatMap Piece.frame := by
  rcases alike_page same with alike | ⟨host, name, host', name', rfl, rfl⟩
  · exact alike.frame
  · rfl

theorem clean_page (display : Display) : display.page.pieces.all Piece.isClean = true := by
  cases display with
  | login authType view => exact clean_login authType view
  | status user => exact clean_status user
  | forbidden host name => rfl

/-- Every text is shown, once in each place, and escaped once. -/
theorem inserted_page (display : Display) :
    display.page.inserted = display.texts.map escapeHtml := by
  cases display with
  | login authType view => exact inserted_login authType view
  | status user => exact inserted_status user
  | forbidden host name => rfl

/-- Pages of one outline that are written alike show the same texts. -/
theorem texts_eq_of_render (outlined : display.outline = other.outline)
    (same : display.page.render = other.page.render) : display.texts = other.texts := by
  have chars : written display.page.pieces = written other.page.pieces := by
    rw [← toList_render, same, toList_render]
  have shown : display.page.inserted = other.page.inserted := by
    rcases alike_page outlined with alike | ⟨host, name, host', name', rfl, rfl⟩
    · exact alike.inserted chars
    · exact inserted_forbidden chars
  rw [inserted_page, inserted_page] at shown
  exact List.map_injective_iff.mpr escapeHtml_injective shown

end Display

/-- Whatever texts a page shows, its delimiters are those of any page of the same outline, and such a page
is the same only if it shows the same texts.  A page is its markup with what is written for the texts in
the gaps; each of its ampersands begins an entity, and each text can be read as it was from what is written
for it. -/
theorem texts_add_no_markup :
    (∀ display other : Display, display.outline = other.outline →
      delimiters display.page.render.toList = delimiters other.page.render.toList ∧
      (display.page.render = other.page.render → display.texts = other.texts)) ∧
    (∀ display : Display, EntitiesOnly display.page.render.toList ∧
      display.page.render = fill display.page.gaps display.page.inserted ∧
      display.page.gaps.count none = display.page.inserted.length ∧
      display.page.inserted.map unescapeHtml = display.texts) ∧
    Function.Injective escapeHtml := by
  refine ⟨fun display other same => ⟨?_, Display.texts_eq_of_render same⟩,
    fun display => ⟨?_, render_eq_fill _, count_gaps _, ?_⟩, escapeHtml_injective⟩
  · rw [delimiters_render, delimiters_render, Display.frame_page same]
  · exact entitiesOnly_render display.clean_page
  · rw [display.inserted_page, List.map_map]
    exact List.map_id'' unescapeHtml_escapeHtml display.texts

end Page

end AuthGateway
