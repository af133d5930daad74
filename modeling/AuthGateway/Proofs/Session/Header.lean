import AuthGateway.Proofs.Net.Header
import AuthGateway.Proofs.Session.Cookie

namespace AuthGateway

/-!
# A session comes back with a request

The token is found among the cookies of a request if all others have other names, and if the name of
its cookie is clean: it has no blanks and no characters that structure a line of cookies.  An issued
token has none of them either, so the session comes back as long as the token is not too old.  Some
names that are not clean are findable too, and under any other name no token is ever found
(`SessionCookie.findable_of_tokenIn`).
-/

open Net (HeaderMap HeaderValue)

/-- A shown character that neither is a blank nor structures a line of cookies. -/
def Token.isPlain (c : Char) : Bool :=
  Net.isShown c && !Text.isBlank c && c ≠ ';' && c ≠ '='

namespace Token

theorem isPlain_iff {c : Char} :
    isPlain c = true ↔ Net.isShown c = true ∧ Text.isBlank c = false ∧ c ≠ ';' ∧ c ≠ '=' := by
  simp only [isPlain, Bool.and_eq_true, Bool.not_eq_true', decide_eq_true_eq, ne_eq, and_assoc]

theorem isPlain_of_isAlphanum {c : Char} (alphanumeric : c.isAlphanum = true) :
    isPlain c = true := by
  have range := Text.range_of_isAlphanum alphanumeric
  rw [isPlain_iff]
  refine ⟨?_, ?_, ?_, ?_⟩
  · simp only [Net.isShown, Bool.or_eq_true, Bool.and_eq_true, decide_eq_true_eq]
    omega
  · simp only [Text.isBlank, Bool.or_eq_false_iff, Bool.and_eq_false_iff, decide_eq_false_iff_not,
      beq_eq_false_iff_ne]
    omega
  · rintro rfl
    exact absurd alphanumeric (by decide)
  · rintro rfl
    exact absurd alphanumeric (by decide)

theorem isPlain_of_mem_text (token : Token) : ∀ c ∈ token.text.toList, isPlain c = true := by
  intro c member
  rcases Text.Base64.isToken_of_mem_encode_urlSafe token.bytes c member with alphanumeric | rfl | rfl
  · exact isPlain_of_isAlphanum alphanumeric
  · decide
  · decide

theorem quote_not_mem_text (token : Token) : ∀ c ∈ token.text.toList, (c == '"') = false := by
  rintro c member
  rw [beq_eq_false_iff_ne]
  rintro rfl
  exact absurd (range_of_mem_encode token.bytes _ member).1 (by decide)

/-- A token has bars, so that its text is never empty. -/
theorem text_ne_empty (token : Token) : token.text ≠ "" := by
  intro empty
  have read : Text.Base64.decode? Text.Base64.urlSafe token.text = some token.bytes :=
    Text.Base64.decode?_encode Text.Base64.urlSafe_proper token.bytes
  have nothing : Text.Base64.decode? Text.Base64.urlSafe "" = some [] := by decide
  rw [empty, nothing] at read
  have length := congrArg List.length (Option.some.inj read)
  simp [bytes] at length

end Token

namespace SessionCookie

variable {cookie : SessionCookie}

/-- The pair of a cookie, as a browser brings it back. -/
def pairText (cookie : SessionCookie) (token : String) : String :=
  cookie.name ++ "=" ++ token

/-- The name has plain characters only. -/
def CleanName (cookie : SessionCookie) : Prop :=
  cookie.name.toList.all Token.isPlain = true

instance (cookie : SessionCookie) : Decidable cookie.CleanName :=
  inferInstanceAs (Decidable (_ = true))

theorem toList_pairText (token : String) :
    (cookie.pairText token).toList = cookie.name.toList ++ '=' :: token.toList := by
  rw [pairText, String.toList_append, String.toList_append, List.append_assoc]
  rfl

/-- A value that is read as it is written: it has plain characters and equals signs, and no quotes. -/
structure CleanValue (value : String) : Prop where
  nonempty : value ≠ ""
  plain : ∀ c ∈ value.toList, c = '=' ∨ Token.isPlain c = true
  unquoted : ∀ c ∈ value.toList, (c == '"') = false

theorem cleanValue_text (token : Token) : CleanValue token.text where
  nonempty := token.text_ne_empty
  plain := fun c member => Or.inr (token.isPlain_of_mem_text c member)
  unquoted := token.quote_not_mem_text

theorem unquote_of_cleanValue {value : String} (written : CleanValue value) : unquote value = value := by
  rw [unquote, Text.trimBy_of_forall written.unquoted, String.ofList_toList]

/-- A name that is found again in the line that it is written into: its characters are shown and
end neither the name nor the pair, and no blank is in front. -/
structure Findable (name : String) : Prop where
  shown : name.toList.all Net.isShown = true
  unbroken : ';' ∉ name.toList
  unequal : '=' ∉ name.toList
  front : name.toList.head?.any Text.isBlank = false

theorem findable_of_cleanName (clean : cookie.CleanName) : Findable cookie.name := by
  have plain := fun c member => Token.isPlain_iff.mp (List.all_eq_true.mp clean c member)
  refine {
    shown := List.all_eq_true.mpr fun c member => (plain c member).1
    unbroken := fun member => (plain _ member).2.2.1 rfl
    unequal := fun member => (plain _ member).2.2.2 rfl
    front := ?_ }
  cases first : cookie.name.toList with
  | nil => rfl
  | cons c rest => exact (plain c (first ▸ List.mem_cons_self)).2.1

/-- The pair is cut at its first equals sign. -/
theorem cut?_pairText {value : String} (unequal : '=' ∉ cookie.name.toList) :
    Text.cut? '=' (cookie.pairText value) = some (cookie.name, value) := by
  simp only [Text.cut?, toList_pairText, Text.splitOnce?_append unequal, Option.map_some,
    String.ofList_toList]

section

variable {value : String} (findable : Findable cookie.name) (written : CleanValue value)

include findable written

private theorem of_mem_pairText {c : Char} (member : c ∈ (cookie.pairText value).toList) :
    Net.isShown c = true ∧ c ≠ ';' := by
  rw [toList_pairText, List.mem_append, List.mem_cons] at member
  rcases member with named | rfl | later
  · exact ⟨List.all_eq_true.mp findable.shown c named, fun same => findable.unbroken (same ▸ named)⟩
  · decide
  · rcases written.plain c later with rfl | plain
    · decide
    · exact ⟨(Token.isPlain_iff.mp plain).1, (Token.isPlain_iff.mp plain).2.2.1⟩

theorem isShown_of_mem_pairText : ∀ c ∈ (cookie.pairText value).toList, Net.isShown c = true :=
  fun _ member => (of_mem_pairText findable written member).1

theorem ascii_of_mem_pairText : ∀ c ∈ (cookie.pairText value).toList, c.toNat < 0x80 :=
  fun c member =>
    Nat.lt_trans (Net.ascii_of_isShown (isShown_of_mem_pairText findable written c member)) (by decide)

theorem semicolon_not_mem_pairText : ';' ∉ (cookie.pairText value).toList :=
  fun member => (of_mem_pairText findable written member).2 rfl

/-- The pair has no blanks at its ends. -/
theorem trim_pairText : Text.trim (cookie.pairText value) = cookie.pairText value := by
  have ends : Text.trimBy Text.isBlank (cookie.pairText value).toList =
      (cookie.pairText value).toList := by
    rw [toList_pairText]
    apply Text.trimBy_of_ends
    · intro c first
      cases named : cookie.name.toList with
      | nil =>
        rw [named] at first
        rw [← Option.some.inj first]
        decide
      | cons d rest =>
        have front := findable.front
        rw [named] at first front
        rw [← Option.some.inj first]
        exact front
    · intro c last
      rw [List.getLast?_append_cons] at last
      rcases List.mem_cons.mp (List.mem_of_getLast? last) with rfl | inside
      · decide
      · rcases written.plain c inside with rfl | plain
        · decide
        · exact (Token.isPlain_iff.mp plain).2.1
  rw [Text.trim, ends, String.ofList_toList]

end

/-- The pairs of a request, in all of its lines that are text. -/
def allPairs (headers : HeaderMap) : List (String × String) :=
  ((headers.getAll .cookie).filterMap HeaderValue.text?).flatMap pairs

theorem mem_allPairs_iff {headers : HeaderMap} {pair : String × String} :
    pair ∈ allPairs headers ↔ ∃ value ∈ headers.getAll .cookie, ∃ line, value.text? = some line ∧
      ∃ part ∈ Text.parts ';' line, Text.cut? '=' (Text.trim part) = some pair := by
  simp only [allPairs, pairs, List.mem_flatMap, List.mem_filterMap]
  constructor
  · rintro ⟨line, ⟨value, given, read⟩, part, inside, cut⟩
    exact ⟨value, given, line, read, part, inside, cut⟩
  · rintro ⟨value, given, line, read, part, inside, cut⟩
    exact ⟨line, ⟨value, given, read⟩, part, inside, cut⟩

/-- The token is the value of the one pair of its name. -/
theorem tokenIn_of_unique {headers : HeaderMap} {value : String} (written : CleanValue value)
    (listed : (cookie.name, value) ∈ allPairs headers)
    (unique : ∀ pair ∈ allPairs headers, pair.1 = cookie.name → pair = (cookie.name, value)) :
    cookie.tokenIn headers = some value := by
  have kept : (some value).filter (· ≠ "") = some value := by
    rw [Option.filter_some, if_pos (decide_eq_true written.nonempty)]
  have found : (allPairs headers).find? (·.1 = cookie.name) = some (cookie.name, value) := by
    cases first : (allPairs headers).find? (·.1 = cookie.name) with
    | none => exact absurd (decide_eq_true rfl) (List.find?_eq_none.mp first _ listed)
    | some pair =>
      have named : pair.1 = cookie.name := by simpa only [decide_eq_true_eq] using List.find?_some first
      rw [unique pair (List.mem_of_find?_eq_some first) named]
  rw [allPairs] at found
  simp only [tokenIn, found, unquote_of_cleanValue written, kept]

/-- A token that is found is the value of a pair of its name. -/
theorem exists_mem_allPairs {headers : HeaderMap} {token : String}
    (found : cookie.tokenIn headers = some token) :
    ∃ value, (cookie.name, value) ∈ allPairs headers := by
  cases first : (allPairs headers).find? (·.1 = cookie.name) with
  | none =>
    rw [allPairs] at first
    simp only [tokenIn, first, reduceCtorEq] at found
  | some pair =>
    have named : pair.1 = cookie.name := by simpa only [decide_eq_true_eq] using List.find?_some first
    exact ⟨pair.2, named ▸ List.mem_of_find?_eq_some first⟩

/-- No request whatever brings a token under a name that is not findable. -/
theorem findable_of_tokenIn {headers : HeaderMap} {token : String}
    (found : cookie.tokenIn headers = some token) : Findable cookie.name := by
  rcases exists_mem_allPairs found with ⟨value, member⟩
  rcases mem_allPairs_iff.mp member with ⟨header, -, line, read, part, inside, cut⟩
  rcases Text.cut?_eq_some_iff.mp cut with ⟨unequal, whole⟩
  rcases List.mem_map.mp inside with ⟨chars, split, rfl⟩
  rcases Text.of_mem_splitAll split with ⟨unbroken, within⟩
  have kept : ∀ c ∈ cookie.name.toList, c ∈ chars := by
    intro c named
    have trimmed : c ∈ (Text.trim (String.ofList chars)).toList :=
      whole ▸ List.mem_append_left _ named
    have listed := Text.mem_of_mem_trim trimmed
    rwa [String.toList_ofList] at listed
  refine {
    shown := List.all_eq_true.mpr fun c named =>
      HeaderValue.isShown_of_text? read c (within c (kept c named))
    unbroken := fun named => unbroken (kept _ named)
    unequal := unequal
    front := ?_ }
  cases first : cookie.name.toList with
  | nil => rfl
  | cons c rest =>
    rw [first, List.cons_append, Text.trim, String.toList_ofList] at whole
    exact Text.front_of_trimBy whole

/-- A line without semicolons is all that is read of a request with no other line. -/
theorem mem_allPairs_of_single {headers : HeaderMap} {value : HeaderValue} {line : String}
    (only : headers.getAll .cookie = [value]) (read : value.text? = some line)
    (unbroken : ';' ∉ line.toList) {pair : String × String} :
    pair ∈ allPairs headers ↔ Text.cut? '=' (Text.trim line) = some pair := by
  simp only [mem_allPairs_iff, only, List.mem_singleton, exists_eq_left, read, Option.some.injEq,
    exists_eq_left', Text.parts_of_not_mem unbroken]

/-- The pair of a findable name is read as its value. -/
theorem tokenIn_of_alone (findable : Findable cookie.name) {value : String}
    (written : CleanValue value) {headers : HeaderMap}
    (only : headers.getAll .cookie = [HeaderValue.ofVisible (cookie.pairText value)]) :
    cookie.tokenIn headers = some value := by
  have read := HeaderValue.text?_ofVisible (isShown_of_mem_pairText findable written)
  have pairs : ∀ pair, pair ∈ allPairs headers ↔ (cookie.name, value) = pair := by
    intro pair
    rw [mem_allPairs_of_single only read (semicolon_not_mem_pairText findable written),
      trim_pairText findable written, cut?_pairText findable.unequal, Option.some.injEq]
  exact tokenIn_of_unique written ((pairs _).mpr rfl) fun pair member _ => ((pairs pair).mp member).symm

/-- The pair is among the cookies of a request, in one of its lines, and all other cookies have other
names. -/
structure Brings (cookie : SessionCookie) (headers : HeaderMap) (pair : String) : Prop where
  present : ∃ value ∈ headers.getAll .cookie, ∃ line, value.text? = some line ∧
    ∃ part ∈ Text.parts ';' line, Text.trim part = pair
  others : ∀ value ∈ headers.getAll .cookie, ∀ line, value.text? = some line →
    ∀ part ∈ Text.parts ';' line, Text.trim part ≠ pair →
      (Text.cut? '=' (Text.trim part)).map (·.1) ≠ some cookie.name

/-- Whatever other cookies there are, the token is found. -/
theorem tokenIn_of_brings (clean : cookie.CleanName) (token : Token) {headers : HeaderMap}
    (brings : cookie.Brings headers (cookie.pairText token.text)) :
    cookie.tokenIn headers = some token.text := by
  have cut : Text.cut? '=' (cookie.pairText token.text) = some (cookie.name, token.text) :=
    cut?_pairText (findable_of_cleanName clean).unequal
  refine tokenIn_of_unique (cleanValue_text token) (mem_allPairs_iff.mpr ?_) ?_
  · rcases brings.present with ⟨value, given, line, read, part, inside, same⟩
    exact ⟨value, given, line, read, part, inside, same ▸ cut⟩
  · intro pair member named
    rcases mem_allPairs_iff.mp member with ⟨value, given, line, read, part, inside, found⟩
    by_cases same : Text.trim part = cookie.pairText token.text
    · rw [same, cut] at found
      exact (Option.some.inj found).symm
    · refine absurd ?_ (brings.others value given line read part inside same)
      rw [found, Option.map_some, named]

/-- The session that a token was issued for comes back with it, while the token is not too old. -/
theorem sessionIn_of_tokenIn {issued : Int} (low : Text.int64Min ≤ issued)
    (high : issued ≤ Text.int64Max) {nonce : Text.Bytes}
    (length : nonce.length = Crypto.Gcm.nonceLength) (info : Session) {headers : HeaderMap}
    (found : cookie.tokenIn headers = some (cookie.encode issued nonce info))
    {now : Int} (fresh : cookie.isStale now issued = false) :
    cookie.sessionIn now headers = .ok info := by
  simp only [sessionIn, found, cookie.decode_encode_eq low high length info now, fresh,
    Bool.false_eq_true, if_false]

/-- Then it comes back among other cookies. -/
theorem sessionIn_of_brings (clean : cookie.CleanName) {issued : Int} (low : Text.int64Min ≤ issued)
    (high : issued ≤ Text.int64Max) {nonce : Text.Bytes}
    (length : nonce.length = Crypto.Gcm.nonceLength) (info : Session) {headers : HeaderMap}
    (brings : cookie.Brings headers (cookie.pairText (cookie.encode issued nonce info)))
    {now : Int} (fresh : cookie.isStale now issued = false) :
    cookie.sessionIn now headers = .ok info :=
  sessionIn_of_tokenIn low high length info
    (tokenIn_of_brings clean (cookie.issue issued nonce info) brings) fresh

/-- The pair is brought in a line of its own, among lines that hold other cookies. -/
theorem brings_of_line (clean : cookie.CleanName) (token : Token) {headers : HeaderMap}
    {before after : List HeaderValue}
    (lines : headers.getAll .cookie =
      before ++ HeaderValue.ofVisible (cookie.pairText token.text) :: after)
    (others : ∀ value ∈ before ++ after, ∀ line, value.text? = some line →
      ∀ part ∈ Text.parts ';' line, (Text.cut? '=' (Text.trim part)).map (·.1) ≠ some cookie.name) :
    cookie.Brings headers (cookie.pairText token.text) := by
  have findable := findable_of_cleanName clean
  have written := cleanValue_text token
  have line := HeaderValue.text?_ofVisible (isShown_of_mem_pairText findable written)
  have single : Text.parts ';' (cookie.pairText token.text) = [cookie.pairText token.text] :=
    Text.parts_of_not_mem (semicolon_not_mem_pairText findable written)
  constructor
  case present =>
    refine ⟨_, lines ▸ List.mem_append_right before List.mem_cons_self, _, line,
      cookie.pairText token.text, ?_, trim_pairText findable written⟩
    rw [single]
    exact List.mem_singleton_self _
  case others =>
    intro value given text read part inside different
    rw [lines, List.mem_append, List.mem_cons] at given
    rcases given with early | rfl | late
    · exact others value (List.mem_append_left after early) text read part inside
    · rw [line] at read
      rw [← Option.some.inj read, single, List.mem_singleton] at inside
      rw [inside, trim_pairText findable written] at different
      exact absurd rfl different
    · exact others value (List.mem_append_right before late) text read part inside

/-- In particular it comes back from its cookie alone. -/
theorem sessionIn_pairText (clean : cookie.CleanName) {issued : Int} (low : Text.int64Min ≤ issued)
    (high : issued ≤ Text.int64Max) {nonce : Text.Bytes}
    (length : nonce.length = Crypto.Gcm.nonceLength) (info : Session) {headers : HeaderMap}
    (only : headers.getAll .cookie =
      [HeaderValue.ofVisible (cookie.pairText (cookie.encode issued nonce info))])
    {now : Int} (fresh : cookie.isStale now issued = false) :
    cookie.sessionIn now headers = .ok info :=
  sessionIn_of_tokenIn low high length info
    (tokenIn_of_alone (findable_of_cleanName clean) (cleanValue_text (cookie.issue issued nonce info))
      only) fresh

end SessionCookie

end AuthGateway
