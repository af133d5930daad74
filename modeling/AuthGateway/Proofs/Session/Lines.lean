import AuthGateway.Proofs.Session.Issue

namespace AuthGateway

/-!
# One session among the cookies of a request

A browser sends the cookies of all applications of a host together, in lines whose parts are
separated by semicolons.  Whatever bytes the other parts and the other lines hold, the token of the
one pair that has the name of the session cookie is found, if the line of the pair is text
(`SessionCookie.token_among_cookies`).  A line is read as text as a whole or not at all, so that one
byte beyond ASCII in another part of the same line hides the session
(`SessionCookie.token_hidden_by_theme`).
-/

open Net (HeaderMap HeaderValue)
open Text (Bytes)

namespace SessionCookie

/-- The blanks that a header value can hold. -/
def isBlankByte (b : UInt8) : Bool :=
  b == 0x09 || b == 0x20

/-- A part of a line that is no pair of this name: behind its blanks it does not begin with the name
and an equals sign. -/
def Foreign (name : String) (part : Bytes) : Prop :=
  ¬ Text.encode (name ++ "=") <+: part.dropWhile isBlankByte

instance (name : String) (part : Bytes) : Decidable (Foreign name part) :=
  inferInstanceAs (Decidable (¬ _))

/-- The pair of the token is in one line of the request, perhaps with blanks around it, and nothing
else in the lines is a pair of its name. -/
structure CarriesOnce (cookie : SessionCookie) (headers : HeaderMap) (line : HeaderValue)
    (token : String) : Prop where
  lines : ∃ before after, headers.getAll .cookie = before ++ line :: after ∧
    ∀ other ∈ before ++ after, ∀ part ∈ Text.splitAll 0x3B other.bytes, Foreign cookie.name part
  parts : ∃ front left right back, Text.splitAll 0x3B line.bytes =
      front ++ (left ++ Text.encode (cookie.pairText token) ++ right) :: back ∧
    (left ++ right).all isBlankByte = true ∧ ∀ part ∈ front ++ back, Foreign cookie.name part

/-- A digit of web-safe Base64, or what fills its last group. -/
def isBase64Url (c : Char) : Bool :=
  Text.Base64.urlSafe.alphabet.contains c || c == '='

theorem cleanValue_of_isBase64Url {token : String} (nonempty : token ≠ "")
    (written : token.toList.all isBase64Url = true) : CleanValue token := by
  have digits : Text.Base64.urlSafe.alphabet.all
      (fun c => Token.isPlain c && c != '"') = true := by decide
  have value : ∀ c ∈ token.toList,
      (c = '=' ∨ Token.isPlain c = true) ∧ (c == '"') = false := by
    intro c member
    rcases Bool.or_eq_true_iff.mp (List.all_eq_true.mp written c member) with listed | filling
    · rcases Bool.and_eq_true_iff.mp (List.all_eq_true.mp digits c (List.contains_iff_mem.mp listed))
        with ⟨plain, unquoted⟩
      exact ⟨Or.inr plain, (Bool.not_eq_true' _).mp unquoted⟩
    · rw [beq_iff_eq.mp filling]
      decide
  exact {
    nonempty := nonempty
    plain := fun c member => (value c member).1
    unquoted := fun c member => (value c member).2 }

private theorem range_of_isVisibleByte {b : UInt8} (visible : Net.isVisibleByte b = true) :
    b.toNat = 9 ∨ 32 ≤ b.toNat ∧ b.toNat < 127 := by
  simpa only [← Net.isShown_ofNat_byte, Net.isShown, Text.toNat_ofNat_byte, Bool.or_eq_true,
    Bool.and_eq_true, decide_eq_true_eq] using visible

private theorem isBlank_byte {b : UInt8} (visible : Net.isVisibleByte b = true) :
    Text.isBlank (Char.ofNat b.toNat) = isBlankByte b := by
  have range := range_of_isVisibleByte visible
  rw [Bool.eq_iff_iff]
  simp only [Text.isBlank, isBlankByte, Text.toNat_ofNat_byte, Bool.or_eq_true, Bool.and_eq_true,
    beq_iff_eq, decide_eq_true_eq, ← UInt8.toNat_inj]
  change _ ↔ b.toNat = 9 ∨ b.toNat = 32
  omega

section

variable {part : Bytes} (visible : ∀ b ∈ part, Net.isVisibleByte b = true)

include visible

/-- In a line that is text, blank bytes are all that is taken off in front of a part. -/
private theorem dropWhile_latin1 :
    (Text.latin1 part).toList.dropWhile Text.isBlank =
      (Text.latin1 (part.dropWhile isBlankByte)).toList := by
  rw [Text.latin1, Text.latin1, String.toList_ofList, String.toList_ofList]
  induction part with
  | nil => rfl
  | cons b rest inductionHypothesis =>
    have later := inductionHypothesis fun c member => visible c (List.mem_cons_of_mem b member)
    have same := isBlank_byte (visible b List.mem_cons_self)
    by_cases blank : isBlankByte b = true
    · rw [List.map_cons, List.dropWhile_cons_of_pos (same.trans blank), later,
        List.dropWhile_cons_of_pos blank]
    · rw [List.map_cons, List.dropWhile_cons_of_neg (same ▸ blank), List.dropWhile_cons_of_neg blank,
        List.map_cons]

/-- What is read from a foreign part is no pair of the name. -/
private theorem name_ne_of_foreign {name : String} (nonempty : name ≠ "")
    (clean : name.toList.all Token.isPlain = true) (foreign : Foreign name part)
    {pair : String × String} (cut : Text.cut? '=' (Text.trim (Text.latin1 part)) = some pair) :
    pair.1 ≠ name := by
  rcases pair with ⟨before, value⟩
  rintro rfl
  apply foreign
  rcases Text.exists_eq_append_trimBy Text.isBlank (Text.latin1 part).toList with
    ⟨left, right, around, blank, -⟩
  have whole : Text.trimBy Text.isBlank (Text.latin1 part).toList =
      before.toList ++ '=' :: value.toList := by
    have split := (Text.cut?_eq_some_iff.mp cut).2
    rwa [Text.trim, String.toList_ofList] at split
  have dropped : Text.latin1 (part.dropWhile isBlankByte) =
      before ++ "=" ++ String.ofList (value.toList ++ right) := by
    apply String.toList_inj.mp
    rw [← dropWhile_latin1 visible, around, whole, List.append_assoc,
      List.dropWhile_append_of_pos blank]
    cases first : before.toList with
    | nil => exact absurd (String.toList_eq_nil_iff.mp first) nonempty
    | cons c rest =>
      have plain := Token.isPlain_iff.mp
        (List.all_eq_true.mp clean c (first ▸ List.mem_cons_self))
      rw [List.cons_append, List.cons_append,
        List.dropWhile_cons_of_neg (Bool.eq_false_iff.mp plain.2.1)]
      simp [first]
  have ascii : ∀ b ∈ part.dropWhile isBlankByte, b.toNat < 0x80 := by
    intro b member
    have range := range_of_isVisibleByte (visible b ((List.dropWhile_sublist _).subset member))
    omega
  rw [← Text.encode_latin1 ascii, dropped, Text.encode_append]
  exact List.prefix_append _ _

end

private theorem parts_latin1 (bytes : Bytes) :
    Text.parts ';' (Text.latin1 bytes) = (Text.splitAll 0x3B bytes).map Text.latin1 := by
  have apart : ∀ b : UInt8, Char.ofNat b.toNat = Char.ofNat (0x3B : UInt8).toNat → b = 0x3B := by
    intro b same
    have number := congrArg Char.toNat same
    rwa [Text.toNat_ofNat_byte, Text.toNat_ofNat_byte, UInt8.toNat_inj] at number
  have split := Text.splitAll_map (fun b : UInt8 => Char.ofNat b.toNat) apart bytes
  rw [Text.parts, Text.latin1, String.toList_ofList,
    show ';' = Char.ofNat (0x3B : UInt8).toNat from rfl, split, List.map_map]
  rfl

/-- The pairs of a request, from the bytes of its lines. -/
private theorem mem_allPairs_iff_bytes {headers : HeaderMap} {pair : String × String} :
    pair ∈ allPairs headers ↔ ∃ value ∈ headers.getAll .cookie,
      value.bytes.all Net.isVisibleByte = true ∧ ∃ part ∈ Text.splitAll 0x3B value.bytes,
        Text.cut? '=' (Text.trim (Text.latin1 part)) = some pair := by
  rw [mem_allPairs_iff]
  refine exists_congr fun value => and_congr_right fun _ => ?_
  rw [HeaderValue.text?]
  split
  · rename_i visible
    simp only [Option.some.injEq, exists_eq_left', parts_latin1, List.mem_map,
      exists_exists_and_eq_and, visible, true_and]
  · rename_i broken
    simp only [reduceCtorEq, false_and, exists_false, Bool.eq_false_iff.mpr broken,
      Bool.false_eq_true]

section

variable {cookie : SessionCookie} {token : String}

/-- The part that holds the pair is cut into its name and the token. -/
private theorem cut?_of_around (findable : Findable cookie.name) (written : CleanValue token)
    {left right : Bytes} (blank : (left ++ right).all isBlankByte = true) :
    Text.cut? '=' (Text.trim (Text.latin1 (left ++ Text.encode (cookie.pairText token) ++ right))) =
      some (cookie.name, token) := by
  rw [List.all_append, Bool.and_eq_true] at blank
  have blanks : ∀ bytes : Bytes, bytes.all isBlankByte = true →
      ∀ c ∈ (Text.latin1 bytes).toList, Text.isBlank c = true := by
    intro bytes all c member
    rw [Text.latin1, String.toList_ofList] at member
    rcases List.mem_map.mp member with ⟨b, listed, rfl⟩
    rcases Bool.or_eq_true_iff.mp (List.all_eq_true.mp all b listed) with tab | space
    · rw [beq_iff_eq.mp tab]
      decide
    · rw [beq_iff_eq.mp space]
      decide
  rw [Text.latin1_append, Text.latin1_append,
    Text.latin1_encode (ascii_of_mem_pairText findable written),
    Text.trim_append (blanks left blank.1) (blanks right blank.2), trim_pairText findable written,
    cut?_pairText findable.unequal]

/-- A line that is text holds no pair of the name in its foreign parts. -/
private theorem name_ne_of_splitAll (nonempty : cookie.name ≠ "") (clean : cookie.CleanName)
    {bytes part : Bytes} (visible : bytes.all Net.isVisibleByte = true)
    (inside : part ∈ Text.splitAll 0x3B bytes) (foreign : Foreign cookie.name part)
    {pair : String × String} (cut : Text.cut? '=' (Text.trim (Text.latin1 part)) = some pair) :
    pair.1 ≠ cookie.name :=
  name_ne_of_foreign
    (fun b member => List.all_eq_true.mp visible b ((Text.of_mem_splitAll inside).2 b member))
    nonempty clean foreign cut

/-- Among other cookies the token is found just where its line is text. -/
private theorem tokenIn_of_carriesOnce (nonempty : cookie.name ≠ "") (clean : cookie.CleanName)
    (written : CleanValue token) {headers : HeaderMap} {line : HeaderValue}
    (carries : cookie.CarriesOnce headers line token) :
    cookie.tokenIn headers = if line.bytes.all Net.isVisibleByte then some token else none := by
  rcases carries.lines with ⟨before, after, lines, others⟩
  rcases carries.parts with ⟨front, left, right, back, parts, blank, foreign⟩
  have findable := findable_of_cleanName clean
  -- A pair of the name comes from the one part that is not foreign.
  have unique : ∀ pair ∈ allPairs headers, pair.1 = cookie.name →
      line.bytes.all Net.isVisibleByte = true ∧ pair = (cookie.name, token) := by
    intro pair member named
    rcases mem_allPairs_iff_bytes.mp member with ⟨value, given, visible, part, inside, cut⟩
    have ours : ¬ Foreign cookie.name part := fun distinct =>
      name_ne_of_splitAll nonempty clean visible inside distinct cut named
    rw [lines, List.mem_append, List.mem_cons] at given
    rcases given with early | rfl | late
    · exact absurd (others value (List.mem_append_left after early) part inside) ours
    · rw [parts, List.mem_append, List.mem_cons] at inside
      rcases inside with early | rfl | late
      · exact absurd (foreign part (List.mem_append_left back early)) ours
      · rw [cut?_of_around findable written blank] at cut
        exact ⟨visible, (Option.some.inj cut).symm⟩
      · exact absurd (foreign part (List.mem_append_right front late)) ours
    · exact absurd (others value (List.mem_append_right before late) part inside) ours
  split
  · rename_i visible
    refine tokenIn_of_unique written (mem_allPairs_iff_bytes.mpr ?_) fun pair member named =>
      (unique pair member named).2
    refine ⟨line, lines ▸ List.mem_append_right before List.mem_cons_self, visible, _, ?_,
      cut?_of_around findable written blank⟩
    rw [parts]
    exact List.mem_append_right front List.mem_cons_self
  · rename_i broken
    rw [Option.eq_none_iff_forall_ne_some]
    intro found read
    rcases exists_mem_allPairs read with ⟨value, member⟩
    exact broken (unique _ member rfl).1

/-- The token of a session is found among the cookies of a request, as if it were the only one,
whatever the other parts and the other lines hold, if its own line is text; else it is not found. -/
theorem token_among_cookies (nonempty : cookie.name ≠ "")
    (named : cookie.name.toList.all Net.isTokenChar = true) (given : token ≠ "")
    (written : token.toList.all isBase64Url = true) {headers : HeaderMap} {line : HeaderValue}
    (carries : cookie.CarriesOnce headers line token) :
    (cookie.tokenIn headers = if line.bytes.all Net.isVisibleByte then some token else none) ∧
    (∀ now, cookie.sessionIn now headers =
      if line.bytes.all Net.isVisibleByte then cookie.decode now token else .error .invalidToken) ∧
    ∀ alone : HeaderMap, alone.getAll .cookie = [HeaderValue.ofVisible (cookie.pairText token)] →
      cookie.tokenIn alone = some token := by
  have clean := cleanName_of_isTokenChar named
  have value := cleanValue_of_isBase64Url given written
  have found := tokenIn_of_carriesOnce nonempty clean value carries
  refine ⟨found, fun now => ?_, fun alone only =>
    tokenIn_of_alone (findable_of_cleanName clean) value only⟩
  rw [sessionIn, found]
  cases line.bytes.all Net.isVisibleByte with
  | true => rfl
  | false => rfl

end

/-- A cookie with a short name. -/
def short : SessionCookie :=
  { hourly with name := "sp" }

/-- The bytes of a text in front of one byte beyond ASCII. -/
def accented (text : String) : HeaderValue where
  bytes := (HeaderValue.ofVisible text).bytes ++ [0xE9]
  legal := by
    rw [List.all_append, (HeaderValue.ofVisible text).legal]
    decide

/-- The line of the session, with empty, quoted and nameless parts and names that are similar. -/
def crowdedLine : HeaderValue :=
  .ofVisible "theme=\"dark; sp =1;; =;sp; xsp=sp=2;\tsp=dG9rZW4 ;Sp=3; \""

/-- The line between two others, one of which is no text. -/
def crowdedHeaders : HeaderMap where
  fields := [
    (.cookie, accented "sp; theme="),
    (.cookie, crowdedLine),
    (.cookie, .ofVisible "lang=en")]

theorem token_among_cookies_crowded :
    short.CarriesOnce crowdedHeaders crowdedLine "dG9rZW4" ∧
      short.tokenIn crowdedHeaders = some "dG9rZW4" := by
  have line : Text.splitAll 0x3B crowdedLine.bytes =
      (["theme=\"dark", " sp =1", "", " =", "sp", " xsp=sp=2"].map Text.encode) ++
        (Text.encode "\t" ++ Text.encode (short.pairText "dG9rZW4") ++ Text.encode " ") ::
        (["Sp=3", " \""].map Text.encode) := by decide
  have carries : short.CarriesOnce crowdedHeaders crowdedLine "dG9rZW4" :=
    { lines := ⟨[accented "sp; theme="], [.ofVisible "lang=en"], rfl, by decide⟩
      parts := ⟨_, _, _, _, line, by decide, by decide⟩ }
  have found := token_among_cookies (by decide) (by decide) (by decide) (by decide) carries
  exact ⟨carries, found.1.trans (if_pos (by decide))⟩

/-- One byte of another cookie hides a session that is found when it is alone. -/
theorem token_hidden_by_theme :
    let hidden : HeaderMap := { fields := [(.cookie, accented "sp=dG9rZW4; theme=")] }
    let alone : HeaderMap := { fields := [(.cookie, .ofVisible "sp=dG9rZW4")] }
    short.name ≠ "" ∧ short.name.toList.all Net.isTokenChar = true ∧
      "dG9rZW4".toList.all isBase64Url = true ∧
      short.CarriesOnce hidden (accented "sp=dG9rZW4; theme=") "dG9rZW4" ∧
      short.tokenIn hidden = none ∧ short.tokenIn alone = some "dG9rZW4" := by
  have line : Text.splitAll 0x3B (accented "sp=dG9rZW4; theme=").bytes =
      [] ++ ([] ++ Text.encode (short.pairText "dG9rZW4") ++ []) ::
        [Text.encode " theme=" ++ [0xE9]] := by decide
  exact ⟨by decide, by decide, by decide,
    { lines := ⟨[], [], rfl, by decide⟩
      parts := ⟨_, _, _, _, line, by decide, by decide⟩ },
    by decide, by decide⟩

end SessionCookie

end AuthGateway
