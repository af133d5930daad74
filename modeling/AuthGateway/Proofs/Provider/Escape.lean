import AuthGateway.Proofs.Text.Utf8
import AuthGateway.Provider.Directory

namespace AuthGateway

/-!
# Accounts in a search filter

A directory service reads the text of a filter in units, as RFC 4515 says.  Parentheses enclose filters
and their parts, stars stand in a value for anything, and a backslash with two digits is an octet of a
value.

Parentheses, stars and backslashes of an account are written as octets.  So an account is one unit for
each of its characters, whatever stands around it, and none of them is a parenthesis or a star
(`Directory.tokens_escape_append`).  As a value it has the octets of the account and no others
(`Directory.value?_escape`).
-/

open Text (Bytes)

namespace Directory

/-- A unit of the text of a filter. -/
inductive Token where
  | opening
  | closing
  | star
  | plain (c : Char)
  /-- A backslash and two digits. -/
  | escaped (octet : UInt8)
  /-- A backslash without digits, or a NUL: neither may stand in a filter. -/
  | stray
deriving DecidableEq

namespace Token

def ofChar : Char → Token
  | '(' => .opening
  | ')' => .closing
  | '*' => .star
  | '\\' => .stray
  | '\x00' => .stray
  | c => .plain c

/-- The octets of a value that the unit stands for. -/
def octets? : Token → Option Bytes
  | plain c => some (String.utf8EncodeChar c)
  | escaped octet => some [octet]
  | _ => none

end Token

/-- The units of a text. -/
def tokens : List Char → List Token
  | [] => []
  | c :: rest =>
    if c = '\\' then
      match rest with
      | h :: l :: after =>
        match Text.hexDigit? h, Text.hexDigit? l with
        | some high, some low => .escaped (UInt8.ofNat (high * 16 + low)) :: tokens after
        | _, _ => .stray :: tokens (h :: l :: after)
      | rest => .stray :: tokens rest
    else .ofChar c :: tokens rest

/-- The octets between the stars. -/
def pieces? : List Token → Option (List Bytes)
  | [] => some [[]]
  | unit :: rest =>
    if unit = .star then (pieces? rest).map ([] :: ·)
    else
      match unit.octets?, pieces? rest with
      | some octets, some (piece :: pieces) => some ((octets ++ piece) :: pieces)
      | _, _ => none

/-- The octets of a value, in which no star stands for anything. -/
def value? (s : String) : Option Bytes :=
  match pieces? (tokens s.toList) with
  | some [octets] => some octets
  | _ => none

/-- The text of a value. -/
def unescape? (s : String) : Option String :=
  (value? s).bind Text.decode?

/-- The characters that mean something in a filter. -/
def marks : List Char := ['(', ')', '*', '\\', '\x00']

/-- How a character of an account stands in a filter. -/
def Token.ofAccount (c : Char) : Token :=
  if c ∈ marks then .escaped (UInt8.ofNat c.toNat) else .plain c

theorem Token.ofChar_of_unmarked {c : Char} (unmarked : c ∉ marks) : Token.ofChar c = .plain c := by
  unfold Token.ofChar
  split
  case h_6 => rfl
  all_goals exact absurd (by decide) unmarked

theorem escapeChar_of_unmarked {c : Char} (unmarked : c ∉ marks) : escapeChar c = [c] := by
  unfold escapeChar
  split
  case h_6 => rfl
  all_goals exact absurd (by decide) unmarked

/-- A mark is written as a backslash and the digits of its octet. -/
theorem exists_digits_of_mark {c : Char} (mark : c ∈ marks) :
    ∃ h l high low, escapeChar c = ['\\', h, l] ∧ Text.hexDigit? h = some high ∧
      Text.hexDigit? l = some low ∧ c.toNat = high * 16 + low := by
  simp only [marks, List.mem_cons, List.not_mem_nil, or_false] at mark
  rcases mark with rfl | rfl | rfl | rfl | rfl
  · exact ⟨'2', '8', 2, 8, rfl, rfl, rfl, rfl⟩
  · exact ⟨'2', '9', 2, 9, rfl, rfl, rfl, rfl⟩
  · exact ⟨'2', 'a', 2, 10, rfl, rfl, rfl, rfl⟩
  · exact ⟨'5', 'c', 5, 12, rfl, rfl, rfl, rfl⟩
  · exact ⟨'0', '0', 0, 0, rfl, rfl, rfl, rfl⟩

theorem tokens_of_ne {c : Char} (different : c ≠ '\\') (rest : List Char) :
    tokens (c :: rest) = .ofChar c :: tokens rest := by
  rw [tokens.eq_def]
  exact if_neg different

theorem tokens_digits {h l : Char} {high low : Nat} (first : Text.hexDigit? h = some high)
    (second : Text.hexDigit? l = some low) (rest : List Char) :
    tokens ('\\' :: h :: l :: rest) = .escaped (UInt8.ofNat (high * 16 + low)) :: tokens rest := by
  rw [tokens.eq_def]
  dsimp only
  rw [if_pos rfl, first, second]

/-- A backslash that no digits follow is a unit of its own. -/
theorem tokens_bare {cs : List Char} (bare : ∀ h l after high low, cs = h :: l :: after →
    Text.hexDigit? h = some high → Text.hexDigit? l = some low → False) :
    tokens ('\\' :: cs) = .stray :: tokens cs := by
  rw [tokens.eq_def]
  dsimp only
  rw [if_pos rfl]
  split
  · rename_i h l after
    split
    · rename_i high low first second
      exact (bare h l after high low rfl first second).elim
    · rfl
  · rfl

/-- A unit does not go on behind a character that is no digit. -/
theorem tokens_append {c : Char} (nondigit : Text.hexDigit? c = none) (cs rest : List Char) :
    tokens (cs ++ c :: rest) = tokens cs ++ tokens (c :: rest) := by
  fun_induction tokens cs with
  | case1 => rfl
  | case2 h l after high low second first inductionHypothesis =>
    exact (tokens_digits first second (after ++ c :: rest)).trans (congrArg _ inductionHypothesis)
  | case3 h l after bare inductionHypothesis =>
    refine (tokens_bare fun h' l' after' high low same first second => ?_).trans
      (congrArg (.stray :: ·) inductionHypothesis)
    rcases List.cons.inj same with ⟨rfl, others⟩
    rcases List.cons.inj others with ⟨rfl, -⟩
    exact bare high low first second
  | case4 cs short inductionHypothesis =>
    refine (tokens_bare fun h l after high low same first second => ?_).trans
      (congrArg (.stray :: ·) inductionHypothesis)
    -- The character that is no digit is one of the two behind the backslash.
    match cs, short with
    | [], _ =>
      rw [(List.cons.inj same).1, first] at nondigit
      exact absurd nondigit (by simp)
    | [d], _ =>
      rw [(List.cons.inj (List.cons.inj same).2).1, second] at nondigit
      exact absurd nondigit (by simp)
    | d :: e :: others, short => exact short d e others rfl
  | case5 d cs different inductionHypothesis =>
    rw [List.cons_append, tokens_of_ne different, inductionHypothesis, List.cons_append]

theorem tokens_of_unmarked {c : Char} (unmarked : c ∉ marks) (rest : List Char) :
    tokens (c :: rest) = .plain c :: tokens rest := by
  have different : c ≠ '\\' := by
    rintro rfl
    exact unmarked (by decide)
  rw [tokens_of_ne different, Token.ofChar_of_unmarked unmarked]

/-- A run of characters that mean nothing reads as these. -/
theorem tokens_plain {cs : List Char} (unmarked : ∀ c ∈ cs, c ∉ marks) (rest : List Char) :
    tokens (cs ++ rest) = cs.map .plain ++ tokens rest := by
  induction cs with
  | nil => rfl
  | cons c others inductionHypothesis =>
    rw [List.cons_append, tokens_of_unmarked (unmarked c List.mem_cons_self),
      inductionHypothesis fun d member => unmarked d (List.mem_cons_of_mem c member)]
    rfl

/-- An account reads as its characters, whatever follows it. -/
theorem tokens_escape_append (account rest : List Char) :
    tokens (account.flatMap escapeChar ++ rest) = account.map .ofAccount ++ tokens rest := by
  induction account with
  | nil => rfl
  | cons c others inductionHypothesis =>
    rw [List.flatMap_cons, List.append_assoc, List.map_cons, List.cons_append, ← inductionHypothesis,
      Token.ofAccount]
    split
    · rename_i mark
      rcases exists_digits_of_mark mark with ⟨h, l, high, low, written, first, second, value⟩
      rw [written, value]
      exact tokens_digits first second _
    · rename_i unmarked
      rw [escapeChar_of_unmarked unmarked]
      exact tokens_of_unmarked unmarked _

/-- Its octets are those of the account, in one piece. -/
theorem pieces?_map_ofAccount (account : List Char) :
    pieces? (account.map .ofAccount) = some [account.flatMap String.utf8EncodeChar] := by
  induction account with
  | nil => rfl
  | cons c others inductionHypothesis =>
    have octets : (Token.ofAccount c).octets? = some (String.utf8EncodeChar c) := by
      rw [Token.ofAccount]
      split
      · rename_i mark
        have ascii : marks.all (·.toNat < 0x80) = true := by decide
        rw [Text.utf8EncodeChar_ascii (of_decide_eq_true (List.all_eq_true.mp ascii c mark))]
        rfl
      · rfl
    have unstarred : Token.ofAccount c ≠ .star := by
      intro star
      rw [star] at octets
      exact absurd octets (by simp [Token.octets?])
    rw [List.map_cons, pieces?, if_neg unstarred, octets, inductionHypothesis, List.flatMap_cons]

/-- What is escaped means nothing to a filter, but for the backslashes of the escapes. -/
theorem not_mem_escape {account : String} {c : Char} (mark : c ∈ ['(', ')', '*', '\x00']) :
    c ∉ (escape account).toList := by
  have nondigits : ['(', ')', '*', '\x00'].all
      (fun d => d ∈ marks ∧ d ≠ '\\' ∧ Text.hexDigit? d = none) = true := by decide
  rcases of_decide_eq_true (List.all_eq_true.mp nondigits c mark) with ⟨marked, different, none⟩
  rw [escape, String.toList_ofList]
  intro member
  rcases List.mem_flatMap.mp member with ⟨d, -, written⟩
  by_cases escaped : d ∈ marks
  · rcases exists_digits_of_mark escaped with ⟨h, l, high, low, shape, first, second, -⟩
    rw [shape] at written
    simp only [List.mem_cons, List.not_mem_nil, or_false] at written
    rcases written with backslash | rfl | rfl
    · exact different backslash
    · exact absurd (none.symm.trans first) (by simp)
    · exact absurd (none.symm.trans second) (by simp)
  · rw [escapeChar_of_unmarked escaped, List.mem_singleton] at written
    exact escaped (written ▸ marked)

/-- A backslash that is written for a character comes before two digits. -/
private theorem digits_of_escapeChar {c : Char} {before after : List Char}
    (written : escapeChar c = before ++ '\\' :: after) :
    ∃ h l, after = [h, l] ∧ (Text.hexDigit? h).isSome = true ∧ (Text.hexDigit? l).isSome = true := by
  have backslash : '\\' ∈ escapeChar c := by
    rw [written]
    exact List.mem_append_right before List.mem_cons_self
  by_cases mark : c ∈ marks
  · rcases exists_digits_of_mark mark with ⟨h, l, high, low, shape, first, second, -⟩
    rw [shape] at written
    cases before with
    | nil =>
      exact ⟨h, l, (List.cons.inj written).2.symm, Option.isSome_of_eq_some first,
        Option.isSome_of_eq_some second⟩
    | cons d before =>
      have digit : '\\' ∈ [h, l] := by
        rw [(List.cons.inj written).2]
        exact List.mem_append_right before List.mem_cons_self
      have nondigit : Text.hexDigit? '\\' = none := by decide
      simp only [List.mem_cons, List.not_mem_nil, or_false] at digit
      rcases digit with rfl | rfl
      · exact absurd (nondigit.symm.trans first) (by simp)
      · exact absurd (nondigit.symm.trans second) (by simp)
  · rw [escapeChar_of_unmarked mark, List.mem_singleton] at backslash
    exact absurd (by decide) (backslash ▸ mark)

/-- Every backslash of what is escaped comes before two digits. -/
theorem digits_of_escape {account before after : List Char}
    (found : account.flatMap escapeChar = before ++ '\\' :: after) :
    ∃ h l rest, after = h :: l :: rest ∧ (Text.hexDigit? h).isSome = true ∧
      (Text.hexDigit? l).isSome = true := by
  induction account generalizing before with
  | nil => exact absurd found (by simp)
  | cons c others inductionHypothesis =>
    rw [List.flatMap_cons] at found
    rcases List.append_eq_append_iff.mp found with ⟨gap, -, later⟩ | ⟨gap, written, rest⟩
    · exact inductionHypothesis later
    · cases gap with
      | nil =>
        have start : others.flatMap escapeChar = [] ++ '\\' :: after := rest.symm
        exact inductionHypothesis start
      | cons unit gap =>
        rcases List.cons.inj rest with ⟨rfl, rfl⟩
        rcases digits_of_escapeChar written with ⟨h, l, rfl, digits⟩
        exact ⟨h, l, others.flatMap escapeChar, rfl, digits⟩

theorem tokens_escape (account : String) :
    tokens (escape account).toList = account.toList.map .ofAccount := by
  have alone := tokens_escape_append account.toList []
  rw [List.append_nil] at alone
  rw [escape, String.toList_ofList, alone]
  exact List.append_nil _

/-- What is escaped is one value, with the octets of the text that it was. -/
theorem value?_escape (account : String) : value? (escape account) = some (Text.encode account) := by
  rw [value?, tokens_escape, pieces?_map_ofAccount, ← Text.encode_eq_flatMap]

theorem unescape?_escape (account : String) : unescape? (escape account) = some account := by
  rw [unescape?, value?_escape]
  exact Text.decode?_encode account

example : unescape? "\\28ops\\29\\2A" = some "(ops)*" := by
  decide +kernel

example : value? "ops*" = none := by
  decide +kernel

theorem escape_injective {account other : String} (same : escape account = escape other) :
    account = other := by
  have read := congrArg unescape? same
  rw [unescape?_escape, unescape?_escape] at read
  exact Option.some.inj read

end Directory

end AuthGateway
