import AuthGateway.Net.Uri
import AuthGateway.Net.Header
import AuthGateway.Proofs.Text.Utf8

namespace AuthGateway

namespace Net

/-!
# Texts of requests that fit into a header

What a header value reads as, and the authority of a target, consist of visible ASCII and tabs.
Every such text is a legal header value again.
-/

/-- A tab or visible ASCII. -/
def isShown (c : Char) : Bool :=
  c.toNat = 0x09 || 0x20 ≤ c.toNat && c.toNat < 0x7F

/-- The bytes that read as text are those of shown characters. -/
theorem isShown_ofNat_byte (b : UInt8) : isShown (Char.ofNat b.toNat) = isVisibleByte b := by
  rw [Bool.eq_iff_iff]
  simp only [isShown, isVisibleByte, Text.toNat_ofNat_byte, Bool.or_eq_true, Bool.and_eq_true,
    beq_iff_eq, decide_eq_true_eq, UInt8.le_iff_toNat_le, UInt8.lt_iff_toNat_lt, ← UInt8.toNat_inj]
  exact Iff.rfl

theorem ascii_of_isShown {c : Char} (shown : isShown c = true) : c.toNat < 0x7F := by
  simp only [isShown, Bool.or_eq_true, Bool.and_eq_true, decide_eq_true_eq] at shown
  omega

/-- A character that a field value may hold: a tab, or anything but an ASCII control. -/
def isFieldChar (c : Char) : Bool :=
  c.toNat = 0x09 || 0x20 ≤ c.toNat && c.toNat ≠ 0x7F

/-- The bytes of a character are legal just where the character is. -/
theorem all_isFieldByte_utf8EncodeChar (c : Char) :
    (String.utf8EncodeChar c).all isFieldByte = isFieldChar c := by
  by_cases ascii : c.toNat < 0x80
  · have spelled : ∀ n < 0x80, [UInt8.ofNat n].all isFieldByte =
        (decide (n = 0x09) || decide (0x20 ≤ n) && decide (n ≠ 0x7F)) := by decide
    rw [Text.utf8EncodeChar_ascii ascii, spelled c.toNat ascii, isFieldChar]
  · have high : 0x80 ≤ c.toNat := Nat.le_of_not_lt ascii
    have legal : (String.utf8EncodeChar c).all isFieldByte = true := by
      refine List.all_eq_true.mpr fun b member => ?_
      have large := Text.high_of_mem_utf8EncodeChar high member
      simp only [isFieldByte, Bool.or_eq_true, Bool.and_eq_true, beq_iff_eq, bne_iff_ne,
        decide_eq_true_eq, UInt8.le_iff_toNat_le, ne_eq, ← UInt8.toNat_inj]
      change b.toNat = 9 ∨ 32 ≤ b.toNat ∧ ¬ b.toNat = 127
      omega
    rw [legal, isFieldChar, eq_comm, Bool.or_eq_true, Bool.and_eq_true, decide_eq_true_eq,
      decide_eq_true_eq, decide_eq_true_eq]
    omega

/-- A text that names a field in some case: a token that is not too long. -/
structure HeaderName.Spelled (s : String) : Prop where
  nonempty : s ≠ ""
  token : ∀ c ∈ s.toList, isTokenChar c = true
  short : s.toList.length ≤ HeaderName.maxLength

/-- The case of a letter does not matter to a token, and small letters are no capitals. -/
theorem isTokenChar_toLower (c : Char) :
    (isTokenChar c.toLower && !c.toLower.isUpper) = isTokenChar c := by
  have spelled : ∀ n < 128, (isTokenChar (Char.ofNat n).toLower && !(Char.ofNat n).toLower.isUpper) =
      isTokenChar (Char.ofNat n) := by decide +kernel
  by_cases capital : c.isUpper = true
  · have range : 65 ≤ c.toNat ∧ c.toNat ≤ 90 := of_decide_eq_true capital
    have ascii : c.toNat < 128 := by omega
    rcases Text.exists_ofNat_of_lt ascii with ⟨n, small, rfl⟩
    exact spelled n small
  · have small : c.toLower = c := by
      unfold Char.toLower
      exact dif_neg fun range => capital (decide_eq_true range)
    rw [small, Bool.eq_false_iff.mpr capital, Bool.not_false, Bool.and_true]

namespace HeaderName

private theorem length_lowerAscii (s : String) : (Text.lowerAscii s).toList.length = s.toList.length := by
  rw [Text.lowerAscii, String.toList_ofList, List.length_map]

private theorem legal_lowerAscii_iff {s : String} :
    (Text.lowerAscii s ≠ "" ∧
      ((Text.lowerAscii s).toList.all fun c => isTokenChar c && !c.isUpper) = true) ↔
      s ≠ "" ∧ ∀ c ∈ s.toList, isTokenChar c = true := by
  have chars : (Text.lowerAscii s).toList = s.toList.map Char.toLower := String.toList_ofList
  have letters : ((Text.lowerAscii s).toList.all fun c => isTokenChar c && !c.isUpper) =
      s.toList.all isTokenChar := by
    rw [chars, List.all_map]
    exact List.all_congr rfl isTokenChar_toLower
  have empty : Text.lowerAscii s = "" ↔ s = "" := by
    rw [← String.toList_inj, ← String.toList_inj, chars]
    exact List.map_eq_nil_iff
  rw [letters, List.all_eq_true, ne_eq, empty]

/-- A text is read as a name just where it spells one, and then as its small letters. -/
theorem parse?_eq_some_iff {s : String} {name : HeaderName} :
    parse? s = some name ↔ Spelled s ∧ name.text = Text.lowerAscii s := by
  unfold parse?
  dsimp only
  constructor
  · intro read
    split at read
    · rename_i legal
      split at read
      · rename_i short
        have token := legal_lowerAscii_iff.mp legal
        exact ⟨⟨token.1, token.2, length_lowerAscii s ▸ short⟩, by rw [← Option.some.inj read]⟩
      · exact absurd read (by simp)
    · exact absurd read (by simp)
  · rintro ⟨spelled, same⟩
    rw [dif_pos (legal_lowerAscii_iff.mpr ⟨spelled.nonempty, spelled.token⟩),
      if_pos ((length_lowerAscii s).symm ▸ spelled.short)]
    cases name with
    | mk text proper =>
      subst same
      rfl

theorem exists_parse?_iff {s : String} : (∃ name, parse? s = some name) ↔ Spelled s := by
  constructor
  · rintro ⟨name, read⟩
    exact (parse?_eq_some_iff.mp read).1
  · intro spelled
    have legal := legal_lowerAscii_iff.mpr ⟨spelled.nonempty, spelled.token⟩
    exact ⟨⟨Text.lowerAscii s, by simpa using legal⟩, parse?_eq_some_iff.mpr ⟨spelled, rfl⟩⟩

theorem parse?_eq_none_iff {s : String} : parse? s = none ↔ ¬ Spelled s := by
  rw [← exists_parse?_iff, Option.eq_none_iff_forall_ne_some, not_exists]

end HeaderName

namespace HeaderValue

theorem isSome_ofText?_iff {s : String} :
    (ofText? s).isSome = true ↔ ∀ c ∈ s.toList, isFieldChar c = true := by
  have legal : (Text.encode s).all isFieldByte = s.toList.all isFieldChar := by
    rw [Text.encode_eq_flatMap, List.all_flatMap]
    exact List.all_congr rfl fun c => all_isFieldByte_utf8EncodeChar c
  rw [← List.all_eq_true, ← legal, ofText?, ofBytes?]
  split
  · rename_i whole
    exact iff_of_true rfl whole
  · rename_i broken
    exact iff_of_false (by simp) broken

/-- A text is a legal value as its bytes. -/
theorem ofText?_eq_some_iff {s : String} {v : HeaderValue} :
    ofText? s = some v ↔ v.bytes = Text.encode s := by
  rw [ofText?, ofBytes?]
  constructor
  · intro made
    split at made
    · rw [← Option.some.inj made]
    · exact absurd made (by simp)
  · intro same
    cases v with
    | mk bytes legal =>
      subst same
      rw [dif_pos legal]

theorem ofText?_eq_none_iff {s : String} :
    ofText? s = none ↔ ∃ b ∈ Text.encode s, isFieldByte b = false := by
  rw [ofText?, ofBytes?]
  split
  · rename_i legal
    refine iff_of_false (by simp) ?_
    rintro ⟨b, member, illegal⟩
    rw [List.all_eq_true.mp legal b member] at illegal
    exact absurd illegal (by decide)
  · rename_i illegal
    refine iff_of_true rfl ?_
    rcases List.all_eq_false.mp (Bool.eq_false_iff.mpr illegal) with ⟨b, member, control⟩
    exact ⟨b, member, Bool.eq_false_iff.mpr control⟩

/-- A text behind another is legal just where both are. -/
theorem isSome_ofText?_append_iff {s t : String} :
    (ofText? (s ++ t)).isSome = true ↔ (ofText? s).isSome = true ∧ (ofText? t).isSome = true := by
  have legal : ∀ text : String, (ofText? text).isSome = (Text.encode text).all isFieldByte := by
    intro text
    rw [ofText?, ofBytes?]
    split
    · rename_i whole
      rw [whole]
      rfl
    · rename_i broken
      rw [Bool.eq_false_iff.mpr broken]
      rfl
  rw [legal, legal, legal, Text.encode_append, List.all_append, Bool.and_eq_true]

private theorem toNat_ofNat_of_isShown {c : Char} (shown : isShown c = true) :
    (UInt8.ofNat c.toNat).toNat = c.toNat :=
  UInt8.toNat_ofNat_of_lt' (Nat.lt_trans (ascii_of_isShown shown) (by decide))

/-- The byte of a shown character is legal, reads as text, and reads as the character. -/
private theorem byte_of_isShown {c : Char} (shown : isShown c = true) :
    isFieldByte (UInt8.ofNat c.toNat) = true ∧ isVisibleByte (UInt8.ofNat c.toNat) = true ∧
      Char.ofNat (UInt8.ofNat c.toNat).toNat = c := by
  have number := toNat_ofNat_of_isShown shown
  have code := shown
  simp only [isShown, Bool.or_eq_true, Bool.and_eq_true, decide_eq_true_eq] at code
  simp only [isFieldByte, isVisibleByte, Bool.or_eq_true, Bool.and_eq_true, beq_iff_eq, bne_iff_ne,
    decide_eq_true_eq, UInt8.le_iff_toNat_le, UInt8.lt_iff_toNat_lt, ← UInt8.toNat_inj, number, ne_eq,
    Char.ofNat_toNat, and_true]
  change (c.toNat = 9 ∨ 32 ≤ c.toNat ∧ ¬ c.toNat = 127) ∧ (c.toNat = 9 ∨ 32 ≤ c.toNat ∧ c.toNat < 127)
  omega

private theorem encode_of_isShown {s : String} (shown : ∀ c ∈ s.toList, isShown c = true) :
    Text.encode s = s.toList.map fun c => UInt8.ofNat c.toNat :=
  Text.encode_ascii fun c member => Nat.lt_trans (ascii_of_isShown (shown c member)) (by decide)

/-- A text of shown characters is a legal value. -/
theorem isSome_ofText?_of_isShown {s : String} (shown : ∀ c ∈ s.toList, isShown c = true) :
    (ofText? s).isSome = true := by
  have legal : (Text.encode s).all isFieldByte = true := by
    rw [List.all_eq_true, encode_of_isShown shown]
    intro b member
    rcases List.mem_map.mp member with ⟨c, listed, rfl⟩
    exact (byte_of_isShown (shown c listed)).1
  rw [ofText?, ofBytes?, dif_pos legal]
  rfl

/-- A value of shown characters reads as their text. -/
theorem text?_ofVisible {s : String} (shown : ∀ c ∈ s.toList, isShown c = true) :
    (ofVisible s).text? = some s := by
  have bytes : (ofVisible s).bytes = s.toList.map fun c => UInt8.ofNat c.toNat := by
    change (Text.encode s).filter isFieldByte = _
    rw [encode_of_isShown shown, List.filter_eq_self]
    intro b member
    rcases List.mem_map.mp member with ⟨c, listed, rfl⟩
    exact (byte_of_isShown (shown c listed)).1
  have visible : (ofVisible s).bytes.all isVisibleByte = true := by
    rw [List.all_eq_true, bytes]
    intro b member
    rcases List.mem_map.mp member with ⟨c, listed, rfl⟩
    exact (byte_of_isShown (shown c listed)).2.1
  have chars : (s.toList.map fun c => UInt8.ofNat c.toNat).map (fun b => Char.ofNat b.toNat) =
      s.toList := by
    rw [List.map_map]
    exact (List.map_congr_left fun c member => (byte_of_isShown (shown c member)).2.2).trans
      (List.map_id s.toList)
  rw [text?, if_pos visible, bytes, Text.latin1, chars, String.ofList_toList]

/-- Nothing is left out of a text that is legal as a whole. -/
theorem eq_ofVisible_of_ofText? {s : String} {v : HeaderValue} (made : ofText? s = some v) :
    v = ofVisible s := by
  have bytes := ofText?_eq_some_iff.mp made
  have kept : (ofVisible s).bytes = Text.encode s := by
    change (Text.encode s).filter isFieldByte = _
    rw [← bytes, List.filter_eq_self]
    exact List.all_eq_true.mp v.legal
  exact Option.some.inj (made.symm.trans (ofText?_eq_some_iff.mpr kept))

/-- A value reads as shown characters if it reads as text. -/
theorem isShown_of_text? {v : HeaderValue} {s : String} (read : v.text? = some s) :
    ∀ c ∈ s.toList, isShown c = true := by
  rw [text?] at read
  split at read
  · rename_i visible
    rw [← Option.some.inj read, Text.latin1, String.toList_ofList]
    intro c member
    rcases List.mem_map.mp member with ⟨b, listed, rfl⟩
    rw [isShown_ofNat_byte]
    exact List.all_eq_true.mp visible b listed
  · exact absurd read (by simp)

/-- The value is the text, which consists of shown characters. -/
structure Spells (v : HeaderValue) (s : String) : Prop where
  bytes : v.bytes = Text.encode s
  shown : ∀ c ∈ s.toList, isShown c = true

theorem text?_eq_some_iff {v : HeaderValue} {s : String} : v.text? = some s ↔ v.Spells s := by
  constructor
  · intro read
    refine { bytes := ?_, shown := isShown_of_text? read }
    rw [text?] at read
    split at read
    · rename_i visible
      have ascii : ∀ b ∈ v.bytes, b.toNat < 0x80 := by
        intro b member
        have shown := List.all_eq_true.mp visible b member
        rw [← isShown_ofNat_byte] at shown
        have small := ascii_of_isShown shown
        rw [Text.toNat_ofNat_byte] at small
        exact Nat.lt_succ_of_lt small
      rw [← Option.some.inj read, Text.encode_latin1 ascii]
    · exact absurd read (by simp)
  · intro spells
    rw [eq_ofVisible_of_ofText? (ofText?_eq_some_iff.mpr spells.bytes)]
    exact text?_ofVisible spells.shown

end HeaderValue

theorem HeaderMap.isShown_of_text? {m : HeaderMap} {name : HeaderName} {s : String}
    (read : m.text? name = some s) : ∀ c ∈ s.toList, isShown c = true := by
  rcases Option.bind_eq_some_iff.mp read with ⟨v, -, text⟩
  exact HeaderValue.isShown_of_text? text

namespace Uri

private theorem isShown_of_isAuthorityChar {c : Char} (plain : isAuthorityChar c = true) :
    isShown c = true := by
  rcases Bool.or_eq_true_iff.mp plain with alphanumeric | mark
  · have range := Text.range_of_isAlphanum alphanumeric
    simp only [isShown, Bool.or_eq_true, Bool.and_eq_true, decide_eq_true_eq]
    omega
  · have marks : "!$&'()*+,-.;=_~".toList.all isShown = true := by decide
    exact List.all_eq_true.mp marks c (List.contains_iff_mem.mp mark)

private theorem isShown_of_step? {s t : AuthorityScan} {c : Char} (step : s.step? c = some t) :
    isShown c = true := by
  by_cases mark : c ∈ [':', '[', ']', '@', '%']
  · have marks : [':', '[', ']', '@', '%'].all isShown = true := by decide
    exact List.all_eq_true.mp marks c mark
  · simp only [List.mem_cons, List.not_mem_nil, or_false, not_or] at mark
    rcases mark with ⟨colon, opening, closing, atSign, percent⟩
    simp only [AuthorityScan.step?, if_neg colon, if_neg opening, if_neg closing, if_neg atSign,
      if_neg percent] at step
    split at step
    · rename_i plain
      exact isShown_of_isAuthorityChar plain
    · exact absurd step (by simp)

private theorem isShown_of_foldlM {cs : List Char} : ∀ {s t : AuthorityScan},
    cs.foldlM AuthorityScan.step? s = some t → ∀ c ∈ cs, isShown c = true := by
  induction cs with
  | nil => exact fun _ c member => absurd member List.not_mem_nil
  | cons d rest inductionHypothesis =>
    intro s t scanned c member
    rw [List.foldlM_cons, Option.bind_eq_bind, Option.bind_eq_some_iff] at scanned
    rcases scanned with ⟨next, first, others⟩
    rcases List.mem_cons.mp member with rfl | later
    · exact isShown_of_step? first
    · exact inductionHypothesis others c later

theorem isShown_of_authority? {cs : List Char} {authority : String}
    (read : authority? cs = some authority) : ∀ c ∈ authority.toList, isShown c = true := by
  rw [authority?, Option.bind_eq_bind, Option.bind_eq_some_iff] at read
  rcases read with ⟨last, scanned, found⟩
  split at found
  · rw [← Option.some.inj found, String.toList_ofList]
    exact isShown_of_foldlM scanned
  · exact absurd found (by simp)

/-- The authority, if there is one, has been read as one. -/
def LegalAuthority (u : Uri) : Prop :=
  ∀ authority, u.authority = some authority → ∃ cs, authority? cs = some authority

/-- Every target that is read has a legal authority. -/
theorem legalAuthority_of_parse? {s : String} {u : Uri} (read : parse? s = some u) :
    u.LegalAuthority := by
  intro authority named
  unfold parse? at read
  split at read
  · exact absurd read (by simp)
  · split at read
    · exact absurd read (by simp)
    · rw [← Option.some.inj read] at named
      exact absurd named (by simp)
    · rcases Option.map_eq_some_iff.mp read with ⟨parts, -, rfl⟩
      exact absurd named (by simp)
    · split at read
      · split at read
        · exact absurd read (by simp)
        · rcases Option.bind_eq_some_iff.mp read with ⟨found, scanned, rest⟩
          rcases Option.bind_eq_some_iff.mp rest with ⟨parts, -, target⟩
          rw [← Option.some.inj target] at named
          exact ⟨_, (Option.some.inj named) ▸ scanned⟩
      · rcases Option.map_eq_some_iff.mp read with ⟨found, scanned, rfl⟩
        exact ⟨_, (Option.some.inj named) ▸ scanned⟩

end Uri

end Net

end AuthGateway
