import AuthGateway.Proofs.Session.Header

namespace AuthGateway

/-!
# A cookie that is set can be brought back

The text that sets a session cookie is a legal header value just where the name of the cookie and its
domain are legal in one.  The pair in front of its first semicolon is the one that brings the session
back, if the name is a token (`SessionCookie.setHeader_eq_ok`) or at least findable
(`SessionCookie.tokenIn_of_setHeader`).
-/

open Net (HeaderMap HeaderValue)

namespace SessionCookie

variable {cookie : SessionCookie}

/-- A name that is a token is clean. -/
theorem cleanName_of_isTokenChar (token : cookie.name.toList.all Net.isTokenChar = true) :
    cookie.CleanName := by
  have marks : "!#$%&'*+-.^_`|~".toList.all Token.isPlain = true := by decide
  refine List.all_eq_true.mpr fun c member => ?_
  rcases Bool.or_eq_true_iff.mp (List.all_eq_true.mp token c member) with alphanumeric | mark
  · exact Token.isPlain_of_isAlphanum alphanumeric
  · exact List.all_eq_true.mp marks c (List.contains_iff_mem.mp mark)

/-- Everything behind the pair of a cookie that is set. -/
private def attributes (cookie : SessionCookie) (keep : Option Int) : String :=
  (match cookie.domain with
    | some domain => "; Domain=" ++ domain
    | none => "") ++
  (match keep with
    | some seconds => "; Max-Age=" ++ toString seconds
    | none => "") ++ "; HttpOnly"

private theorem cookieText_eq (value : String) (keep : Option Int) :
    cookie.cookieText value keep = cookie.pairText value ++ ("; Path=/" ++ cookie.attributes keep) := by
  have associate : ∀ pair path domain age ending : String,
      pair ++ path ++ domain ++ age ++ ending = pair ++ (path ++ (domain ++ age ++ ending)) := by
    intro pair path domain age ending
    simp only [String.append_assoc]
  exact associate (cookie.pairText value) "; Path=/" _ _ "; HttpOnly"

/-- A name and a domain that can stand in a header value. -/
structure Settable (name : String) (domain : Option String) : Prop where
  name : (HeaderValue.ofText? name).isSome = true
  domain : ∀ text, domain = some text → (HeaderValue.ofText? text).isSome = true

private theorem isSome_ofText?_attributes_iff (keep : Option Int) :
    (HeaderValue.ofText? (cookie.attributes keep)).isSome = true ↔
      ∀ text, cookie.domain = some text → (HeaderValue.ofText? text).isSome = true := by
  have number : ∀ seconds : Int, (HeaderValue.ofText? (toString seconds)).isSome = true := by
    intro seconds
    refine HeaderValue.isSome_ofText?_of_isShown fun c member => ?_
    rcases Text.isDigit_of_mem_toString c member with digit | rfl
    · have range := Char.isDigit_iff_toNat.mp digit
      change 48 ≤ c.toNat ∧ c.toNat ≤ 57 at range
      simp only [Net.isShown, Bool.or_eq_true, Bool.and_eq_true, decide_eq_true_eq]
      omega
    · decide
  have age : (HeaderValue.ofText? (match keep with
      | some seconds => "; Max-Age=" ++ toString seconds
      | none => "")).isSome = true := by
    split
    · exact HeaderValue.isSome_ofText?_append_iff.mpr ⟨by decide, number _⟩
    · decide
  have ending : (HeaderValue.ofText? "; HttpOnly").isSome = true := by decide
  have front : (HeaderValue.ofText? "; Domain=").isSome = true := by decide
  have nothing : (HeaderValue.ofText? "").isSome = true := by decide
  unfold attributes
  rw [HeaderValue.isSome_ofText?_append_iff, HeaderValue.isSome_ofText?_append_iff,
    and_iff_left ending, and_iff_left age]
  cases cookie.domain with
  | none => simp [nothing]
  | some text => simp [HeaderValue.isSome_ofText?_append_iff, front]

/-- The attributes are legal as they are, but for the domain. -/
theorem isSome_ofText?_cookieText_iff {value : String}
    (legal : (HeaderValue.ofText? value).isSome = true) (keep : Option Int) :
    (HeaderValue.ofText? (cookie.cookieText value keep)).isSome = true ↔
      Settable cookie.name cookie.domain := by
  have path : (HeaderValue.ofText? "; Path=/").isSome = true := by decide
  have equals : (HeaderValue.ofText? "=").isSome = true := by decide
  rw [cookieText_eq, pairText, HeaderValue.isSome_ofText?_append_iff,
    HeaderValue.isSome_ofText?_append_iff, HeaderValue.isSome_ofText?_append_iff,
    HeaderValue.isSome_ofText?_append_iff, isSome_ofText?_attributes_iff, and_iff_left legal,
    and_iff_left equals, and_iff_right path]
  exact ⟨fun legal => ⟨legal.1, legal.2⟩, fun settable => ⟨settable.name, settable.domain⟩⟩

theorem headerFor_eq_ok_iff {value : String} {keep : Option Int} {header : HeaderValue} :
    cookie.headerFor value keep = .ok header ↔
      HeaderValue.ofText? (cookie.cookieText value keep) = some header := by
  rw [headerFor]
  split
  · rename_i made
    rw [made, Except.ok.injEq, Option.some.injEq]
  · rename_i illegal
    simp [illegal]

theorem exists_headerFor_iff {value : String} (legal : (HeaderValue.ofText? value).isSome = true)
    (keep : Option Int) :
    (∃ header, cookie.headerFor value keep = .ok header) ↔ Settable cookie.name cookie.domain := by
  rw [← isSome_ofText?_cookieText_iff legal keep, Option.isSome_iff_exists]
  exact exists_congr fun _ => headerFor_eq_ok_iff

/-- The text of a token is never what keeps a cookie from being set. -/
theorem exists_setHeader_iff (token : Token) :
    (∃ header, cookie.setHeader token.text = .ok header) ↔ Settable cookie.name cookie.domain := by
  refine exists_headerFor_iff (HeaderValue.isSome_ofText?_of_isShown fun c member => ?_) _
  exact (Token.isPlain_iff.mp (token.isPlain_of_mem_text c member)).1

theorem exists_clearHeader_iff :
    (∃ header, cookie.clearHeader = .ok header) ↔ Settable cookie.name cookie.domain :=
  exists_headerFor_iff (by decide) _

/-- What stands before the first semicolon of a cookie is its pair, if its name is findable. -/
theorem takeWhile_of_setHeader (findable : Findable cookie.name) {value : String}
    (written : CleanValue value) {header : HeaderValue} (set : cookie.setHeader value = .ok header) :
    header.bytes.takeWhile (· ≠ 0x3B) = Text.encode (cookie.pairText value) := by
  have ascii := ascii_of_mem_pairText findable written
  have kept : ∀ b ∈ Text.encode (cookie.pairText value), decide (b ≠ 0x3B) = true := by
    intro b member
    refine decide_eq_true ?_
    rintro rfl
    have inside : Char.ofNat (0x3B : UInt8).toNat ∈ (cookie.pairText value).toList :=
      Text.mem_toList_of_mem_encode ascii member
    exact semicolon_not_mem_pairText findable written inside
  have semicolon : Text.encode "; Path=/" = 0x3B :: Text.encode " Path=/" := by decide
  rw [HeaderValue.ofText?_eq_some_iff.mp (headerFor_eq_ok_iff.mp set), cookieText_eq,
    Text.encode_append, Text.encode_append, List.takeWhile_append_of_pos kept, semicolon,
    List.cons_append, List.takeWhile_cons_of_neg (by decide), List.append_nil]

/-- That pair is read as its value. -/
theorem tokenIn_of_setHeader (findable : Findable cookie.name) {value : String}
    (written : CleanValue value) {header pair : HeaderValue} (set : cookie.setHeader value = .ok header)
    (cut : pair.bytes = header.bytes.takeWhile (· ≠ 0x3B)) {headers : HeaderMap}
    (only : headers.getAll .cookie = [pair]) : cookie.tokenIn headers = some value := by
  have made : HeaderValue.ofText? (cookie.pairText value) = some pair :=
    HeaderValue.ofText?_eq_some_iff.mpr (cut.trans (takeWhile_of_setHeader findable written set))
  rw [HeaderValue.eq_ofVisible_of_ofText? made] at only
  exact tokenIn_of_alone findable written only

/-- A cookie can be set, and what stands before the first semicolon is its pair. -/
theorem setHeader_eq_ok (clean : cookie.CleanName)
    (domain : ∀ text, cookie.domain = some text → (HeaderValue.ofText? text).isSome = true)
    (token : Token) : ∃ header, cookie.setHeader token.text = .ok header ∧
      header.bytes.takeWhile (· ≠ 0x3B) = Text.encode (cookie.pairText token.text) := by
  have findable := findable_of_cleanName clean
  have settable : Settable cookie.name cookie.domain :=
    { name := HeaderValue.isSome_ofText?_of_isShown (List.all_eq_true.mp findable.shown)
      domain := domain }
  rcases (exists_setHeader_iff token).mpr settable with ⟨header, set⟩
  exact ⟨header, set, takeWhile_of_setHeader findable (cleanValue_text token) set⟩

end SessionCookie

end AuthGateway
