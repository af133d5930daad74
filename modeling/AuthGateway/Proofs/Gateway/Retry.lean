import AuthGateway.Gateway.Login
import AuthGateway.Proofs.Net.Header
import AuthGateway.Proofs.Net.HeaderMap
import AuthGateway.Proofs.Text.Form
import AuthGateway.Proofs.Text.Split
import Mathlib.Data.List.TakeWhile

namespace AuthGateway

/-!
# The form after a failed login

A failed login leads back to the login page, and the address says what was typed and what went wrong.
The texts in it are written by one convention and read by another.  The writer escapes every byte but
those of letters, digits and four marks.  The reader splits at ampersands and equals signs, takes plus
signs for spaces, and then undoes the escapes.  What the writer keeps means nothing to the reader, nor
to the header or the target that carry the address, so all three texts come back as they were
(`Gateway.loginView_retry`).
-/

open Net (HeaderMap HeaderValue Uri)

namespace Net.Uri

/-- A path ends at the first question mark, and the rest is the query. -/
theorem pathAndQuery?_append {path query : List Char} (before : path.all isPathChar = true)
    (after : query.all isQueryChar = true) :
    pathAndQuery? (path ++ '?' :: query) = some (String.ofList path, some (String.ofList query)) := by
  have pathMarks : ∀ c ∈ path, c ≠ '#' ∧ c ≠ '?' := by
    intro c member
    have legal := List.all_eq_true.mp before c member
    constructor
    · rintro rfl
      exact absurd legal (by decide)
    · rintro rfl
      exact absurd legal (by decide)
  have queryMarks : ∀ c ∈ query, c ≠ '#' := by
    rintro c member rfl
    exact absurd (List.all_eq_true.mp after '#' member) (by decide)
  have shown : (path ++ '?' :: query).takeWhile (· ≠ '#') = path ++ '?' :: query := by
    rw [List.takeWhile_eq_self_iff]
    intro c member
    rw [decide_eq_true_eq]
    rcases List.mem_append.mp member with early | late
    · exact (pathMarks c early).1
    · rcases List.mem_cons.mp late with rfl | inside
      · decide
      · exact queryMarks c inside
  have front : (path ++ '?' :: query).takeWhile (· ≠ '?') = path := by
    rw [List.takeWhile_append_of_pos, List.takeWhile_cons_of_neg (by decide), List.append_nil]
    intro c member
    rw [decide_eq_true_eq]
    exact (pathMarks c member).2
  rw [pathAndQuery?, shown, front, if_neg (not_not_intro before), List.drop_left]
  dsimp only
  rw [if_pos after]

/-- A target that starts with a slash is a path. -/
theorem parse?_of_slash {s : String} {rest : List Char} (slash : s.toList = '/' :: rest) :
    parse? s = if maxLength < s.utf8ByteSize then none else
      (pathAndQuery? s.toList).map fun (path, query) =>
        { scheme := none, authority := none, path, query } := by
  rw [parse?, slash]
  rfl

end Net.Uri

namespace Gateway

/-- A field of the query. -/
private def retryField (name value : String) : String :=
  name ++ "=" ++ Text.Percent.encodeComponent value

/-- What stands behind the question mark of the address. -/
private def retryQuery (username userType message : String) : String :=
  retryField "username" username ++ "&" ++ retryField "user_type" userType ++ "&" ++
    retryField "error" message

section

variable (username userType message : String)

private theorem retryAddress_eq :
    retryAddress username userType message =
      loginPage ++ "?" ++ retryQuery username userType message := by
  have first : "?username=" = "?" ++ ("username" ++ "=") := by decide
  have second : "&user_type=" = "&" ++ ("user_type" ++ "=") := by decide
  have third : "&error=" = "&" ++ ("error" ++ "=") := by decide
  simp only [retryAddress, retryQuery, retryField, first, second, third, String.append_assoc]

private theorem toList_retryAddress :
    (retryAddress username userType message).toList =
      loginPage.toList ++ '?' :: (retryQuery username userType message).toList := by
  rw [retryAddress_eq, String.toList_append, String.toList_append, List.append_assoc]
  rfl

private theorem writes_retryQuery :
    Text.Form.Writes (Text.encode (retryQuery username userType message))
      [("username", username), ("user_type", userType), ("error", message)] :=
  Text.Form.writes_append
    (Text.Form.writes_append (Text.Form.writes_component (by decide) username)
      (Text.Form.writes_component (by decide) userType))
    (Text.Form.writes_component (by decide) message)

/-- The login page finds the three texts in the query. -/
private theorem parse_retryQuery :
    Page.LoginView.parse (Text.encode (retryQuery username userType message)) =
      .ok { error := message, username, userType } := by
  have pairs := Text.Form.decodePairs_of_writes (writes_retryQuery username userType message)
  have single : Text.Form.repeated? Page.LoginView.fieldNames
      [("username", username), ("user_type", userType), ("error", message)] = none :=
    Text.Form.repeated?_eq_none (by simp [Page.LoginView.fieldNames])
  rw [Page.LoginView.parse, pairs, single]
  rfl

/-- The character may stand in a query and in a header. -/
private def isPlain (c : Char) : Bool :=
  Uri.isQueryChar c && Net.isShown c

private theorem isPlain_of_mem_encodeComponent {s : String} {c : Char}
    (member : c ∈ (Text.Percent.encodeComponent s).toList) : isPlain c = true := by
  rcases Text.Percent.of_mem_encodeComponent member with ⟨ascii, written⟩
  have plain : ∀ n < 0x80,
      Text.Percent.component (Char.ofNat n) = false ∨ Char.ofNat n = '%' →
        isPlain (Char.ofNat n) = true := by decide
  rcases Text.exists_ofNat_of_lt ascii with ⟨n, below, rfl⟩
  exact plain n below written

private theorem all_retryField {name : String} (plain : name.toList.all isPlain = true) (value : String) :
    (retryField name value).toList.all isPlain = true := by
  rw [retryField, String.toList_append, String.toList_append, List.all_append, List.all_append, plain,
    Bool.true_and, Bool.and_eq_true]
  exact ⟨by decide, List.all_eq_true.mpr fun _ => isPlain_of_mem_encodeComponent⟩

private theorem all_retryQuery :
    (retryQuery username userType message).toList.all isPlain = true := by
  simp only [retryQuery, String.toList_append, List.all_append, Bool.and_eq_true]
  refine ⟨⟨⟨⟨?_, ?_⟩, ?_⟩, ?_⟩, ?_⟩
  · exact all_retryField (by decide) username
  · decide
  · exact all_retryField (by decide) userType
  · decide
  · exact all_retryField (by decide) message

private theorem plain_of_mem_retryQuery {c : Char}
    (member : c ∈ (retryQuery username userType message).toList) :
    Uri.isQueryChar c = true ∧ Net.isShown c = true :=
  Bool.and_eq_true_iff.mp (List.all_eq_true.mp (all_retryQuery username userType message) c member)

/-- The texts are found again by whoever asks for the address. -/
private theorem parse?_retryAddress :
    Uri.parse? (retryAddress username userType message) =
      if Uri.maxLength < (retryAddress username userType message).utf8ByteSize then none
      else some {
        scheme := none
        authority := none
        path := loginPage
        query := some (retryQuery username userType message) } := by
  have chars := toList_retryAddress username userType message
  have slash : (retryAddress username userType message).toList =
      '/' :: (loginPage.toList.tail ++ '?' :: (retryQuery username userType message).toList) := chars
  have query : (retryQuery username userType message).toList.all Uri.isQueryChar = true :=
    List.all_eq_true.mpr fun _ member => (plain_of_mem_retryQuery _ _ _ member).1
  rw [Uri.parse?_of_slash slash, chars, Uri.pathAndQuery?_append (by decide) query,
    String.ofList_toList, String.ofList_toList]
  rfl

/-- Nothing is left out of the address when it is put into a header, and it reads as it was written. -/
private theorem shown_retryAddress :
    ∀ c ∈ (retryAddress username userType message).toList, Net.isShown c = true := by
  intro c member
  rw [retryAddress_eq, String.toList_append, List.mem_append] at member
  rcases member with front | inQuery
  · have page : (loginPage ++ "?").toList.all Net.isShown = true := by decide
    exact List.all_eq_true.mp page c front
  · exact (plain_of_mem_retryQuery _ _ _ inQuery).2

private theorem cut?_retryAddress :
    Text.cut? '?' (retryAddress username userType message) =
      some (loginPage, retryQuery username userType message) :=
  Text.cut?_eq_some_iff.mpr ⟨by decide, toList_retryAddress username userType message⟩

/-- Whatever was typed and whatever went wrong, the address of a failed login is a legal header value.
The login page reads the three texts in the query of the address as they were, and shows them.  The
address is a target with that query unless it is too long for one. -/
theorem loginView_retry :
    let address := retryAddress username userType message
    let view : Page.LoginView := { error := message, username, userType }
    ∃ value query,
      HeaderValue.ofText? address = some value ∧ value.text? = some address ∧
      (retry username userType message).status = 303 ∧
      (retry username userType message).headers.getAll .location = [value] ∧
      Text.cut? '?' address = some (loginPage, query) ∧
      Uri.parse? address =
        (if Uri.maxLength < address.utf8ByteSize then none
        else some { scheme := none, authority := none, path := loginPage, query := some query }) ∧
      Page.LoginView.parse (Text.encode query) = .ok view ∧
      ∀ g : Gateway, g.loginView (some query) = .html 200 (Page.login g.config.authType view).render := by
  intro address view
  have shown := shown_retryAddress username userType message
  have parsed := parse_retryQuery username userType message
  rcases Option.isSome_iff_exists.mp (HeaderValue.isSome_ofText?_of_isShown shown) with ⟨value, made⟩
  have written : value = .ofVisible address := HeaderValue.eq_ofVisible_of_ofText? made
  refine ⟨value, retryQuery username userType message, made, ?_, rfl, ?_,
    cut?_retryAddress username userType message, parse?_retryAddress username userType message,
    parsed, ?_⟩
  · rw [written]
    exact HeaderValue.text?_ofVisible shown
  · rw [written]
    exact HeaderMap.getAll_insert_self _ _ _
  · intro g
    rw [loginView, Option.getD_some, parsed]

end

example : retryAddress "a&username=b" "100%+1" "é#\n" =
    "/secure-proxy/auth?username=a%26username%3Db&user_type=100%25%2B1&error=%C3%A9%23%0A" := by
  decide

end Gateway

end AuthGateway
