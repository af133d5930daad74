import AuthGateway.Proofs.Gateway.Traffic
import AuthGateway.Proofs.Text.Blank
import AuthGateway.Proofs.Text.Split
import Mathlib.Logic.Function.Iterate

namespace AuthGateway

/-!
# The name that a login hands on

A login does all that it does under one name, which is the typed one without the blanks around it and
without the configured ending (`Gateway.handsOn_login`).  Both are taken off once, the blanks first.  If
a blank or the ending itself stands before the ending that is taken off, it is then at the end of the
name, and the form that is shown again means somebody else when it is sent (`Gateway.sent_again`).

To take something off makes a name shorter.  A form that is sent again and again therefore comes to mean
the same user at last (`Gateway.exists_settled`).
-/

open Net (Response)

namespace Gateway

/-- Before the ending that is taken off there is a blank, or the ending once more. -/
def Uncovers (ending typed : String) : Prop :=
  ending ≠ "" ∧ ∃ front, Text.trim typed = front ++ ending ∧
    ((∃ c, front.toList.getLast? = some c ∧ Text.isBlank c = true) ∨ ∃ before, front = before ++ ending)

section

variable {ending typed name : String}

/-! ## One name -/

theorem normalName_of_kept (kept : ending = "" ∨ ∀ front, Text.trim typed ≠ front ++ ending) :
    normalName ending typed = Text.trim typed := by
  unfold normalName
  dsimp only
  split
  · rfl
  · rename_i nonempty
    rw [Text.dropSuffix?_eq_none_iff.mpr (kept.resolve_left nonempty), Option.getD_none]

theorem normalName_of_ends {front : String} (nonempty : ending ≠ "")
    (ends : Text.trim typed = front ++ ending) : normalName ending typed = front := by
  rw [normalName, if_neg nonempty, Text.dropSuffix?_eq_some_iff.mpr ends, Option.getD_some]

/-- Either there is no ending to take off, or the name is what stands before it. -/
theorem normalName_cases (ending typed : String) :
    (ending = "" ∨ ∀ front, Text.trim typed ≠ front ++ ending) ∧
        normalName ending typed = Text.trim typed ∨
      ending ≠ "" ∧ Text.trim typed = normalName ending typed ++ ending := by
  by_cases kept : ending = "" ∨ ∀ front, Text.trim typed ≠ front ++ ending
  · exact Or.inl ⟨kept, normalName_of_kept kept⟩
  · rcases not_or.mp kept with ⟨nonempty, some⟩
    rcases not_forall_not.mp some with ⟨front, ends⟩
    rw [normalName_of_ends nonempty ends]
    exact Or.inr ⟨nonempty, ends⟩

private theorem length_lt_append (nonempty : ending ≠ "") (front : String) :
    front.length < (front ++ ending).length := by
  rw [String.length_append]
  have positive : 0 < ending.length := Nat.pos_of_ne_zero fun zero =>
    nonempty (String.length_eq_zero_iff.mp zero)
  omega

/-- A name that changes becomes shorter. -/
theorem length_normalName_lt (changes : normalName ending typed ≠ typed) :
    (normalName ending typed).length < typed.length := by
  rcases normalName_cases ending typed with ⟨-, trimmed⟩ | ⟨nonempty, ends⟩
  · rw [trimmed] at changes ⊢
    exact Text.length_trim_lt changes
  · calc (normalName ending typed).length
      _ < (normalName ending typed ++ ending).length := length_lt_append nonempty _
      _ = (Text.trim typed).length := congrArg String.length ends.symm
      _ ≤ typed.length := Text.length_trim_le typed

/-- A name stays as it is if it has no blanks around it and does not end in the ending. -/
theorem normalName_eq_self_iff :
    normalName ending name = name ↔
      Text.trim name = name ∧ (ending = "" ∨ ∀ front, name ≠ front ++ ending) := by
  constructor
  · intro stable
    rcases normalName_cases ending name with ⟨kept, trimmed⟩ | ⟨nonempty, ends⟩
    · have same : Text.trim name = name := trimmed.symm.trans stable
      exact ⟨same, same ▸ kept⟩
    · rw [stable] at ends
      have longer := length_lt_append nonempty name
      rw [← ends] at longer
      exact absurd (Text.length_trim_le name) (Nat.not_le.mpr longer)
  · rintro ⟨same, kept⟩
    exact (normalName_of_kept (same.symm ▸ kept)).trans same

/-- What is left of a text without blanks around it can have a blank at its end only. -/
private theorem trim_front_iff {front : String} (ends : Text.trim typed = front ++ ending) :
    Text.trim front = front ↔ ∀ c, front.toList.getLast? = some c → Text.isBlank c = false := by
  rw [Text.trim_eq_self_iff]
  refine and_iff_right fun c first => ?_
  refine (Text.trim_eq_self_iff.mp (Text.trim_trim typed)).1 c ?_
  rw [ends, String.toList_append, List.head?_append, first, Option.some_or]

/-- A name stays as it is when it is typed again, unless a blank or the ending has been uncovered. -/
theorem normalName_normalName_iff (ending typed : String) :
    normalName ending (normalName ending typed) = normalName ending typed ↔ ¬ Uncovers ending typed := by
  rw [normalName_eq_self_iff]
  rcases normalName_cases ending typed with ⟨kept, trimmed⟩ | ⟨nonempty, ends⟩
  · rw [trimmed]
    refine iff_of_true ⟨Text.trim_trim typed, kept⟩ ?_
    rintro ⟨nonempty, front, ends, -⟩
    exact kept.resolve_left nonempty front ends
  · rw [trim_front_iff ends, or_iff_right nonempty]
    constructor
    · rintro ⟨unblank, unending⟩ ⟨-, front, same, uncovered⟩
      rw [← normalName_of_ends nonempty same] at uncovered
      rcases uncovered with ⟨c, last, blank⟩ | ⟨before, again⟩
      · exact Bool.false_ne_true ((unblank c last).symm.trans blank)
      · exact unending before again
    · intro covered
      refine ⟨fun c last => ?_, fun before again => ?_⟩
      · exact Bool.eq_false_iff.mpr fun blank => covered ⟨nonempty, _, ends, Or.inl ⟨c, last, blank⟩⟩
      · exact covered ⟨nonempty, _, ends, Or.inr ⟨before, again⟩⟩

/-- Typed again and again, a name settles, after as many times as it has characters at most. -/
theorem exists_settled (ending typed : String) :
    ∃ n ≤ typed.length, normalName ending ((normalName ending)^[n] typed) = (normalName ending)^[n] typed := by
  induction h : typed.length using Nat.strongRecOn generalizing typed with
  | ind length inductionHypothesis =>
    by_cases stable : normalName ending typed = typed
    · exact ⟨0, Nat.zero_le _, stable⟩
    · have shorter : (normalName ending typed).length < length := h ▸ length_normalName_lt stable
      rcases inductionHypothesis _ shorter (normalName ending typed) rfl with ⟨n, few, settled⟩
      exact ⟨n + 1, by omega, by rwa [Function.iterate_succ_apply]⟩

end

/-! ## The login -/

/-- All that a login does, it does under this name: it looks at the counter of the name and raises it,
asks the provider about the account of the name, and answers with the session of the name or with the
form in which the name is shown again. -/
structure HandsOn (g : Gateway) (env : Surroundings) (cache : Cache) (form : LoginForm) (host : String)
    (userType name : String) : Prop where
  counter : (g.login env cache form host).cache = cache ∨
    ∃ wrong, (g.login env cache form host).cache =
      ((Throttle.guess userType name wrong).run env.conditions cache).2
  account : (g.login env cache form host).calls = [] ∨
    (g.login env cache form host).calls =
      (env.provider.login (providerAccount g.config.authType userType name) (Text.trim form.password)).calls
  answer : ∀ response, (g.login env cache form host).result = .ok response →
    (∃ message, response = retry name userType message) ∨
      ∃ user, g.openSession env (Session.ofIdentity user name host env.time) = .ok response

section

variable {g : Gateway} {env : Surroundings} {cache : Cache} {form : LoginForm} {host : String}

/-- An incomplete form is shown again. -/
private theorem result_of_no_attempt (env : Surroundings) (cache : Cache) (host : String)
    (incomplete : form.attempt? g.config = none) :
    ∃ message, (g.login env cache form host).result =
      .ok (retry (normalName g.config.users.ignoreAccountSuffix form.username) (Text.trim form.userType)
        message) := by
  unfold LoginForm.attempt? at incomplete
  unfold login
  dsimp only at incomplete ⊢
  split at incomplete
  · rename_i missing
    rw [if_pos missing]
    exact ⟨_, rfl⟩
  · rename_i complete
    rw [if_neg complete, Option.map_eq_none_iff.mp incomplete]
    exact ⟨_, rfl⟩

/-- A form that is stopped by the throttle is shown again. -/
private theorem result_of_refused {attempt : Attempt} (tried : form.attempt? g.config = some attempt)
    (refused : (checked env cache attempt).1 ≠ .ok ()) {response : Response}
    (answered : (g.login env cache form host).result = .ok response) :
    ∃ message, response = retry attempt.username attempt.userType message := by
  rcases parts_of_attempt? tried with ⟨complete, resolved, username, password⟩
  unfold checked at refused
  simp only [login, username, password, if_neg complete, resolved] at answered
  cases allowed : ((Throttle.check attempt.userType attempt.username).run env.conditions cache).1 with
  | ok _ => exact absurd allowed refused
  | error e =>
    rw [allowed] at answered
    cases e with
    | tooManyAttempts retryAfter => exact ⟨_, (Except.ok.inj answered).symm⟩
    | cache e => exact absurd answered (by simp)

/-- An attempt opens a session, or its form is shown again. -/
private theorem result_tryLogin {userType username password : String} {response : Response}
    (answered : (g.tryLogin env cache userType username password host).result = .ok response) :
    (∃ message, response = retry username userType message) ∨
      ∃ user, g.openSession env (Session.ofIdentity user username host env.time) = .ok response := by
  unfold tryLogin at answered
  dsimp only at answered
  split at answered
  · exact absurd answered (by simp)
  · exact Or.inl ⟨_, (Except.ok.inj answered).symm⟩
  · rename_i user _
    split at answered
    · rename_i opened
      exact Or.inr ⟨user, Except.ok.inj answered ▸ opened⟩
    · exact absurd answered (by simp)

variable (g env cache form host)

theorem handsOn_login :
    ∃ userType, g.HandsOn env cache form host userType
      (normalName g.config.users.ignoreAccountSuffix form.username) := by
  cases tried : form.attempt? g.config with
  | none =>
    rcases result_of_no_attempt env cache host tried with ⟨message, shown⟩
    exact ⟨_, {
      counter := Or.inl (login_of_no_attempt tried).2
      account := Or.inl (login_of_no_attempt tried).1
      answer := fun response answered => Or.inl ⟨message, Except.ok.inj (answered.symm.trans shown)⟩ }⟩
  | some attempt =>
    rcases parts_of_attempt? tried with ⟨-, -, username, password⟩
    rw [username]
    by_cases allowed : (checked env cache attempt).1 = .ok ()
    · have asked : g.login env cache form host = g.tryLogin env _ _ _ _ host :=
        login_of_allowed tried allowed
      refine ⟨attempt.userType, {
        counter := Or.inr ⟨_, cache_login tried host⟩
        account := Or.inr ?_
        answer := fun response answered => result_tryLogin (asked ▸ answered) }⟩
      rw [asked, password]
      exact (calls_tryLogin _ _ _).1
    · exact ⟨attempt.userType, {
        counter := Or.inr ⟨_, cache_login tried host⟩
        account := Or.inl (login_of_refused tried allowed host).1
        answer := fun response answered => Or.inl (result_of_refused tried allowed answered) }⟩

end

/-! ## The form that is shown again -/

/-- The form that shows the name of an attempt is sent again for the same kind of user, with a password. -/
structure Resends (c : Config) (attempt : Attempt) (again : LoginForm) : Prop where
  username : again.username = attempt.username
  userType : userTypeOf? c.authType (Text.trim again.userType) = some attempt.userType
  password : Text.trim again.password ≠ ""

section

variable {g : Gateway} {form again : LoginForm} {attempt : Attempt}

/-- Under another name the provider is asked about another account, and another counter is raised. -/
private theorem apart_of_username_ne {next : Attempt} (plain : Plain attempt.userType)
    (userType : next.userType = attempt.userType) (username : next.username ≠ attempt.username) :
    g.accountOf next ≠ g.accountOf attempt ∧
      Throttle.key next.userType next.username ≠ Throttle.key attempt.userType attempt.username := by
  constructor
  · intro same
    rw [accountOf, accountOf, providerAccount, providerAccount, userType] at same
    split at same
    · exact username ((String.append_right_inj _).mp same)
    · exact username same
  · intro same
    exact username (Throttle.key_injective (userType ▸ plain) plain same).2

/-- What the form tries when it is sent again. -/
private theorem attempt?_of_resends (resends : Resends g.config attempt again) :
    again.attempt? g.config =
      let username := normalName g.config.users.ignoreAccountSuffix attempt.username
      if username = "" then none
      else some { attempt with username, password := Text.trim again.password } := by
  unfold LoginForm.attempt?
  simp only [resends.username, resends.userType, resends.password, or_false, Option.map_some]

end

/-- A login does all that it does under the name that is handed on.  The name has no blanks around it, and
is handed on again when it is typed again, exactly if taking off the ending uncovers neither a blank nor
the ending once more.  Then the form that is shown again tries the same account and counts against the
same counter, and else it tries another account, against another counter, if it tries any.  Sent again
and again, it comes to hand on the same name at last. -/
theorem sent_again (g : Gateway) (form : LoginForm) :
    let ending := g.config.users.ignoreAccountSuffix
    let name := normalName ending form.username
    (∀ env cache host, ∃ userType, g.HandsOn env cache form host userType name) ∧
    ((Text.trim name = name ∧ normalName ending name = name) ↔ ¬ Uncovers ending form.username) ∧
    (∀ attempt again, form.attempt? g.config = some attempt → Resends g.config attempt again →
      (¬ Uncovers ending form.username →
        again.attempt? g.config = some { attempt with password := Text.trim again.password }) ∧
      (Uncovers ending form.username → ∀ next, again.attempt? g.config = some next →
        g.accountOf next ≠ g.accountOf attempt ∧
          Throttle.key next.userType next.username ≠ Throttle.key attempt.userType attempt.username)) ∧
    ∃ n ≤ form.username.length,
      normalName ending ((normalName ending)^[n] form.username) = (normalName ending)^[n] form.username := by
  intro ending name
  have stable := normalName_normalName_iff ending form.username
  refine ⟨fun env cache host => handsOn_login g env cache form host, ?_, ?_,
    exists_settled ending form.username⟩
  · rw [← stable]
    exact and_iff_right_of_imp fun same => (normalName_eq_self_iff.mp same).1
  · intro attempt again tried resends
    rcases parts_of_attempt? tried with ⟨complete, resolved, username, -⟩
    have sent := attempt?_of_resends resends
    dsimp only at sent
    rw [username] at stable
    constructor
    · intro covered
      rw [sent, stable.mpr covered, if_neg (not_or.mp complete).1]
    · intro uncovers next tries
      rw [sent] at tries
      split at tries
      · exact absurd tries (by simp)
      · rw [← Option.some.inj tries]
        exact apart_of_username_ne (plain_of_userTypeOf? resolved) rfl
          fun same => stable.mp same uncovers

theorem sent_again_alice :
    let c := homeGateway.config
    let tryAs (username : String) : Attempt := { userType := "local", username, password := "guess" }
    let typeAs (username : String) : LoginForm := { userType := "local", username, password := "guess" }
    (¬ Uncovers c.users.ignoreAccountSuffix " alice@home " ∧
      (typeAs " alice@home ").attempt? c = some (tryAs "alice") ∧
      (typeAs "alice").attempt? c = some (tryAs "alice")) ∧
    Uncovers c.users.ignoreAccountSuffix "alice @home" ∧
      (typeAs "alice @home").attempt? c = some (tryAs "alice ") ∧
      (typeAs "alice ").attempt? c = some (tryAs "alice") ∧
      homeGateway.accountOf (tryAs "alice") ≠ homeGateway.accountOf (tryAs "alice ") := by
  intro c tryAs typeAs
  have userType : userTypeOf? c.authType (Text.trim "local") = some "local" := by decide +kernel
  have trimmed : Text.trim "guess" = "guess" := by decide +kernel
  have resends (username : String) : Resends c (tryAs username) (typeAs username) :=
    { username := rfl, userType, password := trimmed ▸ (by decide) }
  rcases sent_again homeGateway (typeAs " alice@home ") with ⟨-, settled, further, -⟩
  rcases sent_again homeGateway (typeAs "alice @home") with ⟨-, settled', further', -⟩
  have tried : (typeAs " alice@home ").attempt? c = some (tryAs "alice") := by decide +kernel
  have tried' : (typeAs "alice @home").attempt? c = some (tryAs "alice ") := by decide +kernel
  have covered : ¬ Uncovers c.users.ignoreAccountSuffix " alice@home " := settled.mp (by decide +kernel)
  have uncovers : Uncovers c.users.ignoreAccountSuffix "alice @home" :=
    not_not.mp (mt settled'.mpr (by decide +kernel))
  have sent := (further _ _ tried (resends "alice")).1 covered
  rw [trimmed] at sent
  have sent' : (typeAs "alice ").attempt? c = some (tryAs "alice") := by decide +kernel
  have apart := ((further' _ _ tried' (resends "alice ")).2 uncovers _ sent').1
  exact ⟨⟨covered, tried, sent⟩, uncovers, tried', sent', apart⟩

/-- Taking off the ending leaves a blank in the first name and the ending in the second. -/
theorem uncovered_names :
    let name := normalName "@home" "alice @home"
    let other := normalName "@home" "alice@home@home"
    (name = "alice " ∧ Text.trim name ≠ name ∧ normalName "@home" name = "alice" ∧
      Throttle.key "local" name ≠ Throttle.key "local" (normalName "@home" name)) ∧
    (other = "alice@home" ∧ normalName "@home" other = "alice") ∧
    (homeGateway.login atHome State.start.cache
        { userType := "", username := "alice @home", password := "secret" } "").result =
      .ok (retry name "local" "invalid username or password") := by
  intro name other
  refine ⟨by decide +kernel, by decide +kernel, ?_⟩
  rfl

end Gateway

end AuthGateway
