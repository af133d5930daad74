import AuthGateway.Provider.Local
import AuthGateway.Proofs.Login.Password

namespace AuthGateway

/-!
# A listed user logs in

Whoever types the password that is stored for an enabled user is let in as that user, whether it is
stored as it is or in base64.  Nobody else is let in, or is told that the user is disabled.
-/

namespace LocalUser

/-- The password that is stored for a user in one of the two schemes that keep it readable. -/
inductive Stores (user : LocalUser) (password : String) : Prop where
  | plain (scheme : Password.Scheme.parse? user.algo = some .plain) (same : user.password = password)
  | base64 (scheme : Password.Scheme.parse? user.algo = some .base64)
      (same : Text.trim user.password =
        Text.Base64.encode Text.Base64.standard (Text.encode password))

variable {user : LocalUser} {users : List LocalUser} {password : String}

private theorem accepts_of_stores (stores : user.Stores password) :
    user.accepts .standard password = true := by
  cases stores with
  | plain scheme same =>
    simp only [accepts, PasswordCheck.standard, Password.verify, scheme, Password.Scheme.verify, same,
      Password.sameBytes_eq_true_iff, Option.getD_some]
  | base64 scheme same =>
    simp only [accepts, PasswordCheck.standard, Password.verify, scheme,
      Password.Scheme.verify_base64_iff.mpr same, Option.getD_some]

section

variable (check : PasswordCheck) (users : List LocalUser) (account password : String)

/-- A login either shows the password of the first user with the account, or ends in an error that
does not tell whether the user is disabled. -/
theorem login_outcome :
    (∃ user, users.find? (·.account = account) = some user ∧ user.accepts check password = true ∧
      login check users account password = user.vouch) ∨
    ∃ e, login check users account password = .error e ∧ e ≠ .accountDisabled := by
  unfold login find
  cases listed : users.find? (·.account = account) with
  | none => exact Or.inr ⟨_, rfl, by decide⟩
  | some user =>
    dsimp only
    cases accepted : user.accepts check password with
    | false => exact Or.inr ⟨_, rfl, by decide⟩
    | true => exact Or.inl ⟨user, rfl, accepted, rfl⟩

variable {check users account password}

/-- The user of a login is the one that is listed, and is found again. -/
theorem get_of_login {identity : Identity}
    (opened : login check users account password = .ok identity) :
    get users account = .ok identity ∧ identity.userType = userType ∧ identity.account = account := by
  rcases login_outcome check users account password with ⟨user, listed, -, vouched⟩ | ⟨e, refused, -⟩
  · rw [opened] at vouched
    have named : user.account = account := by simpa using List.find?_some listed
    unfold get find
    rw [listed]
    refine ⟨vouched.symm, ?_⟩
    unfold vouch at vouched
    split at vouched
    · exact absurd vouched (by simp)
    · rw [Except.ok.inj vouched]
      exact ⟨rfl, named⟩
  · exact absurd (opened.symm.trans refused) (by simp)

end

variable (first : users.find? (·.account = user.account) = some user) (enabled : user.disabled = false)

include first enabled

theorem login_of_stores (stores : user.Stores password) :
    login .standard users user.account password = .ok user.identity := by
  simp only [login, find, first, accepts_of_stores stores, vouch, enabled, if_true, Bool.false_eq_true,
    if_false]

theorem get_of_enabled : get users user.account = .ok user.identity := by
  simp only [get, find, first, vouch, enabled, Bool.false_eq_true, if_false]

end LocalUser

end AuthGateway
