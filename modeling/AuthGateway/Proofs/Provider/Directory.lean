import AuthGateway.Provider.Directory
import AuthGateway.Proofs.Provider.Answer

namespace AuthGateway

/-!
# What a login in a directory proves

A login passes four gates: the password must not be empty, the search must find an entry, the service
must accept the password for this entry, and the entry must be enabled.  Only behind the third one does
anybody learn whether the entry is disabled.
-/

namespace Directory.Source

/-- The service accepts the password for the first entry that it finds for the account. -/
structure Proves (s : Source) (account password : String) (entry : Entry) : Prop where
  password_ne : password ≠ ""
  found : ∃ more, s.service.search (s.filterFor account) = .ok (entry :: more)
  bound : s.service.bind entry.dn password = .ok ()

/-- An error in which the password has not been proved: the account is not found, the password is
empty, or the service itself says so. -/
inductive Unproved (s : Source) : AuthError → Prop where
  | empty : Unproved s .invalidPassword
  | missing : Unproved s .noSuchUser
  | search {filter : String} {e : AuthError} (failed : s.service.search filter = .error e) :
    Unproved s e
  | bind {dn password : String} {e : AuthError} (failed : s.service.bind dn password = .error e) :
    Unproved s e

variable (s : Source) (account password : String)

theorem find_eq : s.find account = .after (.search (s.filterFor account))
    (.plain (match s.service.search (s.filterFor account) with
      | .error e => .refused e
      | .ok [] => .refused .noSuchUser
      | .ok (entry :: _) => .value entry)) := by
  unfold find search
  cases s.service.search (s.filterFor account) with
  | error e => rfl
  | ok entries =>
    cases entries with
    | nil => rfl
    | cons entry more => rfl

theorem ending_vouch (entry : Entry) : (s.vouch account entry).ending =
    if entry.isDisabled then .refused .accountDisabled else .value (s.identity account entry) := by
  unfold vouch
  split
  · rfl
  · rfl

variable {s account password} {entry : Entry}

/-- Where an entry is found the service decides. -/
theorem ending_login_of_found (password_ne : password ≠ "") {more : List Entry}
    (found : s.service.search (s.filterFor account) = .ok (entry :: more)) :
    (s.login account password).ending = match s.service.bind entry.dn password with
      | .error e => .refused e
      | .ok () => (s.vouch account entry).ending := by
  rw [login, if_neg password_ne, find_eq, found]
  change ((s.bind entry.dn password).bind fun () => s.vouch account entry).ending = _
  unfold bind
  cases s.service.bind entry.dn password with
  | error e => rfl
  | ok _ => rfl

/-- Behind the first three gates only the flag of the entry matters. -/
theorem ending_login_of_proves (proves : s.Proves account password entry) :
    (s.login account password).ending = (s.vouch account entry).ending := by
  rcases proves.found with ⟨more, found⟩
  rw [ending_login_of_found proves.password_ne found, proves.bound]

variable (s account password) in
/-- A login either proves the password or ends in an error that says nothing about the flag. -/
theorem login_outcome :
    (∃ entry, s.Proves account password entry) ∨
      ∃ e, s.Unproved e ∧ (s.login account password).ending = .refused e := by
  by_cases empty : password = ""
  · refine Or.inr ⟨_, .empty, ?_⟩
    rw [login, if_pos empty]
    rfl
  · cases found : s.service.search (s.filterFor account) with
    | error e =>
      refine Or.inr ⟨e, .search found, ?_⟩
      rw [login, if_neg empty, find_eq, found]
      rfl
    | ok entries =>
      cases entries with
      | nil =>
        refine Or.inr ⟨_, .missing, ?_⟩
        rw [login, if_neg empty, find_eq, found]
        rfl
      | cons entry more =>
        cases bound : s.service.bind entry.dn password with
        | error e =>
          refine Or.inr ⟨e, .bind bound, ?_⟩
          rw [ending_login_of_found empty found, bound]
        | ok _ => exact Or.inl ⟨entry, { password_ne := empty, found := ⟨more, found⟩, bound := bound }⟩

variable (s account password) in
/-- A login searches for the account, and binds as the first entry that is found. -/
theorem calls_login (password_ne : password ≠ "") : (s.login account password).calls =
    .search (s.filterFor account) ::
      match s.service.search (s.filterFor account) with
      | .ok (entry :: _) => [.bind entry.dn password]
      | .ok [] | .error _ => [] := by
  rw [login, if_neg password_ne, find_eq]
  cases s.service.search (s.filterFor account) with
  | error e => rfl
  | ok entries =>
    cases entries with
    | nil => rfl
    | cons entry more =>
      change _ :: ((s.bind entry.dn password).bind fun () => s.vouch account entry).calls = _
      unfold bind vouch
      cases s.service.bind entry.dn password with
      | error e => rfl
      | ok _ =>
        split
        · rfl
        · rfl

variable (s account) in
/-- To find an account again, nobody binds. -/
theorem calls_get : (s.get account).calls = [.search (s.filterFor account)] := by
  rw [get, find_eq]
  cases s.service.search (s.filterFor account) with
  | error e => rfl
  | ok entries =>
    cases entries with
    | nil => rfl
    | cons entry more =>
      change _ :: (s.vouch account entry).calls = _
      unfold vouch
      split
      · rfl
      · rfl

/-- The user of a login is the one that the provider finds again. -/
theorem get_of_login {user : Identity} (opened : (s.login account password).ending = .value user) :
    (s.get account).ending = .value user ∧ ∃ entry, user = s.identity account entry := by
  rcases s.login_outcome account password with ⟨entry, proves⟩ | ⟨e, -, refused⟩
  · rw [ending_login_of_proves proves] at opened
    rcases proves.found with ⟨more, found⟩
    refine ⟨?_, entry, ?_⟩
    · rw [get, find_eq, found, ← opened]
      rfl
    · rw [ending_vouch] at opened
      split at opened
      · exact absurd opened (by simp)
      · exact (Ending.value.inj opened).symm
  · exact absurd (refused.symm.trans opened) (by simp)

/-- A login with an empty password does not reach the service. -/
theorem login_of_empty : s.login account "" = .refused .invalidPassword := by
  rw [login, if_pos rfl]

/-- The account of a user of the directory is never empty, unless the one that was asked for is. -/
theorem account_identity_ne (named : account ≠ "") : (s.identity account entry).account ≠ "" := by
  change (entry.first? s.settings.uid).getD account ≠ ""
  cases written : entry.first? s.settings.uid with
  | none => exact named
  | some value => simpa using (Option.filter_eq_some_iff.mp written).2

end Directory.Source

end AuthGateway
