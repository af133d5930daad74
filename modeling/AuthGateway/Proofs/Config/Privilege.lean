import AuthGateway.Proofs.Config.Checks

namespace AuthGateway

/-!
# Longer lists admit more users

A backend that is not open to everybody is open to the accounts on one list and to the groups on another.
The lists are read as sets, and a group without a name counts for nothing, neither on the list nor among
the groups of a user.

So whoever is admitted stays admitted when the lists grow, or the groups of the user do, and nothing else
about the lists matters (`BackendConfig.privilege_grows`).
-/

/-- A backend is open to everybody, or to the account of the user, or to a named group of the user. -/
theorem Backend.hasPrivilege_iff {b : Backend} {user : Session} :
    b.hasPrivilege user = true ↔ b.privilege = .internal ∨ user.account ∈ b.users ∨
      ∃ group ∈ user.groups, group ≠ "" ∧ group ∈ b.groups := by
  have grouped : (user.groups.toList.any fun group => group ≠ "" && group ∈ b.groups) = true ↔
      ∃ group ∈ user.groups, group ≠ "" ∧ group ∈ b.groups := by
    simp only [List.any_eq_true, Bool.and_eq_true, decide_eq_true_eq]
    exact Iff.rfl
  unfold Backend.hasPrivilege
  cases b.privilege with
  | internal => exact iff_of_true rfl (Or.inl rfl)
  | restricted =>
    simp only [reduceCtorEq, false_or, Bool.or_eq_true, decide_eq_true_eq]
    exact or_congr Iff.rfl grouped

/-- The named groups of the first user are groups of the second, who has the same account. -/
structure Session.GroupsWithin (user user' : Session) : Prop where
  account : user.account = user'.account
  groups : ∀ group ∈ user.groups, group ≠ "" → group ∈ user'.groups

namespace BackendConfig

/-- The accounts and the named groups on the lists of the first are on those of the second. -/
structure ListsWithin (c c' : BackendConfig) : Prop where
  privilege : c.privilege = c'.privilege
  groups : ∀ group ∈ c.groups, group ≠ "" → group ∈ c'.groups
  users : ∀ account ∈ c.users, account ∈ c'.users

variable {c c' : BackendConfig} {b b' : Backend} {user user' : Session}

theorem hasPrivilege_iff (made : c.toBackend = .ok b) :
    b.hasPrivilege user = true ↔ c.privilege = .internal ∨ user.account ∈ c.users ∨
      ∃ group ∈ user.groups, group ≠ "" ∧ group ∈ c.groups := by
  have makes := makes_of_toBackend made
  simp only [Backend.hasPrivilege_iff, makes.privilege, makes.users, makes.groups]

theorem ListsWithin.admits (lists : c.ListsWithin c') (groups : user.GroupsWithin user')
    (made : c.toBackend = .ok b) (made' : c'.toBackend = .ok b')
    (admitted : b.hasPrivilege user = true) : b'.hasPrivilege user' = true := by
  rw [hasPrivilege_iff made', ← lists.privilege, ← groups.account]
  rcases (hasPrivilege_iff made).mp admitted with everybody | listed | ⟨group, member, named, listed⟩
  · exact Or.inl everybody
  · exact Or.inr (Or.inl (lists.users _ listed))
  · exact Or.inr (Or.inr ⟨group, groups.groups group member named, named,
      lists.groups group listed named⟩)

/-- A backend admits all that another one admits whose lists it has, whatever order and however often
they name their entries, and a user with more groups is admitted wherever one with fewer is.  Lists with
the same entries, and groups that are the same, make the same decision.  A group without a name does not
matter to any of this: a restricted backend admits the accounts that it lists and the named groups that it
lists, and nobody if it lists nothing. -/
theorem privilege_grows (made : c.toBackend = .ok b) (made' : c'.toBackend = .ok b') :
    (c.ListsWithin c' → ∀ user user', Session.GroupsWithin user user' →
      b.hasPrivilege user = true → b'.hasPrivilege user' = true) ∧
    (c.ListsWithin c' → c'.ListsWithin c → ∀ user user', Session.GroupsWithin user user' →
      Session.GroupsWithin user' user → b.hasPrivilege user = b'.hasPrivilege user') ∧
    (c.privilege = .restricted → ∀ user, b.hasPrivilege user = true ↔
      user.account ∈ c.users ∨ ∃ group ∈ user.groups, group ≠ "" ∧ group ∈ c.groups) ∧
    (c.privilege = .restricted → c.groups = [] → c.users = [] →
      ∀ user, b.hasPrivilege user = false) := by
  have listed : c.privilege = .restricted → ∀ user, b.hasPrivilege user = true ↔
      user.account ∈ c.users ∨ ∃ group ∈ user.groups, group ≠ "" ∧ group ∈ c.groups := by
    intro restricted user
    rw [hasPrivilege_iff made, restricted]
    exact or_iff_right Privilege.noConfusion
  refine ⟨fun lists user user' groups => lists.admits groups made made', ?_, listed, ?_⟩
  · intro lists lists' user user' groups groups'
    rw [Bool.eq_iff_iff]
    exact ⟨lists.admits groups made made', lists'.admits groups' made' made⟩
  · intro restricted noGroups noUsers user
    rw [Bool.eq_false_iff]
    intro admitted
    rcases (listed restricted user).mp admitted with account | ⟨group, -, -, member⟩
    · rw [noUsers] at account
      exact absurd account List.not_mem_nil
    · rw [noGroups] at member
      exact absurd member List.not_mem_nil

/-- A service that is open to those on its lists. -/
def guarded (groups users : List String) : BackendConfig where
  host := "wiki.home"
  address := "http://[::1]:9000"
  privilege := .restricted
  groups := groups
  users := users
  headers := []

/-- A user who is in a group without a name, and in this one. -/
def memberOf (group : String) : Session :=
  { Session.empty with account := "alice", groups := .ofList ["", group] }

/-- The second backend has longer lists, and names an entry twice. -/
theorem privilege_grows_guarded : ∃ b b',
    (guarded ["", "staff"] []).toBackend = .ok b ∧
      (guarded ["ops", "staff", "ops"] ["bob"]).toBackend = .ok b' ∧
      b.hasPrivilege (memberOf "staff") = true ∧ b'.hasPrivilege (memberOf "staff") = true ∧
      b.hasPrivilege (memberOf "") = false := by
  have lists : (guarded ["", "staff"] []).ListsWithin (guarded ["ops", "staff", "ops"] ["bob"]) := {
    privilege := rfl
    groups := by decide
    users := by decide }
  have groups : (memberOf "staff").GroupsWithin (memberOf "staff") := {
    account := rfl
    groups := fun _ member _ => member }
  refine ⟨_, _, rfl, rfl, by decide +kernel, ?_, by decide +kernel⟩
  exact (privilege_grows rfl rfl).1 lists _ _ groups (by decide +kernel)

end BackendConfig

end AuthGateway
