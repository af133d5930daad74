import AuthGateway.Config.Basic
import AuthGateway.Crypto.Uuid
import AuthGateway.Login.Password
import AuthGateway.Provider.Answer

namespace AuthGateway

/-!
The provider of the users that the configuration lists.  Of several entries with one account
only the first counts.
-/

namespace LocalUser

def userType : String := "local"

def identity (user : LocalUser) : Identity where
  userType := userType
  uuid := Crypto.Uuid.ofName Crypto.Uuid.objectIdentifiers user.account
  name := if user.name = "" then user.account else user.name
  account := user.account
  groups := user.userGroups
  status := if user.disabled then 0 else 1

/-- Whether the candidate is shown to be the password of the user. -/
def accepts (check : PasswordCheck) (user : LocalUser) (candidate : String) : Bool :=
  (check user.password candidate user.algo).getD false

/-- The identity of a user who is not disabled. -/
def vouch (user : LocalUser) : Except AuthError Identity :=
  if user.disabled then .error .accountDisabled else .ok user.identity

def find (users : List LocalUser) (account : String) : Except AuthError LocalUser :=
  match users.find? (·.account = account) with
  | some user => .ok user
  | none => .error .noSuchUser

/-- The password comes first, so that only who knows it learns that the account is disabled. -/
def login (check : PasswordCheck) (users : List LocalUser) (account password : String) :
    Except AuthError Identity :=
  match find users account with
  | .error e => .error e
  | .ok user => if user.accepts check password then user.vouch else .error .invalidPassword

def get (users : List LocalUser) (account : String) : Except AuthError Identity :=
  match find users account with
  | .error e => .error e
  | .ok user => user.vouch

end LocalUser

end AuthGateway
