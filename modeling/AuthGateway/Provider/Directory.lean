import AuthGateway.Config.Basic
import AuthGateway.Crypto.Uuid
import AuthGateway.Provider.Answer
import AuthGateway.Text.Blank
import AuthGateway.Text.Integer

namespace AuthGateway

/-!
The provider of the users of a directory service.

An account is looked up with a search filter, in which its characters cannot mean anything but
themselves, and a password is proved by binding as the entry that was found.
-/

namespace Directory

def escapeChar : Char → List Char
  | '\\' => "\\5c".toList
  | '*' => "\\2a".toList
  | '(' => "\\28".toList
  | ')' => "\\29".toList
  | '\x00' => "\\00".toList
  | c => [c]

def escape (s : String) : String :=
  String.ofList (s.toList.flatMap escapeChar)

/-- An entry: its distinguished name, and the values of its attributes. -/
structure Entry where
  dn : String
  attributes : List (String × List String)
deriving DecidableEq

/-- Whether two texts differ in the case of ASCII letters at most. -/
def sameLetters (a b : String) : Bool :=
  Text.lowerAscii a == Text.lowerAscii b

namespace Entry

/-- The values of an attribute, whose name may be written in any case. -/
def values (e : Entry) (name : String) : List String :=
  match e.attributes.find? fun pair => sameLetters pair.1 name with
  | some (_, values) => values
  | none => []

/-- The first value of an attribute, unless it is empty. -/
def first? (e : Entry) (name : String) : Option String :=
  (e.values name).head?.filter (· ≠ "")

/-- The flag of a disabled account. -/
def disabledFlag : Nat := 2

/-- Whether the flags of the account say that it is disabled. -/
def isDisabled (e : Entry) : Bool :=
  match (e.first? "userAccountControl").bind Text.nat32? with
  | some flags => flags &&& disabledFlag ≠ 0
  | none => false

end Entry

/-- The key and the value of a part of a distinguished name. -/
def attribute? (part : String) : Option (String × String) :=
  Text.cut? '=' (Text.trim part)

/-- The value of the first common name in a distinguished name. -/
def commonName? (dn : String) : Option String :=
  let attributes := (Text.parts ',' dn).filterMap attribute?
  match attributes.find? fun pair => sameLetters (Text.trim pair.1) "cn" with
  | some (_, value) => some (Text.trim value) |>.filter (· ≠ "")
  | none => none

structure Service where
  search : String → Except AuthError (List Entry)
  bind : String → String → Except AuthError Unit

/-- A directory service with the settings of its use. -/
structure Source where
  service : Service
  settings : LdapConfig
  /-- What the configuration adds to the users of the directory. -/
  users : List DirectoryUser

namespace Source

def userType : String := "ldap"

/-- The filter that finds the entries whose account is `value`. -/
def filter (s : Source) (value : String) : String :=
  "(&" ++ s.settings.userFilter ++ "(" ++ s.settings.uid ++ "=" ++ value ++ "))"

def filterFor (s : Source) (account : String) : String :=
  s.filter (escape account)

def search (s : Source) (filter : String) : Answer (List Entry) :=
  .after (.search filter) (.plain (.ofExcept (s.service.search filter)))

def bind (s : Source) (dn password : String) : Answer Unit :=
  .after (.bind dn password) (.plain (.ofExcept (s.service.bind dn password)))

def find (s : Source) (account : String) : Answer Entry :=
  (s.search (s.filterFor account)).bind fun
  | [] => .refused .noSuchUser
  | entry :: _ => .value entry

/-- The groups that the configuration adds, and those that the entry lists. -/
def groupsOf (s : Source) (account : String) (entry : Entry) : TextSet :=
  let added := s.users.filter fun user => sameLetters user.account account
  let listed := match s.settings.groupAttribute with
    | some name => (entry.values name).filterMap commonName?
    | none => []
  .ofList (added.flatMap (fun user => user.userGroups.toList) ++ listed)

/-- The identity of an entry; the account is as the directory writes it, if it does. -/
def identity (s : Source) (asked : String) (entry : Entry) : Identity :=
  let account := (entry.first? s.settings.uid).getD asked
  { userType
    uuid := Crypto.Uuid.ofName Crypto.Uuid.distinguishedNames entry.dn
    name := (entry.first? s.settings.displayName).getD account
    account
    groups := s.groupsOf account entry
    status := if entry.isDisabled then 0 else 1 }

/-- The identity of an entry that is not disabled. -/
def vouch (s : Source) (asked : String) (entry : Entry) : Answer Identity :=
  if entry.isDisabled then .refused .accountDisabled else .value (s.identity asked entry)

/-- An empty password would prove nothing, as services accept it from everybody. -/
def login (s : Source) (account password : String) : Answer Identity :=
  if password = "" then .refused .invalidPassword
  else
    (s.find account).bind fun entry =>
      (s.bind entry.dn password).bind fun () => s.vouch account entry

def get (s : Source) (account : String) : Answer Identity :=
  (s.find account).bind (s.vouch account)

def list (s : Source) : Answer (List Identity) :=
  (s.search (s.filter "*")).bind fun entries =>
    .value ((entries.map (s.identity "")).filter (·.account ≠ ""))

end Source

end Directory

end AuthGateway
