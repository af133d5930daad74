import AuthGateway.Provider.Directory
import AuthGateway.Provider.Local

namespace AuthGateway

/-!
Authentication providers: single ones, and two behind one another.

Of two providers each has a name.  An account that begins with a name and a colon belongs to that
provider alone; any other is asked of the first, and of the second if the first refuses.
-/

/-- A provider that is not part of the gateway. -/
structure ForeignProvider where
  name : String
  login : String → String → Ending Identity
  get : String → Ending Identity
  list : Ending (List Identity)

inductive Provider where
  | localUsers (check : PasswordCheck) (users : List LocalUser)
  /-- A provider that is not made yet. -/
  | database
  | directory (source : Directory.Source)
  | composite (firstName : String) (first : Provider) (secondName : String) (second : Provider)
  | foreign (provider : ForeignProvider)

namespace Provider

inductive Side where
  | first
  | second
deriving DecidableEq, Repr

/-- The side that an account names, and the account there. -/
def route? (firstName secondName account : String) : Option (Side × String) :=
  match Text.cut? ':' account with
  | some (name, rest) =>
    if name = firstName then some (.first, rest)
    else if name = secondName then some (.second, rest)
    else none
  | none => none

def login : Provider → String → String → Answer Identity
  | localUsers check users, account, password =>
    .plain (.ofExcept (LocalUser.login check users account password))
  | database, _, _ => .refused .notImplemented
  | directory source, account, password => source.login account password
  | composite firstName first secondName second, account, password =>
    match route? firstName secondName account with
    | some (.first, rest) => first.login rest password
    | some (.second, rest) => second.login rest password
    | none => (first.login account password).orElse (second.login account password)
  | foreign p, account, password =>
    .after (.ask p.name "login" account) (.plain (p.login account password))

def get : Provider → String → Answer Identity
  | localUsers _ users, account => .plain (.ofExcept (LocalUser.get users account))
  | database, _ => .refused .notImplemented
  | directory source, account => source.get account
  | composite firstName first secondName second, account =>
    match route? firstName secondName account with
    | some (.first, rest) => first.get rest
    | some (.second, rest) => second.get rest
    | none => (first.get account).orElse (second.get account)
  | foreign p, account => .after (.ask p.name "get" account) (.plain (p.get account))

/-- Lists the users; of two providers one that refuses adds none. -/
def list : Provider → Answer (List Identity)
  | localUsers _ users => .value (users.map LocalUser.identity)
  | database => .refused .notImplemented
  | directory source => source.list
  | composite _ first _ second =>
    (first.list.recover []).bind fun before =>
      (second.list.recover []).bind fun after => .value (before ++ after)
  | foreign p => .after (.ask p.name "list" "*") (.plain p.list)

/-- The directory of a configuration, which must say where it is. -/
def directoryOf (c : Config) (service : Directory.Service) : Except AuthError Provider :=
  if c.ldap.url = "" then .error (.directory "ldap.url is required")
  else .ok (.directory { service, settings := c.ldap, users := c.users.directory })

def ofConfig (c : Config) (service : Directory.Service) : Except AuthError Provider :=
  match c.authType with
  | .localUsers => .ok (.localUsers .standard c.users.locals)
  | .ldap => directoryOf c service
  | .database => .ok .database
  | .composite =>
    match directoryOf c service with
    | .error e => .error e
    | .ok second =>
      .ok (.composite LocalUser.userType (.localUsers .standard c.users.locals)
        Directory.Source.userType second)

end Provider

end AuthGateway
