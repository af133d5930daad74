import AuthGateway.Net.Header
import AuthGateway.Net.Url
import AuthGateway.Session.Record
import AuthGateway.Text.Split

namespace AuthGateway

/-!
The services behind the gateway: who may use one, where it is, and which headers are edited
on the way to it.
-/

open Net (HeaderMap HeaderName HeaderValue Url)

inductive Privilege where
  /-- Everybody with a session. -/
  | internal
  /-- Those on the lists. -/
  | restricted
deriving DecidableEq, Repr

def Privilege.text : Privilege → String
  | .internal => "internal"
  | .restricted => "private"

/-- A rule for one header of an outgoing request: its only value, or its removal. -/
structure HeaderEdit where
  name : HeaderName
  value : Option HeaderValue
deriving DecidableEq

def HeaderEdit.apply (headers : HeaderMap) (rule : HeaderEdit) : HeaderMap :=
  match rule.value with
  | some value => headers.insert rule.name value
  | none => headers.remove rule.name

structure Backend where
  host : String
  address : Url
  privilege : Privilege
  groups : TextSet
  users : TextSet
  edits : List HeaderEdit
deriving DecidableEq

namespace Backend

/-- A restricted backend is open to the accounts and the named groups on its lists. -/
def hasPrivilege (b : Backend) (user : Session) : Bool :=
  match b.privilege with
  | .internal => true
  | .restricted =>
    user.account ∈ b.users || user.groups.toList.any fun g => g ≠ "" && g ∈ b.groups

/-- The headers after all rules, in their order. -/
def applyEdits (b : Backend) (headers : HeaderMap) : HeaderMap :=
  b.edits.foldl HeaderEdit.apply headers

end Backend

/-- The backends by their hosts, which are distinct. -/
structure BackendTable where
  backends : List Backend

namespace BackendTable

def get? (table : BackendTable) (host : String) : Option Backend :=
  table.backends.find? (·.host = host)

/-- The backend that a request to this host means: the number of a service is ignored unless
it is configured. -/
def resolve? (table : BackendTable) (host : String) : Option Backend :=
  match table.get? host with
  | some backend => some backend
  | none =>
    match Text.cutLast? ':' host with
    | some (name, service) =>
      if service ≠ "" && service.toList.all Char.isDigit then table.get? name else none
    | none => none

end BackendTable

end AuthGateway
