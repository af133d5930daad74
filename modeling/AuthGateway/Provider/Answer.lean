import AuthGateway.Error
import AuthGateway.Session.Record

namespace AuthGateway

/-!
Answers of authentication providers.

A provider answers, refuses with an error, or crashes.  On the way it may call services outside
of the gateway; an answer lists these calls in their order.
-/

/-- A call of a service outside of the gateway. -/
inductive Call where
  /-- A search in the directory. -/
  | search (filter : String)
  /-- A proof of a password in the directory. -/
  | bind (dn password : String)
  /-- A question to a provider outside: its name, the kind of question, and the account. -/
  | ask (provider question account : String)
deriving DecidableEq, Repr

inductive Ending (α : Type) where
  | value (result : α)
  | refused (error : AuthError)
  /-- The provider fails without saying so itself. -/
  | crashed (message : String)
deriving DecidableEq

/-- The ending of a result that is known. -/
def Ending.ofExcept {α : Type} : Except AuthError α → Ending α
  | .ok result => .value result
  | .error e => .refused e

/-- An ending, and the calls before it. -/
structure Answer (α : Type) where
  calls : List Call
  ending : Ending α
deriving DecidableEq

namespace Answer

variable {α β : Type}

def plain (ending : Ending α) : Answer α where
  calls := []
  ending := ending

def value (result : α) : Answer α :=
  plain (.value result)

def refused (error : AuthError) : Answer α :=
  plain (.refused error)

def after (call : Call) (answer : Answer α) : Answer α where
  calls := call :: answer.calls
  ending := answer.ending

/-- Goes on with a result; a refusal or a crash is final. -/
def bind (answer : Answer α) (next : α → Answer β) : Answer β :=
  match answer.ending with
  | .value result =>
    { calls := answer.calls ++ (next result).calls, ending := (next result).ending }
  | .refused error => { calls := answer.calls, ending := .refused error }
  | .crashed message => { calls := answer.calls, ending := .crashed message }

/-- Goes on after a refusal; a result or a crash is final. -/
def orElse (answer : Answer α) (next : Answer α) : Answer α :=
  match answer.ending with
  | .refused _ => { calls := answer.calls ++ next.calls, ending := next.ending }
  | _ => answer

/-- A refusal counts as this result. -/
def recover (answer : Answer α) (result : α) : Answer α :=
  answer.orElse (value result)

end Answer

end AuthGateway
