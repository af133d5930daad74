import AuthGateway.Config.Basic
import AuthGateway.Net.Message
import AuthGateway.Time.Rfc3339

namespace AuthGateway

/-!
The pages of the gateway.

A page is a run of pieces, each of which is either markup of the gateway or a text that somebody
else has chosen.  Texts are escaped when the page is written, so that no text can add markup.
-/

open Net (Response)

def escapeHtmlChar : Char → List Char
  | '&' => "&amp;".toList
  | '<' => "&lt;".toList
  | '>' => "&gt;".toList
  | '"' => "&quot;".toList
  | '\'' => "&#39;".toList
  | c => [c]

def escapeHtml (s : String) : String :=
  String.ofList (s.toList.flatMap escapeHtmlChar)

inductive Piece where
  | markup (s : String)
  | text (s : String)
deriving DecidableEq, Repr

def Piece.render : Piece → String
  | markup s => s
  | text s => escapeHtml s

structure Page where
  pieces : List Piece
deriving DecidableEq, Repr

namespace Page

def render (p : Page) : String :=
  String.join (p.pieces.map Piece.render)

def opening (title heading : String) : List Piece := [
  .markup "<!DOCTYPE html>\n<html><head><meta charset=\"utf-8\"><title>",
  .markup title,
  .markup "</title><link rel=\"stylesheet\" href=\"/secure-proxy/assets/style.css\"></head>",
  .markup "<body><main class=\"card\"><h1>",
  .markup heading,
  .markup "</h1>"]

def closing : List Piece :=
  [.markup "</main></body></html>"]

/-- What the login page shows of an earlier attempt. -/
structure LoginView where
  error : String
  username : String
  userType : String
deriving DecidableEq, Repr

/-- An option of the selector, which is chosen if the user asked for it before. -/
def option (asked value label : String) : List Piece := [
  .markup "<option value=\"",
  .markup value,
  .markup "\"",
  .markup (if asked = value then " selected" else ""),
  .markup ">",
  .markup label,
  .markup "</option>"]

/-- The choice between the two kinds of users. -/
def selector (view : LoginView) : List Piece :=
  [.markup "<label>Account type <select name=\"user_type\">"]
    ++ option view.userType "local" "Local"
    ++ option view.userType "ldap" "Directory"
    ++ [.markup "</select></label>"]

def errorLine (view : LoginView) : List Piece :=
  if view.error = "" then []
  else [.markup "<p class=\"error\">", .text view.error, .markup "</p>"]

/-- The login page; the kind of user is asked for where there are several. -/
def login (authType : AuthType) (view : LoginView) : Page where
  pieces :=
    opening "Sign in" "Sign in"
      ++ errorLine view
      ++ [.markup "<form method=\"post\" action=\"/secure-proxy/auth/login\">"]
      ++ (if authType = .composite then selector view else [])
      ++ [
        .markup "<label>Username <input name=\"username\" value=\"",
        .text view.username,
        .markup "\" autofocus></label>",
        .markup "<label>Password <input name=\"password\" type=\"password\"></label>",
        .markup "<button type=\"submit\">Sign in</button></form>"]
      ++ closing

def groupItems (groups : TextSet) : List Piece :=
  match groups.toList with
  | [] => [.markup "<li>-</li>"]
  | names => names.flatMap fun name => [.markup "<li>", .text name, .markup "</li>"]

def entry (label : String) (value : Piece) : List Piece :=
  [.markup "<dt>", .markup label, .markup "</dt><dd>", value, .markup "</dd>"]

/-- The status page: who is signed in, and since when. -/
def status (user : Session) : Page where
  pieces :=
    opening "Session" "Signed in"
      ++ [.markup "<dl>"]
      ++ entry "Account" (.text user.account)
      ++ entry "Name" (.text user.name)
      ++ entry "Type" (.text user.userType)
      ++ entry "Login time" (.markup (Time.Rfc3339.format .none .letter user.createdAt))
      ++ [.markup "<dt>Groups</dt><dd><ul>"]
      ++ groupItems user.groups
      ++ [.markup "</ul></dd></dl>",
        .markup "<a class=\"button\" href=\"/secure-proxy/auth/logout\">Log out</a>"]
      ++ closing

/-- Tells a user that a host is closed to them. -/
def forbidden (host name : String) : Page where
  pieces := [
    .markup "User ",
    .text name,
    .markup " has no access to ",
    .text host,
    .markup ". Ask an administrator for access; once it is granted, visit ",
    .markup "<a href='/secure-proxy'>http://",
    .text host,
    .markup "/secure-proxy</a> to log out and sign in again."]

end Page

def GatewayError.response (e : GatewayError) : Response :=
  match e with
  | .forbidden host name => .html e.status (Page.forbidden host name).render
  | _ => .json e.status (.record [("error", .text e.message), ("status", .nat e.status)])

end AuthGateway
