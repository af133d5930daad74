import AuthGateway.Net.Message
import AuthGateway.Text.Percent
import AuthGateway.Text.Split

namespace AuthGateway

/-!
The files that the pages of the gateway need: style sheets, scripts and images.

A path names a file by its parts; no path leads out of the folder.  A folder is shown by its
index page.  A client may ask for a single range of a file.
-/

open Net (HeaderMap HeaderValue Response Uri)

/-- A file, by the names on the way to it. -/
structure AssetFile where
  path : List String
  content : ByteArray

structure Assets where
  files : List AssetFile

namespace Assets

def empty : Assets where
  files := []

/-- Files with texts, by their paths inside the folder. -/
def ofTexts (texts : List (String × String)) : Assets where
  files := texts.map fun (path, text) =>
    { path := Text.parts '/' path, content := text.toUTF8 }

def file? (a : Assets) (path : List String) : Option ByteArray :=
  (a.files.find? (·.path = path)).map AssetFile.content

/-- Whether there is a folder at a path: a file is inside it. -/
def isFolder (a : Assets) (path : List String) : Bool :=
  a.files.any fun file => path.isPrefixOf file.path && path.length < file.path.length

/-- The parts of a path; none if it begins at the root or climbs up. -/
def parts? (path : String) : Option (List String) := do
  let bytes := Text.Percent.decode (Text.encode path)
  let text ← Text.decode? bytes
  if text.toList.head? = some '/' then none
  else
    let parts := (Text.parts '/' text).filter fun part => part ≠ "" ∧ part ≠ "."
    if parts.contains ".." then none else some parts

def contentTypes : List (String × String) := [
  ("aac", "audio/aac"), ("avif", "image/avif"), ("bin", "application/octet-stream"),
  ("bmp", "image/bmp"), ("bz2", "application/x-bzip2"), ("css", "text/css"),
  ("csv", "text/csv"), ("eot", "application/vnd.ms-fontobject"), ("gif", "image/gif"),
  ("gz", "application/gzip"), ("htm", "text/html"), ("html", "text/html"),
  ("ico", "image/x-icon"), ("jpeg", "image/jpeg"), ("jpg", "image/jpeg"),
  ("js", "text/javascript"), ("json", "application/json"), ("jsonld", "application/ld+json"),
  ("map", "application/json"), ("md", "text/markdown"), ("mjs", "text/javascript"),
  ("mp3", "audio/mpeg"), ("mp4", "video/mp4"), ("ogg", "audio/ogg"), ("otf", "font/otf"),
  ("pdf", "application/pdf"), ("png", "image/png"), ("rtf", "application/rtf"),
  ("svg", "image/svg+xml"), ("svgz", "image/svg+xml"), ("tar", "application/x-tar"),
  ("tif", "image/tiff"), ("tiff", "image/tiff"), ("toml", "text/x-toml"),
  ("ttf", "font/ttf"), ("txt", "text/plain"), ("wasm", "application/wasm"),
  ("wav", "audio/wav"), ("webm", "video/webm"), ("webmanifest", "application/manifest+json"),
  ("webp", "image/webp"), ("woff", "font/woff"), ("woff2", "font/woff2"),
  ("xhtml", "application/xhtml+xml"), ("xml", "text/xml"), ("yaml", "text/x-yaml"),
  ("yml", "text/x-yaml"), ("zip", "application/zip")]

/-- The type of the content of a file; bytes, if its name does not tell. -/
def contentType (name : String) : String :=
  let ending := match Text.cutLast? '.' name with
    | some (before, ending) => if before = "" then "" else Text.lowerAscii ending
    | none => ""
  (contentTypes.lookup ending).getD "application/octet-stream"

inductive ByteRange where
  | between (first last : Nat)
  | startingAt (first : Nat)
  /-- The last bytes, so many. -/
  | ending (length : Nat)
deriving DecidableEq, Repr

namespace ByteRange

/-- A number of 64 bits, in digits without a zero in front. -/
def number? (cs : List Char) : Option Nat :=
  if cs ≠ [] ∧ cs.all Char.isDigit ∧ (cs.length = 1 ∨ cs.head? ≠ some '0') then
    let n := cs.foldl (fun n c => n * 10 + (c.toNat - '0'.toNat)) 0
    if n < 1 <<< 64 then some n else none
  else none

def parse? (cs : List Char) : Option ByteRange := do
  let (first, last) ← Text.splitOnce? '-' cs
  match first, last with
  | [], _ => return .ending (← number? last)
  | _, [] => return .startingAt (← number? first)
  | _, _ => return .between (← number? first) (← number? last)

/-- The first byte of a range in a content of so many bytes, and the one after its last. -/
def within? (range : ByteRange) (size : Nat) : Option (Nat × Nat) :=
  let (first, stop) := match range with
    | between first last => (first, min (last + 1) size)
    | startingAt first => (first, size)
    | ending length => (size - length, if length ≤ size then size else 0)
  if first < stop then some (first, stop) else none

/-- The ranges in a content of so many bytes, if it has them all and no two share a byte. -/
def allWithin? (ranges : List ByteRange) (size : Nat) : Option (List (Nat × Nat)) := do
  let bounds ← ranges.mapM (·.within? size)
  if bounds.Pairwise fun a b => a.2 ≤ b.1 ∨ b.2 ≤ a.1 then some bounds else none

def list? (value : String) : Option (List ByteRange) :=
  let unit := "bytes=".toList
  if unit.isPrefixOf value.toList then
    (Text.splitAll ',' (value.toList.drop unit.length)).mapM fun part =>
      parse? (part.dropWhile (· = ' '))
  else none

end ByteRange

/-- The head of every response with a file. -/
def fileResponse (status : Nat) (name : String) (body : ByteArray) : Response :=
  (Response.typed status (contentType name) body).withHeader .acceptRanges
    (HeaderValue.ofVisible "bytes")

/-- Says which part of how much is sent. -/
def withRange (r : Response) (range : String) (size : Nat) : Response :=
  r.withHeader .contentRange
    (HeaderValue.ofVisible ("bytes " ++ range ++ "/" ++ toString size))

def unsatisfiable (name : String) (size : Nat) (message : String) : Response :=
  withRange (fileResponse 416 name message.toUTF8) "*" size

/-- The response with a file, or with the range of it that is asked for. -/
def serveFile (name : String) (content : ByteArray) (range : Option String) : Response :=
  let size := content.size
  match range with
  | none => (fileResponse 200 name content).sized
  | some value =>
    match (ByteRange.list? value).bind (ByteRange.allWithin? · size) with
    | none => (unsatisfiable name size "").sized
    | some [(first, stop)] =>
      let shown := toString first ++ "-" ++ toString (stop - 1)
      (withRange (fileResponse 206 name (content.extract first stop)) shown size).sized
    | some _ => (unsatisfiable name size "Cannot serve multipart range requests").sized

/-- The same head without the bytes of a file; what is said about ranges stays. -/
def withoutFile (r : Response) : Response :=
  if r.status = 416 then r else r.withoutBody

def missing : Response :=
  (Response.empty 404).sized

def folderRedirect (uri : Uri) (path : String) : Response :=
  (Response.empty 307).withHeader .location
    (HeaderValue.ofVisible { uri with path := path ++ "/" : Uri }.text) |>.sized

/-- Whether no file could have such a name. -/
def isUnnameable (part : String) : Bool :=
  part.toList.contains '\x00' || 255 < part.utf8ByteSize

def serveParts (a : Assets) (parts : List String) (range : Option String) : Response :=
  match a.file? parts with
  | some content => serveFile (parts.getLastD "") content range
  | none => if parts.any isUnnameable then (Response.empty 500).sized else missing

/-- The response to a request for a path inside the folder. -/
def get (a : Assets) (uri : Uri) (path : String) (range : Option String) : Response :=
  match parts? (String.ofList (path.toList.dropWhile (· = '/'))) with
  | none => missing
  | some parts =>
    if a.isFolder parts then
      if path.toList.getLast? = some '/' then a.serveParts (parts ++ ["index.html"]) range
      else folderRedirect uri path
    else a.serveParts parts range

/-- The response to a request for a path inside the folder, by its method. -/
def serve (a : Assets) (method : String) (uri : Uri) (path : String) (headers : HeaderMap) :
    Response :=
  if method = "GET" then a.get uri path (headers.text? .range)
  else if method = "HEAD" then withoutFile (a.get uri path (headers.text? .range))
  else ((Response.empty 405).allowing "GET,HEAD").sized

end Assets

end AuthGateway
