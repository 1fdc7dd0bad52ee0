import CourseLaunch.Web.Form
import CourseLaunch.Web.Host
/-!
# URLs

A URL in its parts, and its text. Every part holds the text in which it is written, with escapes
already in place.
-/

namespace CourseLaunch.Web

/-- What stands between the two slashes and the path. A default port is left out. -/
structure Authority where
  user : String
  password : String
  host : Host
  port : Option Nat
deriving DecidableEq, Repr

/-- The path of a URL: segments behind slashes, or a text without structure. -/
inductive Path where
  | rootless (text : String)
  | rooted (segments : List String)
deriving DecidableEq, Repr

/-- A URL. -/
structure Url where
  scheme : String
  authority : Option Authority
  path : Path
  query : Option String
  fragment : Option String
deriving DecidableEq, Repr

/-- What the rules of a scheme are. -/
inductive Rules where
  | special (defaultPort : Nat)
  | file
  | plain
deriving DecidableEq, Repr

/-- The rules of a scheme. -/
def rulesOf (scheme : String) : Rules :=
  if scheme = "http" ∨ scheme = "ws" then .special 80
  else if scheme = "https" ∨ scheme = "wss" then .special 443
  else if scheme = "ftp" then .special 21
  else if scheme = "file" then .file
  else .plain

namespace Rules

/-- Whether the scheme is a well-known one. -/
def isSpecial : Rules → Bool
  | plain => false
  | _ => true

/-- The port that is left out. -/
def defaultPort? : Rules → Option Nat
  | special port => some port
  | _ => none

end Rules

namespace Authority

/-- The text of user name and password. -/
def userText (a : Authority) : String :=
  if a.user.isEmpty && a.password.isEmpty then ""
  else if a.password.isEmpty then a.user ++ "@"
  else a.user ++ ":" ++ a.password ++ "@"

/-- The text of the port. -/
def portText (a : Authority) : String :=
  match a.port with
  | some port => ":" ++ toString port
  | none => ""

def text (a : Authority) : String := a.userText ++ a.host.text ++ a.portText

end Authority

namespace Path

def text : Path → String
  | rootless text => text
  | rooted segments => String.join (segments.map ("/" ++ ·))

/-- The segments of a path, if it has any. -/
def segments? : Path → Option (List String)
  | rootless _ => none
  | rooted [] => none
  | rooted segments => some segments

end Path

namespace Url

def rules (u : Url) : Rules := rulesOf u.scheme

/-- Whether the path has no structure, so that nothing is relative to the URL. -/
def isRootless (u : Url) : Bool :=
  match u.path with
  | .rootless _ => true
  | .rooted _ => false

/-- The text between the scheme and the query. A path that starts with two slashes must not be
taken for an authority. -/
def placeText (u : Url) : String :=
  match u.authority with
  | some authority => "//" ++ authority.text ++ u.path.text
  | none =>
    match u.path with
    | .rooted ("" :: segment :: segments) => "/." ++ (Path.rooted ("" :: segment :: segments)).text
    | path => path.text

/-- The text of the query with its mark. -/
def queryText (u : Url) : String :=
  match u.query with
  | some query => "?" ++ query
  | none => ""

/-- The text of the fragment with its mark. -/
def fragmentText (u : Url) : String :=
  match u.fragment with
  | some fragment => "#" ++ fragment
  | none => ""

def textBeforeFragment (u : Url) : String :=
  u.scheme ++ ":" ++ u.placeText ++ u.queryText

def text (u : Url) : String := u.textBeforeFragment ++ u.fragmentText

def host? (u : Url) : Option String :=
  u.authority.bind fun a => if a.host.isEmpty then none else some a.host.text

/-- The pairs of the query. -/
def pairs (u : Url) : List (String × String) :=
  match u.query with
  | some query => readPairs query.toList
  | none => []

/-- Adds a pair at the end of the query. -/
def withPair (u : Url) (pair : String × String) : Url :=
  { u with query := some (String.ofList (appendPair (u.query.map String.toList) pair)) }

def withPairs (u : Url) (pairs : List (String × String)) : Url := pairs.foldl withPair u

end Url

end CourseLaunch.Web
