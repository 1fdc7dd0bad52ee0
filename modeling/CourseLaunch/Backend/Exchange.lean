import CourseLaunch.Backend.Failure
import CourseLaunch.Endpoint
import CourseLaunch.Web.Url.Reader
/-!
# Exchanges

A request becomes an exchange when its path names a URL that can be asked over HTTP and the token
can stand in a header. The exchange ends with an answer, whole or not, and the answer is either a
reply to be decoded or a failure.
-/

namespace CourseLaunch.Backend
open Web

/-- What a call asks for. A body makes it a POST. -/
structure Request where
  path : String
  body : Option Json
  params : List (String × String)
deriving Repr

namespace Request

def ofEndpoint (e : Endpoint) : Request := ⟨e.path, e.data, []⟩

def post (path : String) (body : Json) : Request := ⟨path, some body, []⟩

end Request

/-- A request on its way. -/
structure Exchange where
  isPost : Bool
  url : Url
  token : String
  body : Option String
deriving Repr

/-- Whether the character may stand in a header. -/
def isHeaderChar (c : Char) : Bool := c = '\t' || (0x20 ≤ c.toNat && c.toNat ≠ 0x7F)

def isHeaderText (s : String) : Bool := s.toList.all isHeaderChar

/-- Whether the character may stand in the host of an HTTP request. -/
def isHostChar (c : Char) : Bool := c ∉ ['"', '\x60', '\x7b', '\x7d']

/-- The URL without its user and its password. -/
def anonymous (url : Url) : Url :=
  { url with authority := url.authority.map fun a => { a with user := "", password := "" } }

/-- Whether the URL can be asked over HTTP. -/
def isAskable (url : Url) : Bool :=
  (url.scheme = "http" || url.scheme = "https") && (url.host?.getD "").toList.all isHostChar

/-- The URL that a path names, with the parameters behind its query. -/
def Request.url (r : Request) (base : Url) : Except Failure Url :=
  match base.join r.path with
  | .ok url => .ok (url.withPairs r.params)
  | .error fault => .error (.unresolved r.path fault)

/-- The exchange of a request. A URL without a host is refused before the token is looked at. -/
def Request.exchange (r : Request) (base : Url) (token : String) : Except Failure Exchange :=
  match r.url base with
  | .error failure => .error failure
  | .ok named =>
    let url := anonymous named
    let refuse (reason : Interruption) := Except.error (Failure.interrupted r.path reason)
    if url.host?.isNone then refuse (.unusableUrl url.text)
    else if !isHeaderText token then refuse .unusableToken
    else if !isAskable url then refuse (.unusableUrl url.text)
    else .ok ⟨r.body.isSome, url, token, r.body.map Json.text⟩

/-- How an exchange ends. The answer is the one that comes after all redirects, which the HTTP library
follows by itself; it may be cut short, or missing. -/
inductive Answer where
  | whole (status : Nat) (body : List UInt8)
  | cutShort
  | missing
deriving DecidableEq, Repr

/-- The body of a successful answer, with the path that was asked. -/
structure Reply where
  path : String
  body : List UInt8
deriving DecidableEq, Repr

/-- Reads a body as JSON. -/
def readBody {α : Type} (c : Wire.Codec α) (path : String) (body : List UInt8) :
    Except Failure α :=
  let source := Text.symbols body
  match c.ofSource source with
  | .ok x => .ok x
  | .error fault => .error (.malformed path (fault.text source))

/-- Decodes a reply. An empty body stands for `null`. -/
def Reply.decode {α : Type} (r : Reply) (c : Wire.Codec α) : Except Failure α :=
  readBody c r.path (if r.body.isEmpty then Text.octets "null" else r.body)

/-- What an answer means for the request to a path that was sent to a URL. -/
def Answer.outcome (a : Answer) (path : String) (url : Url) : Except Failure Reply :=
  match a with
  | .whole status body =>
    if status < 400 then .ok ⟨path, body⟩
    else
      match readBody Wire.Codec.any path body with
      | .ok explanation => .error (.refused (.ofBody path status explanation))
      | .error failure => .error failure
  | .cutShort => .error (.interrupted path (.cutShort url.text))
  | .missing => .error (.interrupted path (.noAnswer url.text))

end CourseLaunch.Backend
