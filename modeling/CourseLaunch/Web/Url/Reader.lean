import CourseLaunch.Web.Url.Basic
/-!
# Reading URLs

A reference is cut at its first `#` and its first `?`. What stands before them is an absolute URL
when it starts with a scheme, and is resolved against a base otherwise. Under a well-known scheme
a backslash counts as a slash and any number of slashes may stand before the host; paths lose
their dot segments.
-/

namespace CourseLaunch.Web

/-- A reference before its parts are read. -/
structure Reference where
  body : List Char
  query : Option (List Char)
  fragment : Option (List Char)
deriving DecidableEq, Repr

/-- The characters that are removed at both ends. -/
def isPadding (c : Char) : Bool := c.toNat ≤ 0x20

/-- The characters that are removed everywhere. -/
def isLineSpace (c : Char) : Bool := c == '\t' || c == '\n' || c == '\r'

namespace Reference

/-- Cuts a text into the parts of a reference. -/
def ofText (cs : List Char) : Reference :=
  let start := (cs.dropWhile isPadding).reverse.dropWhile isPadding
  let (rest, fragment) := Text.splitFirst (· == '#') (start.reverse.filter fun c => !isLineSpace c)
  let (body, query) := Text.splitFirst (· == '?') rest
  ⟨body, query, fragment⟩

/-- Whether something follows the body. -/
def goesOn (r : Reference) : Bool := r.query.isSome || r.fragment.isSome

end Reference

def isSchemeChar (c : Char) : Bool := c.isAlphanum || c == '+' || c == '-' || c == '.'

/-- The scheme in front of a text, in lower case, and what stands behind its colon. -/
def splitScheme? (cs : List Char) : Option (String × List Char) :=
  match cs with
  | [] => none
  | c :: _ =>
    if c.isAlpha then
      match cs.dropWhile isSchemeChar with
      | ':' :: rest => some (String.ofList ((cs.takeWhile isSchemeChar).map Char.toLower), rest)
      | _ => none
    else none

/-- Whether a character divides segments. -/
def isSlash (special : Bool) (c : Char) : Bool := c == '/' || (special && c == '\\')

def isAnySlash (c : Char) : Bool := c == '/' || c == '\\'

/-- Whether a segment stands for the one it is in. -/
def isDot (segment : List Char) : Bool :=
  let s := segment.map Char.toLower
  s == ['.'] || s == ['%', '2', 'e']

/-- Whether a segment stands for the one above. -/
def isDoubleDot (segment : List Char) : Bool :=
  let s := segment.map Char.toLower
  s == ['.', '.'] || s == ['.', '%', '2', 'e'] || s == ['%', '2', 'e', '.'] ||
    s == ['%', '2', 'e', '%', '2', 'e']

/-- Whether a segment is the letter of a drive. -/
def isDrive (segment : List Char) : Bool :=
  match segment with
  | [c, d] => c.isAlpha && (d == ':' || d == '|')
  | _ => false

/-- The segments without the last one, unless that is a drive. -/
def stepUp (segments : List String) : List String :=
  match segments.getLast? with
  | some last => if isDrive last.toList then segments else segments.dropLast
  | none => []

/-- Goes from the given segments along the others. -/
def walk (segments : List String) : List (List Char) → List String
  | [] => segments
  | [last] =>
    if isDoubleDot last then stepUp segments ++ [""]
    else if isDot last then segments ++ [""]
    else segments ++ [String.ofList (percentEncode plainInPath last)]
  | next :: rest =>
    if isDoubleDot next then walk (stepUp segments) rest
    else if isDot next then walk segments rest
    else walk (segments ++ [String.ofList (percentEncode plainInPath next)]) rest

/-- The path that a text leads to from the given segments. -/
def pathFrom (special : Bool) (segments : List String) (cs : List Char) : Path :=
  .rooted (walk segments (Text.splitAll (isSlash special) cs))

/-- The path behind an authority. Only without rules for hosts may it be empty. -/
def pathBehind (special : Bool) (cs : List Char) : Path :=
  match cs with
  | [] => if special then .rooted [""] else .rooted []
  | c :: rest => if isSlash special c then pathFrom special [] rest else pathFrom special [] cs

/-- The user name and password of a text. -/
def readUser (cs : List Char) : String × String :=
  let (user, password) := Text.splitFirst (· == ':') cs
  let encoded (part : List Char) : String := String.ofList (percentEncode plainInUser part)
  (encoded user, encoded (password.getD []))

/-- The end of a host: the first colon outside brackets. -/
def splitHost (inBrackets : Bool) : List Char → List Char × List Char
  | [] => ([], [])
  | c :: rest =>
    if c == ':' && !inBrackets then ([], c :: rest)
    else
      let (host, behind) := splitHost (c == '[' || (inBrackets && c != ']')) rest
      (c :: host, behind)

/-- The value of a port, and what stands behind it. -/
def readPort (cs : List Char) : Except Fault (Option Nat × List Char) :=
  let digits := cs.takeWhile Char.isDigit
  let behind := cs.dropWhile Char.isDigit
  let port := (number? 10 digits).getD 0
  if 65535 < port then .error .invalidPort
  else if behind.isEmpty || behind.head? = some '\\' then
    .ok (if digits.isEmpty then none else some port, behind)
  else .error .invalidPort

/-- Reads a host under the rules of a scheme. -/
def readHost (special : Bool) (cs : List Char) : Except Fault Host :=
  if special then if cs.isEmpty then .error .emptyHost else Host.ofDomain cs
  else Host.ofName cs

/-- Reads host and port under the rules of a scheme, and gives what stands behind them. -/
def readHostAndPort (rules : Rules) (cs : List Char) :
    Except Fault (Host × Option Nat × List Char) := do
  let (hostText, behind) := splitHost false cs
  let host ← readHost rules.isSpecial hostText
  match behind with
  | [] => .ok (host, none, [])
  | _ :: portText =>
    if host.isEmpty then .error .emptyHost
    else do
      let (port, behind) ← readPort portText
      .ok (host, if port = rules.defaultPort? then none else port, behind)

/-- Reads an authority and the path behind it. -/
def readAuthority (rules : Rules) (goesOn : Bool) (cs : List Char) :
    Except Fault (Authority × Path) := do
  let special := rules.isSpecial
  let place := cs.takeWhile fun c => !isSlash special c
  let pathText := cs.dropWhile fun c => !isSlash special c
  let (userText, hostText) := Text.splitLast (· == '@') place
  if userText = some [] ∧ hostText = [] ∧ (!pathText.isEmpty || goesOn) then .error .emptyHost
  else
    let (user, password) := readUser (userText.getD [])
    let (host, port, behind) ← readHostAndPort rules hostText
    if host.isEmpty && !(user.isEmpty && password.isEmpty) then .error .emptyHost
    else .ok (⟨user, password, host, port⟩, pathBehind special (behind ++ pathText))

/-- The path of a file without empty segments in front. -/
def filePath (segments : List String) : Path :=
  let rest := segments.dropWhile String.isEmpty
  .rooted (if rest.isEmpty then [""] else rest)

/-- The segments of a path. -/
def segmentsOf : Path → List String
  | .rooted segments => segments
  | .rootless _ => []

/-- The drive in front of a path, with a colon. -/
def withDrive (cs : List Char) : List (List Char) :=
  match Text.splitAll isAnySlash cs with
  | [c, '|'] :: rest => if c.isAlpha then [c, ':'] :: rest else [c, '|'] :: rest
  | (c :: ':' :: d :: more) :: rest =>
    if c.isAlpha then [c, ':'] :: (d :: more) :: rest else (c :: ':' :: d :: more) :: rest
  | segments => segments

/-- The path of a file that a text leads to from the given segments. -/
def filePathFrom (segments : List String) (cs : List Char) : Path :=
  filePath (segmentsOf (.rooted (walk segments (if segments.isEmpty then withDrive cs
    else Text.splitAll isAnySlash cs))))

/-- The authority of a file on the given host. -/
def fileAuthority (host : Host) : Authority := ⟨"", "", host, none⟩

def startsWithDrive (cs : List Char) : Bool :=
  isDrive (cs.take 2) && ((cs.drop 2).isEmpty || isAnySlash ((cs.drop 2).headD ' '))

/-- Reads host and path of a file behind two slashes. -/
def readFilePlace (cs : List Char) : Except Fault (Authority × Path) := do
  let hostText := cs.takeWhile fun c => !isAnySlash c
  let pathText := cs.dropWhile fun c => !isAnySlash c
  if isDrive hostText then .ok (fileAuthority .nameless, filePathFrom [] cs)
  else
    let host ← if hostText.isEmpty then .ok Host.nameless else Host.ofDomain hostText
    let host := if host = .named "localhost" then Host.nameless else host
    .ok (fileAuthority host, filePathFrom [] (pathText.drop 1))

/-- The drive in front of a path. -/
def driveOf (path : Path) : List String := (segmentsOf path).take 1 |>.filter fun s =>
  isDrive s.toList

/-- What a file reference takes over from its base. -/
def fileHost (base : Option Url) : Host :=
  ((base.bind Url.authority).map Authority.host).getD .nameless

/-- The query of a reference. -/
def encodedQuery (rules : Rules) (query : Option (List Char)) : Option String :=
  query.map fun cs => String.ofList
    (percentEncode (if rules.isSpecial then plainInSpecialQuery else plainInQuery) cs)

def encodedFragment (fragment : Option (List Char)) : Option String :=
  fragment.map fun cs => String.ofList (percentEncode plainInFragment cs)

namespace Reference

/-- The URL with the given scheme, authority and path, and the rest of the reference. -/
def finish (r : Reference) (scheme : String) (authority : Option Authority) (path : Path) : Url :=
  ⟨scheme, authority, path, encodedQuery (rulesOf scheme) r.query, encodedFragment r.fragment⟩

/-- Reads an authority and what follows it. -/
def atAuthority (r : Reference) (scheme : String) (cs : List Char) : Except Fault Url := do
  let (authority, path) ← readAuthority (rulesOf scheme) r.goesOn cs
  .ok (r.finish scheme (some authority) path)

/-- The base with the query and the fragment of the reference. -/
def inPlace (r : Reference) (base : Url) : Url :=
  { base with
    query := if r.query.isSome then encodedQuery base.rules r.query else base.query
    fragment := encodedFragment r.fragment }

/-- Resolves a reference without a scheme against a base. -/
def relativeTo (r : Reference) (base : Url) (cs : List Char) : Except Fault Url :=
  let special := base.rules.isSpecial
  match cs with
  | [] => .ok (r.inPlace base)
  | '/' :: '/' :: rest => r.atAuthority base.scheme rest
  | c :: rest =>
    if isAnySlash c then
      if isAnySlash (rest.headD ' ') then r.atAuthority base.scheme (rest.dropWhile isAnySlash)
      else .ok (r.finish base.scheme base.authority (pathFrom special [] rest))
    else
      .ok (r.finish base.scheme base.authority
        (pathFrom special (segmentsOf base.path).dropLast (c :: rest)))

/-- Reads a reference to a file, perhaps relative to another one. -/
def file (r : Reference) (base : Option Url) (cs : List Char) : Except Fault Url := do
  match cs, base with
  | [], some base => .ok (r.inPlace base)
  | [], none => .ok (r.finish "file" (some (fileAuthority .nameless)) (.rooted [""]))
  | c :: rest, base =>
    if isAnySlash c then
      if isAnySlash (rest.headD ' ') then do
        let (authority, path) ← readFilePlace (rest.drop 1)
        .ok (r.finish "file" (some authority) path)
      else
        let drive := if startsWithDrive rest then [] else (base.map fun b => driveOf b.path).getD []
        let host := if startsWithDrive rest || !drive.isEmpty then Host.nameless else fileHost base
        .ok (r.finish "file" (some (fileAuthority host)) (filePathFrom drive rest))
    else
      match base with
      | none => .ok (r.finish "file" (some (fileAuthority .nameless)) (filePathFrom [] cs))
      | some base =>
        if startsWithDrive cs then
          .ok (r.finish "file" (some (fileAuthority .nameless)) (filePathFrom [] cs))
        else
          .ok (r.finish "file" base.authority (filePathFrom (stepUp (segmentsOf base.path)) cs))

/-- Reads what follows a scheme. -/
def behindScheme (r : Reference) (base : Option Url) (scheme : String) (cs : List Char) :
    Except Fault Url :=
  match rulesOf scheme with
  | .file => r.file (base.filter fun b => b.scheme = "file") cs
  | .special _ =>
    match base.filter fun b => b.scheme = scheme && (cs.takeWhile isAnySlash).length < 2 with
    | some base => r.relativeTo base cs
    | none => r.atAuthority scheme (cs.dropWhile isAnySlash)
  | .plain =>
    match cs with
    | '/' :: '/' :: rest => r.atAuthority scheme rest
    | '/' :: rest => .ok (r.finish scheme none (pathFrom false [] rest))
    | cs =>
      .ok (r.finish scheme none (.rootless (String.ofList (percentEncode plainInOpaque cs))))

/-- Resolves a reference, if need be against a base. -/
def resolve (r : Reference) (base : Option Url) : Except Fault Url :=
  match splitScheme? r.body, base with
  | some (scheme, rest), base => r.behindScheme base scheme rest
  | none, none => .error .relativeWithoutBase
  | none, some base =>
    if r.body.isEmpty && r.query.isNone && r.fragment.isSome then .ok (r.inPlace base)
    else if base.isRootless then .error .relativeToRootless
    else if base.rules = .file then r.file (some base) r.body
    else r.relativeTo base r.body

end Reference

namespace Url

/-- Reads an absolute URL. -/
def parse (s : String) : Except Fault Url := (Reference.ofText s.toList).resolve none

/-- Reads a URL that may be relative to another one. -/
def join (base : Url) (s : String) : Except Fault Url :=
  (Reference.ofText s.toList).resolve (some base)

end Url

end CourseLaunch.Web
