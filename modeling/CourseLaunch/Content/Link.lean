import CourseLaunch.Text.Blank
import CourseLaunch.Web.Url.Reader
/-!
# Links that users enter

Web pages, YouTube videos and JSTOR articles, from what a user typed or pasted. White space around
the text does not count.
-/

namespace CourseLaunch.Content

/-- Why a text is not the URL of a web page. -/
inductive PageFault where
  | noUrl
  | otherScheme
  | noHost
deriving DecidableEq, Repr

/-- What the user is told. -/
def PageFault.reason : PageFault → String
  | .noUrl => "Please enter a URL, e.g. \"https://www.example.com\""
  | .otherScheme => "Please use a URL that starts with \"http\" or \"https\""
  | .noHost => "The URL has no host name"

/-- The URL of a web page. -/
def webPage (input : String) : Except PageFault Web.Url :=
  match Web.Url.parse (Text.trim input) with
  | .error _ => .error .noUrl
  | .ok url =>
    if url.scheme = "http" ∨ url.scheme = "https" then
      if url.host?.isSome then .ok url else .error .noHost
    else .error .otherScheme

/-- Removes a text from the front as often as it stands there. -/
def stripFront (part : List Char) (cs : List Char) : List Char :=
  match part with
  | [] => cs
  | p :: ps =>
    if (p :: ps).isPrefixOf cs then stripFront (p :: ps) (cs.drop (p :: ps).length) else cs
termination_by cs.length
decreasing_by
  rename_i h
  have hlen : (p :: ps).length ≤ cs.length := (List.isPrefixOf_iff_prefix.mp h).length_le
  simp only [List.length_drop, List.length_cons] at *
  omega

/-- Removes a text from the end as often as it stands there. -/
def stripEnd (part : List Char) (cs : List Char) : List Char :=
  (stripFront part.reverse cs.reverse).reverse

/-- The host of a URL without a part in front of it. -/
def hostWithout (part : String) (host : String) : String :=
  String.ofList (stripFront part.toList host.toList)

/-- The segments of a URL's path that are not empty. -/
def fullSegments? (url : Web.Url) : Option (List String) :=
  url.path.segments?.map fun segments => segments.filter fun s => !s.isEmpty

def isVideoChar (c : Char) : Bool := c.isAlphanum || c == '-' || c == '_'

def isVideoId (id : String) : Bool := !id.isEmpty && id.toList.all isVideoChar

/-- The id in the URL of a video, before it is checked. -/
def videoIn? (url : Web.Url) (host : String) (segments : List String) : Option String :=
  if host = "youtu.be" then segments.head?
  else if host = "youtube.com" ∨ host = "youtube-nocookie.com" then
    match segments with
    | kind :: rest =>
      if kind = "watch" then url.pairs.lookup "v"
      else if kind = "embed" ∨ kind = "shorts" ∨ kind = "live" ∨ kind = "v" then rest.head?
      else none
    | [] => none
  else none

/-- The id of a YouTube video. -/
def youtubeId? (input : String) : Option String := do
  let url ← (Web.Url.parse (Text.trim input)).toOption
  let host ← url.host?
  let segments ← fullSegments? url
  (videoIn? url (hostWithout "m." (hostWithout "www." host)) segments).filter isVideoId

def isNumeric (s : String) : Bool := !s.isEmpty && s.toList.all Char.isDigit

def startsLikeDoi (s : String) : Bool := ['1', '0', '.'].isPrefixOf s.toList

/-- The id in the path of an article. -/
def articleIn? : List String → Option String
  | "stable" :: second :: rest =>
    let file := rest.head?.map fun f => String.ofList (stripEnd ['.', 'p', 'd', 'f'] f.toList)
    match if second = "pdf" then file.filter isNumeric else none with
    | some id => some id
    | none =>
      if isNumeric second then some second
      else if startsLikeDoi second then rest.head?.map fun third => second ++ "/" ++ third
      else none
  | _ => none

/-- The id of a JSTOR article: its number, or the name of a digital object. -/
def jstorId? (input : String) : Option String :=
  let trimmed := Text.trim input
  if isNumeric trimmed then some trimmed
  else if startsLikeDoi trimmed && trimmed.toList.contains '/' then some trimmed
  else do
    let url ← (Web.Url.parse trimmed).toOption
    let host ← url.host?
    if hostWithout "www." host = "jstor.org" then
      let segments ← fullSegments? url
      articleIn? segments
    else none

end CourseLaunch.Content
