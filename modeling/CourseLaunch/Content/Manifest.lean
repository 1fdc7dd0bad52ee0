import CourseLaunch.Content.Selection
/-!
# Content manifests

What is posted back to the learning management system: one link to the launch page, with the
content in its query. Reading a manifest finds the content again.
-/

namespace CourseLaunch.Content

/-- The context that manifests name. -/
def manifestContext : String := "http://purl.imsglobal.org/ctx/lti/v1/ContentItem"

/-- The media type of a link. -/
def linkMediaType : String := "application/vnd.ims.lti.v1.ltilink"

/-- The pairs that stand for the content in the query of a link. -/
def linkPairs : Content → List (String × String)
  | .url address _ => [("url", address)]
  | .file entry => [("canvas_file", "true"), ("file_id", entry.id)]

/-- The title of a link. -/
def linkTitle : Content → Option String
  | .url _ name => name
  | .file entry => some entry.name

/-- The link to the launch page with the content in its query. -/
def linkUrl (launchUrl : Web.Url) (content : Content) (extra : List (String × String)) : Web.Url :=
  launchUrl.withPairs (linkPairs content ++ extra)

/-- The manifest of the content. -/
def manifest (launchUrl : Web.Url) (content : Content) (extra : List (String × String)) : Json :=
  let title :=
    match linkTitle content with
    | some title => [("title", .string title)]
    | none => []
  let item :=
    [("@type", .string "LtiLinkItem"), ("mediaType", .string linkMediaType)] ++ title ++
      [("url", .string (linkUrl launchUrl content extra).text)]
  .object [("@context", .string manifestContext), ("@graph", .array [.object item])]

/-- The fields of the form that posts the manifest. -/
structure Form where
  contentItems : String
  documentUrl : Option String
deriving DecidableEq, Repr

/-- The form for the content. -/
def form (launchUrl : Web.Url) (content : Content) (extra : List (String × String)) : Form where
  contentItems := (manifest launchUrl content extra).text
  documentUrl :=
    match content with
    | .url address _ => some address
    | .file _ => none

/-- What a manifest points at. -/
inductive Target where
  | url (url : String)
  | canvasFile (id : String)
deriving DecidableEq, Repr

/-- The value of the last pair with the given key. -/
def lastValue? (key : String) (pairs : List (String × String)) : Option String :=
  pairs.reverse.lookup key

/-- What the pairs of a link point at. A document counts before a file. -/
def targetOf? (pairs : List (String × String)) : Option Target :=
  match lastValue? "url" pairs with
  | some address => some (.url address)
  | none =>
    if lastValue? "canvas_file" pairs = some "true" then
      (lastValue? "file_id" pairs).map .canvasFile
    else none

/-- The link in a manifest. -/
def linkOf? (manifest : Json) : Option String := do
  let graph ← manifest.field? "@graph"
  let item ← (← graph.items?).head?
  (← item.field? "url").string?

/-- What a manifest points at, or why it points at nothing. -/
def readManifest (manifest : Json) : Except Refusal Target :=
  match linkOf? manifest with
  | none => .error (.invalidUrl "" "manifest has no link item URL")
  | some link =>
    match Web.Url.parse link with
    | .error _ => .error (.invalidUrl link "link item URL is not absolute")
    | .ok page =>
      match targetOf? page.pairs with
      | some target => .ok target
      | none => .error (.invalidUrl link "link item URL does not identify any content")

end CourseLaunch.Content
