import CourseLaunch.Course.Source
import CourseLaunch.Endpoint
import CourseLaunch.Text.Blank
/-!
# Launch configurations

What the page is told when an assignment starts: the session token, the endpoints, the content if
it is known already, and how work is graded. A configuration is accepted when it has a token, some
way to the content, and a submission path that is not blank.
-/

namespace CourseLaunch.Launch
open Wire

/-- How the backend is called. -/
structure Access where
  authToken : String
  viaUrl : Option Endpoint
  sync : Option Endpoint
deriving Repr

/-- How a submission is reported. -/
structure Grading where
  path : String
  submissionParams : Json
  submitOnAnnotation : Bool
deriving Repr

/-- The configuration of a launch. -/
structure Config where
  api : Access
  backendUrl : Option String
  contentUrl : Option String
  grading : Option Grading
  filePicker : List (Course.Source × Endpoint)
deriving Repr

def submissionPath : String := "/api/lti/submissions"

/-- The wire form of the backend settings. -/
def Access.codec : Codec Access :=
  (Codec.record "ApiConfig" (
    .cons (.needed "authToken" .text) <|
    .cons (.optional "viaUrl" Endpoint.codec none) <|
    .cons (.optional "sync" Endpoint.codec none) .nil)).through
    (fun (authToken, viaUrl, sync, _) => ⟨authToken, viaUrl, sync⟩)
    (fun b => (b.authToken, b.viaUrl, b.sync, ()))

/-- The wire form of the grading settings. -/
def Grading.codec : Codec Grading :=
  (Codec.record "GradingConfig" (
    .cons (.defaulted "path" .text submissionPath) <|
    .cons (.needed "submissionParams" .any) <|
    .cons (.defaulted "submitOnAnnotation" .flag false) .nil)).through
    (fun (path, params, deferred, _) => ⟨path, params, deferred⟩)
    (fun g => (g.path, g.submissionParams, g.submitOnAnnotation, ()))

namespace Config

/-- The field with the endpoints that list files. -/
def filePickerField : Wire.Field (List (Course.Source × Endpoint)) :=
  ⟨"filePicker", none, .keyed Course.Source.choice Endpoint.codec, some [], List.isEmpty⟩

/-- The wire form. -/
def codec : Codec Config :=
  (Codec.record "LaunchConfig" (
    .cons (.needed "api" Access.codec) <|
    .cons (.optional "backendUrl" .text none) <|
    .cons (.optional "contentUrl" .text none) <|
    .cons (.optional "grading" Grading.codec none) <|
    .cons filePickerField .nil)).through
    (fun (api, backendUrl, contentUrl, grading, filePicker, _) =>
      ⟨api, backendUrl, contentUrl, grading, filePicker⟩)
    (fun c => (c.api, c.backendUrl, c.contentUrl, c.grading, c.filePicker, ()))

/-- The endpoint that lists the files of a source. -/
def listFiles (c : Config) (source : Course.Source) : Option Endpoint :=
  c.filePicker.lookup source

/-- A rule that a configuration breaks. -/
inductive Flaw where
  | emptyToken
  | noContent
  | emptyGradingPath
deriving DecidableEq, Repr

/-- What is wrong. -/
def Flaw.message : Flaw → String
  | .emptyToken => "api.authToken is empty"
  | .noContent => "neither contentUrl nor api.viaUrl is set"
  | .emptyGradingPath => "grading.path is empty"

/-- How to mend it. -/
def Flaw.suggestion : Flaw → String
  | .emptyToken => "Render the session token into the launch configuration"
  | .noContent => "Provide the content URL directly or an endpoint that resolves it"
  | .emptyGradingPath => "Omit grading.path to use the default submission endpoint"

def isBlankText (s : String) : Bool := (Text.trim s).isEmpty

/-- The first rule that the configuration breaks. -/
def flaw? (c : Config) : Option Flaw :=
  if isBlankText c.api.authToken then some .emptyToken
  else if c.contentUrl.isNone && c.api.viaUrl.isNone then some .noContent
  else if c.grading.any fun g => isBlankText g.path then some .emptyGradingPath
  else none

/-- Why the file of a configuration could not be read. -/
inductive FileFault where
  | missing
  | directory
  | notText
  | refused (reason : String) (code : Nat)
deriving DecidableEq, Repr

/-- A message of the operating system with its number. -/
def systemText (reason : String) (code : Nat) : String :=
  reason ++ " (os error " ++ toString code ++ ")"

/-- The message of a file fault. -/
def FileFault.text : FileFault → String
  | .missing => systemText "No such file or directory" 2
  | .directory => systemText "Is a directory" 21
  | .notText => "stream did not contain valid UTF-8"
  | .refused reason code => systemText reason code

/-- Why there is no configuration. -/
inductive Error where
  | unreadable (path : String) (fault : FileFault)
  | malformed (origin : String) (fault : String)
  | invalid (flaw : Flaw)
deriving DecidableEq, Repr

/-- The message of an error. -/
def Error.message : Error → String
  | .unreadable path fault =>
    "failed to read launch configuration " ++ path ++ ": " ++ fault.text
  | .malformed origin fault => "invalid launch configuration JSON in " ++ origin ++ ": " ++ fault
  | .invalid flaw =>
    "invalid launch configuration: " ++ flaw.message ++ "\n  Suggestion: " ++ flaw.suggestion

/-- The message of what lies behind an error, if it is not the error itself. -/
def Error.cause? : Error → Option String
  | .unreadable _ fault => some fault.text
  | .malformed _ fault => some fault
  | .invalid _ => none

/-- Reads and checks a configuration. The origin says in messages where the text is from. -/
def ofText (origin text : String) : Except Error Config :=
  match codec.ofText text with
  | .error fault => .error (.malformed origin (fault.text (Json.Source.ofString text)))
  | .ok c =>
    match c.flaw? with
    | some flaw => .error (.invalid flaw)
    | none => .ok c

/-- What messages call a text that is from no file. -/
def inlineOrigin : String := "inline configuration"

/-- Reads and checks a configuration that is from no file. -/
def ofJsonText (text : String) : Except Error Config := ofText inlineOrigin text

/-- Reads and checks a configuration that was found in a file. -/
def ofFile (path : String) : Except FileFault (List UInt8) → Except Error Config
  | .error fault => .error (.unreadable path fault)
  | .ok bytes =>
    match Text.ofOctets? bytes with
    | none => .error (.unreadable path .notText)
    | some text => ofText path text

end Config

end CourseLaunch.Launch
