import CourseLaunch.Command.Arguments
import CourseLaunch.Course.Browser.Session
import CourseLaunch.Json.Printer
import CourseLaunch.Launch.Session
/-!
# Running the program

A launch is fetched, tried again as long as the user may do something about the error, and then
reported. Files are listed folder by folder. At a popup the program shows its address and waits
until the user presses Enter or the input ends.
-/

namespace CourseLaunch.Command
open Backend Course Launch Popup Schedule

/-- Why a command was not carried out. -/
inductive Trouble where
  | badConfig (error : Config.Error)
  | noBackend
  | badBackend (backend : String) (fault : Web.Fault)
  | noListing (source : Source)
  | badAuthorization (failure : Failure)
  | noFolder (id parent : String)
deriving Repr

namespace Trouble

/-- What is told about a trouble. -/
def message : Trouble → String
  | badConfig error => error.message
  | noBackend =>
    "no backend URL configured\n  Suggestion: Pass --backend-url or set backendUrl in the " ++
      "configuration"
  | badBackend backend _ => "invalid backend URL '" ++ backend ++ "'"
  | noListing source =>
    "no file picker endpoint configured for " ++ source.label ++
      "\n  Suggestion: Add filePicker." ++ source.key ++ " to the configuration"
  | badAuthorization failure => failure.message
  | noFolder id parent => "folder '" ++ id ++ "' not found in '" ++ parent ++ "'"

/-- What lies behind a trouble. -/
def cause? : Trouble → Option String
  | badConfig error => error.cause?
  | badBackend _ fault => some fault.text
  | badAuthorization (.unresolved _ fault) => some fault.text
  | _ => none

/-- The lines of a text behind the first, each moved to the right. -/
def shifted (s : String) : String :=
  String.ofList (s.toList.flatMap fun c => if c = '\n' then "\n    ".toList else [c])

/-- A trouble as it is printed, with what lies behind it. -/
def text (t : Trouble) : String :=
  "Error: " ++ t.message ++
    match t.cause? with
    | some cause => "\n\nCaused by:\n    " ++ shifted cause ++ "\n"
    | none => "\n"

end Trouble

/-- What a run leaves behind: the addresses at which the user was asked to authorize, what was
printed, and the exit status. -/
structure Transcript where
  addresses : List Web.Url
  output : String
  complaint : String
  status : Nat

/-- The status when the page or the browser shows an error at the end. -/
def unresolvedStatus : Nat := 2

/-- A run that ends in trouble. -/
def Transcript.ofTrouble (addresses : List Web.Url) (t : Trouble) : Transcript :=
  ⟨addresses, "", t.text, 1⟩

/-- How the user is asked to authorize. -/
def prompt (address : Web.Url) : String :=
  "Authorization required. Open this URL in a browser, finish signing in, then press Enter:\n  " ++
    address.text ++ "\n"

/-- All that was printed for the user to read at once. -/
def Transcript.messages (t : Transcript) : String :=
  String.join (t.addresses.map prompt) ++ t.complaint

def printed (j : Json) : String := j.indented ++ "\n"

/-! ## Attending to tasks -/

section Attend

variable {σ : Type} [Tasks σ]

/-- The user closes the popup that a task waits for. -/
def dismissFor (state : σ) (task : Nat) : σ :=
  match Tasks.watched? state task with
  | some popup => Tasks.look (Tasks.onDesktop state fun d => d.userCloses popup) task
  | none => state

/-- The user closes every popup that a task waits for. -/
def dismiss (state : σ) : σ := (List.range (Tasks.count state)).foldl dismissFor state

/-- Something happens, and the program waits until all tasks have ended. -/
def attend (network : Network) (s : Scene σ) (event : σ → σ) : Scene σ :=
  let waiting := { s with state := event s.state }.settle network
  { waiting with state := dismiss waiting.state }.settle network

/-- The addresses of the popups that were opened. -/
def addresses (state : σ) : List Web.Url := (Tasks.windows state).map Window.address

end Attend

/-- The desktop of a terminal, which has no screen. -/
def terminal : Desktop := .empty ⟨0, 0, 0, 0⟩

/-! ## Launching -/

/-- Tries again until there is no error, or none that the user can do something about. -/
def retryUpTo (network : Network) : Nat → Scene Session → Scene Session
  | 0, s => s
  | attempts + 1, s =>
    if s.state.page.view.dialog.any fun dialog => dialog.action.isSome then
      retryUpTo network attempts (attend network s Session.retry)
    else s

/-- Whether a launch is to be reported now. -/
def mayReport (s : Session) : Bool :=
  s.page.contentReady && s.page.view.dialog.isNone && !s.submitsOnAnnotation

/-- A launch from the first fetch to the last popup. -/
def launchAll (network : Network) (maxAttempts : Nat) (s : Session) : Session :=
  let fetched := attend network ⟨s, 0⟩ Session.fetchAll
  let tried := retryUpTo network maxAttempts fetched
  let reported :=
    if mayReport tried.state then attend network tried Session.reportSubmission else tried
  reported.state.close

/-- What is told at the end of a launch. -/
def launchTranscript (s : Session) : Transcript :=
  let view := s.page.view
  ⟨addresses s, printed view.toJson, "", if view.dialog.isSome then unresolvedStatus else 0⟩

/-! ## Listing files -/

/-- The user authorizes if that is what is missing. -/
def authorizeIfNeeded (network : Network) (s : Scene Browser) : Scene Browser :=
  if s.state.status.isAuthorizing then attend network s Browser.authorize else s

/-- Opens folders one after the other, as long as there is a listing to find them in. -/
def openAll (network : Network) : List String → Scene Browser → Scene Browser × Option Trouble
  | [], s => (s, none)
  | id :: ids, s =>
    match s.state.status with
    | .fetched files =>
      match files.find? fun e => e.id = id && e.isFolder with
      | some folder =>
        openAll network ids
          (authorizeIfNeeded network (attend network s fun b => b.navigate folder))
      | none => (s, some (.noFolder id s.state.trail.current.name))
    | _ => (s, none)

/-- The browser after all folders were opened, or the trouble on the way. -/
def browseAll (network : Network) (folders : List String) (b : Browser) :
    Browser × Option Trouble :=
  let loaded := authorizeIfNeeded network (attend network ⟨b, 0⟩ Browser.load)
  let (opened, trouble) := openAll network folders loaded
  (opened.state, trouble)

/-- What is told when a browser is where the user wanted it to be. -/
def browserTranscript (b : Browser) : Transcript :=
  match b.status with
  | .fetched files => ⟨addresses b, printed (.array (files.map Entry.codec.write)), "", 0⟩
  | .failed error => ⟨addresses b, printed error.toJson, "", unresolvedStatus⟩
  | _ => ⟨addresses b, "", "", unresolvedStatus⟩

/-! ## Commands -/

/-- The base of the backend. An option on the command line counts before the configuration. -/
def backendBase (i : Invocation) (config : Config) : Except Trouble Web.Url :=
  match i.backendUrl.or config.backendUrl with
  | none => .error .noBackend
  | some backend => (Web.Url.parse backend).mapError (.badBackend backend)

/-- The session of a launch. -/
def launchSession (i : Invocation) (config : Config) : Except Trouble Session :=
  (backendBase i config).map fun base =>
    .ofConfig config (.fresh base config.api.authToken) terminal

/-- The browser of a source. -/
def sourceBrowser (i : Invocation) (source : Source) (config : Config) :
    Except Trouble Browser :=
  match config.listFiles source with
  | none => .error (.noListing source)
  | some listing =>
    match backendBase i config with
    | .error t => .error t
    | .ok base =>
      (Browser.ofEndpoint (.fresh base config.api.authToken) terminal listing).mapError
        .badAuthorization

/-- Carries out a job with a configuration. -/
def perform (network : Network) (i : Invocation) (config : Config) : Transcript :=
  match i.job with
  | .launch maxAttempts =>
    match launchSession i config with
    | .error t => .ofTrouble [] t
    | .ok s => launchTranscript (launchAll network maxAttempts s)
  | .files source folders =>
    match sourceBrowser i source config with
    | .error t => .ofTrouble [] t
    | .ok b =>
      match browseAll network folders b with
      | (b, some t) => .ofTrouble (addresses b) t
      | (b, none) => browserTranscript b

/-- Carries out a job with the file that holds its configuration. -/
def run (network : Network) (i : Invocation) (file : Except Config.FileFault (List UInt8)) :
    Transcript :=
  match Config.ofFile i.config file with
  | .error e => .ofTrouble [] (.badConfig e)
  | .ok config => perform network i config

/-! ## Without a command -/

/-- One option a line. -/
def optionLines (options : List Opt) : String := String.join (options.map fun o => "\n  " ++ o.text)

/-- The options of a command, those first that have to be given. -/
def commandLines (command : String) : String :=
  "\n\nOptions of " ++ command ++ ":" ++
    optionLines ((ownOptions command).1 ++ (ownOptions command).2)

/-- How the program is used. -/
def helpText : String :=
  "Usage: " ++ program ++ " [OPTIONS] <COMMAND>\n\nCommands: " ++ ", ".intercalate commands ++
    "\n\nOptions:" ++ optionLines outer.options ++ commandLines "launch" ++
    commandLines "files" ++ "\n"

/-- What is told when there is no job. -/
def Transcript.ofStop : Stop → Transcript
  | .usage error => ⟨[], "", "error: " ++ error.message ++ "\n\n" ++ helpText, 2⟩
  | .idle => ⟨[], "", helpText, 2⟩
  | .help => ⟨[], helpText, "", 0⟩
  | .version => ⟨[], program ++ " " ++ version ++ "\n", "", 0⟩

end CourseLaunch.Command
