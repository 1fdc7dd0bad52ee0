import CourseLaunch.Backend.Report
import CourseLaunch.Content.Basic
import CourseLaunch.Content.Link
/-!
# Choosing content

What a picker reports when it closes, and the content that this makes. Each picker makes content
of its own form only; whatever it cannot have meant is refused.
-/

namespace CourseLaunch.Content

/-- The pickers from which content can be chosen. -/
inductive Picker where
  | url
  | course (source : Course.Source)
  | googleDrive
  | oneDrive
  | youtube
  | vitalsource
  | jstor
deriving DecidableEq, Repr

/-- The name of a picker. -/
def Picker.name : Picker → String
  | .url => "url"
  | .course source => "lms:" ++ source.key
  | .googleDrive => "google_drive"
  | .oneDrive => "one_drive"
  | .youtube => "youtube"
  | .vitalsource => "vitalsource"
  | .jstor => "jstor"

/-- The pickers that do not browse a course. -/
def Picker.others : List Picker := [.url, .googleDrive, .oneDrive, .youtube, .vitalsource, .jstor]

/-- The picker with the given name, or the key of a course source that does not exist. -/
def Picker.ofName (name : String) : Except String Picker :=
  match others.find? fun p => p.name = name with
  | some p => .ok p
  | none =>
    let key := if "lms:".isPrefixOf name then String.ofList (name.toList.drop 4) else name
    match Course.Source.ofKey? key with
    | some source => .ok (.course source)
    | none => .error key

/-- What a picker reports. -/
inductive Outcome where
  | url (url : String) (name : Option String)
  | file (entry : Course.Entry)
  | book (id : String) (location : Option String)
  | cancelled
  | failed (report : Backend.Report)
deriving Repr

/-- Why no content was chosen. -/
inductive Refusal where
  | invalidUrl (input reason : String)
  | pickerFailed (picker : Picker) (report : Backend.Report)
  | unusable (picker : Picker) (reason : String)
deriving Repr

/-- The message of a refusal. -/
def Refusal.message : Refusal → String
  | .invalidUrl input reason => "invalid URL '" ++ input ++ "': " ++ reason
  | .pickerFailed picker report =>
    picker.name ++ " picker failed: " ++ report.message.getD "unknown error"
  | .unusable picker reason =>
    picker.name ++ " picker returned an unusable result: " ++ reason

/-- The URL of a web page, or what the user is told. -/
def enteredPage (input : String) : Except Refusal Web.Url :=
  (webPage input).mapError fun fault => .invalidUrl (Text.trim input) fault.reason

/-- The URL of a chapter or of a whole book. -/
def bookUrl (id : String) : Option String → String
  | some location => "vitalsource://book/bookID/" ++ id ++ "/cfi/" ++ location
  | none => "vitalsource://book/bookID/" ++ id

/-- The content that the outcome of a picker makes, if it was not dismissed. -/
def select : Picker → Outcome → Except Refusal (Option Content)
  | _, .cancelled => .ok none
  | picker, .failed report => .error (.pickerFailed picker report)
  | .url, .url input name => (enteredPage input).map fun page => some (.url page.text name)
  | .youtube, .url input name =>
    match youtubeId? input with
    | some id => .ok (some (.url ("youtube://" ++ id) name))
    | none => .error (.invalidUrl input "Please enter a YouTube video URL")
  | .jstor, .url input name =>
    match jstorId? input with
    | some id => .ok (some (.url ("jstor://" ++ id) name))
    | none => .error (.invalidUrl input "Please enter a JSTOR article URL or DOI")
  | .googleDrive, .url input name =>
    if (Text.trim input).isEmpty then .error (.unusable .googleDrive "empty file URL")
    else .ok (some (.url input name))
  | .oneDrive, .url input name =>
    if (Text.trim input).isEmpty then .error (.unusable .oneDrive "empty file URL")
    else .ok (some (.url input name))
  | .vitalsource, .book id location => .ok (some (.url (bookUrl id location) none))
  | .course source, .file entry =>
    if entry.isFolder then .error (.unusable (.course source) "a folder cannot be assigned")
    else .ok (some (.ofEntry source entry))
  | picker, _ => .error (.unusable picker "result type does not match picker")

end CourseLaunch.Content
