import CourseLaunch.Backend.Client
import CourseLaunch.Course.Browser.Status
import CourseLaunch.Popup.Authorization
import CourseLaunch.Schedule.Tasks
/-!
# File browsers

A browser lists one folder at a time. Any number of tasks may be under way; every listing that is
asked for has a number, and only the last one counts when its answer comes, so the browser always
shows the folder that the user went to last.
-/

namespace CourseLaunch.Course
open Backend Popup

/-- What a task gives when it ends. -/
inductive Result where
  | nothing
  | authorized
  | blocked
  | emitted (entry : Option Entry)
deriving Repr

/-- What a task waits for. A listing knows its number. -/
inductive Phase where
  | watching (popup : Nat)
  | listing (number : Nat) (isReload : Bool)
  | ended
deriving DecidableEq, Repr

/-- A task, and what it will give. -/
structure Task where
  result : Result
  phase : Phase
deriving Repr

/-- A browser. Listings are numbered from one, and the last number given is kept. -/
structure Browser where
  client : Client Nat
  desktop : Desktop
  authorization : Option Authorization
  status : Status
  trail : Trail
  lastListing : Nat
  selected : Option Entry
  tasks : List Task

namespace Browser

/-- A browser that has not asked for anything. The page for authorization is the endpoint's. -/
def ofEndpoint (client : Client Nat) (desktop : Desktop) (listing : Endpoint) :
    Except Failure Browser :=
  let browser (authorization : Option Authorization) : Browser :=
    ⟨client, desktop, authorization, .fetching false, .ofListing listing, 0, none, []⟩
  match listing.authUrl with
  | none => .ok (browser none)
  | some path =>
    match client.base.join path with
    | .ok page => .ok (browser (some (.ofPage page)))
    | .error fault => .error (.unresolved path fault)

/-- The names of the folders on the way to the one that is shown. -/
def breadcrumbs (b : Browser) : List String := b.trail.names

def setPhase (b : Browser) (task : Nat) (phase : Phase) : Browser :=
  { b with tasks := b.tasks.modify task fun t => { t with phase := phase } }

/-- What a task waits for. -/
def phase? (b : Browser) (task : Nat) : Option Phase := b.tasks[task]?.map Task.phase

/-- The status after a listing was answered. -/
def statusOf (isReload : Bool) : Except Failure (List Entry) → Status
  | .ok files => .fetched files
  | .error failure =>
    if failure.needsAuthorization then .authorizing isReload else .failed failure.report

/-- Shows the outcome of a listing, unless a newer one was asked for. -/
def accept (b : Browser) (number : Nat) (status : Status) : Browser :=
  if b.lastListing = number then { b with status := status } else b

/-- Takes in what happened to a call. -/
def follow (b : Browser) (task : Nat) (progress : Progress Nat) : Browser :=
  let b := { b with client := progress.1 }
  match progress.2, b.phase? task with
  | some result, some (.listing number isReload) =>
    let files := result.bind fun r => r.decode (.list Entry.codec)
    (b.accept number (statusOf isReload files)).setPhase task .ended
  | _, _ => b

def unlisted (folder : Entry) : Report :=
  .ofMessage ("folder '" ++ folder.name ++ "' has no listing")

/-- Begins a new listing of the current folder. -/
def renew (b : Browser) (isReload : Bool) : Browser :=
  { b with
    lastListing := b.lastListing + 1
    status := .fetching isReload
    selected := none }

/-- A task asks for the listing of the current folder. -/
def fetch (b : Browser) (task : Nat) (isReload : Bool) : Browser :=
  let b := b.renew isReload
  match b.trail.current.contents with
  | none => (b.accept b.lastListing (.failed (unlisted b.trail.current))).setPhase task .ended
  | some listing =>
    let b := b.setPhase task (.listing b.lastListing isReload)
    b.follow task (b.client.begin task (.ofEndpoint listing))

/-- A new task that will give a result and has nothing to wait for yet. -/
def add (b : Browser) (result : Result) : Browser :=
  { b with tasks := b.tasks ++ [⟨result, .ended⟩] }

def nextTask (b : Browser) : Nat := b.tasks.length

def load (b : Browser) : Browser := (b.add .nothing).fetch b.nextTask false

def reload (b : Browser) : Browser := (b.add .nothing).fetch b.nextTask true

/-- Authorizes in a popup, if there is a page for that, and lists the current folder again. -/
def authorize (b : Browser) : Browser :=
  match b.authorization with
  | none => (b.add .authorized).fetch b.nextTask true
  | some authorization =>
    let (popup, authorization, desktop) :=
      authorization.openOrFocus b.client.token b.desktop
    let b := { b with authorization := some authorization, desktop := desktop }
    match popup with
    | some popup => (b.add .authorized).setPhase b.nextTask (.watching popup)
    | none => b.add .blocked

/-- Authorizes if that is what is missing, and otherwise lists the current folder again. -/
def retry (b : Browser) : Browser :=
  if b.status.isAuthorizing then b.authorize
  else (b.add .authorized).fetch b.nextTask true

/-- A task that goes to a folder and lists it. Anything that cannot be listed is ignored. -/
def visit (b : Browser) (result : Result) (folder : Entry) : Browser :=
  if folder.isFolder && folder.contents.isSome then
    ({ b with trail := b.trail.navigate folder }.add result).fetch b.nextTask false
  else b.add result

def navigate (b : Browser) (folder : Entry) : Browser := b.visit .nothing folder

/-- Highlights the first entry of the listing with the given id. -/
def select (b : Browser) (id : String) : Browser :=
  { b with selected := (b.status.files?.getD []).find? fun e => e.id = id }

/-- Takes the highlighted entry: a file is given, a folder is opened. -/
def confirm (b : Browser) : Browser :=
  match b.selected with
  | none => b.add (.emitted none)
  | some entry =>
    if entry.isFolder then b.visit (.emitted none) entry else b.add (.emitted (some entry))

/-- Highlights an entry and takes it. -/
def activate (b : Browser) (entry : Entry) : Browser := (b.select entry.id).confirm

/-- The popup that a task waits for. -/
def watched? (b : Browser) (task : Nat) : Option Nat :=
  match b.phase? task with
  | some (.watching popup) => some popup
  | _ => none

/-- A task looks at its popup. When it is closed, the current folder is listed again. -/
def look (b : Browser) (task : Nat) : Browser :=
  match b.watched? task with
  | some popup =>
    if b.desktop.isOpen popup then b
    else
      let released := b.authorization.map fun (a : Authorization) => a.release popup
      { b with authorization := released }.fetch task true
  | none => b

def answer (b : Browser) (task : Nat) (a : Answer) : Browser :=
  b.follow task (b.client.answer task a)

/-- Lets a task have its turn to refresh the credentials. -/
def wake (b : Browser) (task : Nat) : Browser := b.follow task (b.client.resume task)

def isRunning (b : Browser) (task : Nat) : Bool := (b.phase? task).any fun phase => phase ≠ .ended

end Browser

/-- The tasks of a browser. -/
instance : Schedule.Tasks Browser where
  Label := Nat
  count b := b.tasks.length
  isRunning := Browser.isRunning
  flights b := b.client.flights
  answer := Browser.answer
  isReady b task := b.client.canResume task
  wake := Browser.wake
  watched? := Browser.watched?
  look := Browser.look
  windows b := b.desktop.windows
  onDesktop b change := { b with desktop := change b.desktop }
  budget b := b.client.budget

end CourseLaunch.Course
