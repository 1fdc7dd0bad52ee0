import CourseLaunch.Activity.Channel
import CourseLaunch.Backend.Client
import CourseLaunch.Launch.Config
import CourseLaunch.Launch.Page.Changes
import CourseLaunch.Launch.Task
import CourseLaunch.Popup.Authorization
import CourseLaunch.Schedule.Tasks
/-!
# Launch sessions

One launch, with any number of tasks under way. Every function takes one task as far as it can go
without waiting, so that whatever it reads of the page is still true when it writes.
-/

namespace CourseLaunch.Launch
open Activity Backend Popup Wire

/-- A session. Tasks are numbered in the order in which they were started. -/
structure Session where
  config : Config
  client : Client CallId
  desktop : Desktop
  channel : Channel
  groups : Option (List String)
  page : Page
  authorization : Option Authorization
  isSubmitted : Bool
  tasks : List Task

/-- The wire form of the reply that tells the address of the content. -/
def contentReply : Codec String :=
  (Codec.record "ViaUrlResponse" (.cons (.needed "via_url" .text) .nil)).through
    (fun (url, _) => url) (fun url => (url, ()))

/-- The wire form of the reply that tells the groups. -/
def groupsReply : Codec (List String) := .list .text

namespace Session

/-- A session in which nothing was started. -/
def ofConfig (config : Config) (client : Client CallId) (desktop : Desktop) : Session :=
  ⟨config, client, desktop, .fresh, none, .initial config.contentUrl, none, false, []⟩

/-- Whether the submission waits for annotation activity. -/
def submitsOnAnnotation (s : Session) : Bool := s.config.grading.any Grading.submitOnAnnotation

/-- The endpoint of a fetch. -/
def endpoint? (s : Session) : Part → Option Endpoint
  | .content => s.config.api.viaUrl
  | .groups => s.config.api.sync
  | .submission => none

def onPage (s : Session) (change : Page → Page) : Session := { s with page := change s.page }

def onTask (s : Session) (task : Nat) (change : Task → Task) : Session :=
  { s with tasks := s.tasks.modify task change }

/-! ## Fetches -/

/-- A fetch ends. The error goes away when it was the last one of a successful retry. -/
def finishFetch (s : Session) (task : Nat) (part : Part) (ok : Bool) : Session :=
  let s := s.onTask task (Task.mapRound fun round => round.finish part ok)
  if s.tasks[task]?.any Task.hasRecovered then s.onPage Page.recover else s

/-- Takes in the reply to a fetch that was successful. -/
def accept (s : Session) (part : Part) (r : Reply) : Except Failure Session :=
  match part with
  | .content => (r.decode contentReply).map fun url => s.onPage fun page => page.showContent url
  | .groups => (r.decode groupsReply).map fun groups => { s with groups := some groups }
  | .submission => (r.decode .any).map fun _ => s

/-- Takes in the result of a fetch. -/
def concludeFetch (s : Session) (task : Nat) (part : Part) (result : Except Failure Reply) :
    Session :=
  match result.bind (s.accept part) with
  | .ok accepted => (accepted.onPage Page.endFetch).finishFetch task part true
  | .error failure =>
    let authorizationUrl := (s.endpoint? part).bind Endpoint.authUrl
    ((s.onPage fun page => page.failFetch failure authorizationUrl).onPage
      Page.endFetch).finishFetch task part false

/-! ## Calls -/

/-- Takes in the result of a submission. -/
def concludeSubmission (s : Session) (task : Nat) (result : Except Failure Reply) : Session :=
  let s := s.onTask task (Task.setReporter .ended)
  match result.bind (s.accept .submission) with
  | .ok accepted => accepted
  | .error failure => s.onPage fun page => page.failSubmission failure

/-- Takes in what happened to a call. -/
def follow (s : Session) (id : CallId) (progress : Progress CallId) : Session :=
  let s := { s with client := progress.1 }
  match progress.2 with
  | none => s
  | some result =>
    if id.part = .submission then s.concludeSubmission id.task result
    else s.concludeFetch id.task id.part result

def call (s : Session) (id : CallId) (request : Request) : Session :=
  s.follow id (s.client.begin id request)

/-- A task begins a fetch. There is nothing to do without an endpoint. -/
def beginFetch (s : Session) (task : Nat) (part : Part) : Session :=
  match s.endpoint? part with
  | none => s.finishFetch task part true
  | some e => (s.onPage Page.beginFetch).call ⟨task, part⟩ (.ofEndpoint e)

def beginRound (s : Session) (task : Nat) : Session :=
  (s.beginFetch task .content).beginFetch task .groups

/-! ## The submission -/

/-- A task reports the submission, unless that was done before. -/
def submit (s : Session) (task : Nat) : Session :=
  match s.config.grading with
  | none => s.onTask task (Task.setReporter .ended)
  | some grading =>
    if s.isSubmitted then s.onTask task (Task.setReporter .ended)
    else
      ({ s with isSubmitted := true }.onTask task (Task.setReporter .submitting)).call
        ⟨task, .submission⟩ (.post grading.path grading.submissionParams)

def unsubscribe (s : Session) (receiver : Nat) : Session :=
  { s with channel := s.channel.unsubscribe receiver }

/-- A task receives annotation activity until it has to wait, at most so many times. Work that can
be graded makes it submit, and without a sender it gives up. -/
def listen : Nat → Session → Nat → Nat → Session
  | 0, s, _, _ => s
  | patience + 1, s, task, receiver =>
    match s.channel.receive? receiver with
    | some (.event e, channel) =>
      let s := { s with channel := channel }
      if e.qualifies then (s.unsubscribe receiver).submit task
      else listen patience s task receiver
    | some (.lagged _, channel) => listen patience { s with channel := channel } task receiver
    | some (.closed, _) => (s.unsubscribe receiver).onTask task (Task.setReporter .ended)
    | _ => s

/-- A reporter goes on as far as it can, and receives at most so many times. Nothing is submitted
before the content is known. -/
def reportFor (s : Session) (task patience : Nat) : Session :=
  match s.tasks[task]?.bind Task.reporter? with
  | some (.awaitingContent receiver) =>
    if s.page.contentReady then
      match receiver with
      | some receiver =>
        (s.onTask task (Task.setReporter (.listening receiver))).listen patience task receiver
      | none => s.submit task
    else s
  | some (.listening receiver) => s.listen patience task receiver
  | _ => s

/-- A reporter goes on as far as it can. -/
def report (s : Session) (task : Nat) : Session := s.reportFor task s.channel.backlog

/-- A task begins to report the submission. It subscribes to annotation activity first. -/
def beginReport (s : Session) (task : Nat) : Session :=
  match s.config.grading with
  | none => s.onTask task (Task.setReporter .ended)
  | some grading =>
    if grading.submitOnAnnotation then
      let (receiver, channel) := s.channel.subscribe
      ({ s with channel := channel }.onTask task
        (Task.setReporter (.awaitingContent (some receiver)))).report task
    else (s.onTask task (Task.setReporter (.awaitingContent none))).report task

/-- Whether a reporter can go on. -/
def canReport (s : Session) (task : Nat) : Bool :=
  match s.tasks[task]?.bind Task.reporter? with
  | some (.awaitingContent _) => s.page.contentReady
  | some (.listening receiver) => s.channel.hasNews receiver
  | _ => false

/-! ## Authorization -/

/-- The page for authorization at an address, ready to be opened. Another page that was open is
closed. -/
def turnTo (s : Session) (path : String) : Except Failure (Authorization × Session) :=
  match s.client.base.join path with
  | .error fault => .error (.unresolved path fault)
  | .ok page =>
    match s.authorization with
    | none => .ok (.ofPage page, s)
    | some current =>
      if current.page = page then .ok (current, s)
      else .ok (.ofPage page, { s with desktop := (current.close s.desktop).2 })

/-- A task asks the user to authorize at an address. -/
def authorize (s : Session) (task : Nat) (path : String) : Session :=
  let s := s.onPage Page.askAuthorization
  match s.turnTo path with
  | .error failure => s.onPage fun page => page.failAuthorization failure
  | .ok (authorization, s) =>
    let (popup, opened, desktop) := authorization.openOrFocus s.client.token s.desktop
    let s := { s with authorization := some opened, desktop := desktop }
    match popup with
    | some popup => s.onTask task fun _ => .authorizing popup
    | none => s.onPage fun page => page.blockAuthorization opened.blockedMessage

/-- A task fetches everything again. -/
def recover (s : Session) (task : Nat) : Session :=
  (s.onTask task fun _ => .recovering .begun).beginRound task

/-- A task tries again, if that may help. The user authorizes first when there is a page for it. -/
def tryAgain (s : Session) (task : Nat) : Session :=
  if s.page.problem.any fun problem => !problem.allowsRetry then s
  else
    match s.page.authorizationUrl with
    | some path => s.authorize task path
    | none => s.recover task

def watched? (s : Session) (task : Nat) : Option Nat := s.tasks[task]?.bind Task.watched?

/-- A task looks at its popup. When it is closed, everything is fetched again. -/
def look (s : Session) (task : Nat) : Session :=
  match s.watched? task with
  | none => s
  | some popup =>
    if s.desktop.isOpen popup then s
    else
      let released := s.authorization.map fun (a : Authorization) => a.release popup
      ({ s with authorization := released }.onPage Page.endAuthorization).recover task

/-- The page is left: an open popup is closed. -/
def close (s : Session) : Session :=
  match s.authorization with
  | none => s
  | some authorization =>
    let (closed, desktop) := authorization.close s.desktop
    { s with authorization := some closed, desktop := desktop }

/-! ## Tasks -/

def nextTask (s : Session) : Nat := s.tasks.length

def add (s : Session) (task : Task) : Session := { s with tasks := s.tasks ++ [task] }

/-- A new task fetches the content and the groups. -/
def fetchAll (s : Session) : Session := (s.add (.fetching .begun)).beginRound s.nextTask

/-- A new task tries again. -/
def retry (s : Session) : Session := (s.add .abandoned).tryAgain s.nextTask

/-- A new task reports the submission. -/
def reportSubmission (s : Session) : Session :=
  (s.add (.reporting .starting)).beginReport s.nextTask

/-- A new task fetches the content and the groups, and reports the submission. -/
def run (s : Session) : Session :=
  ((s.add (.running .begun .starting)).beginRound s.nextTask).beginReport s.nextTask

def answer (s : Session) (id : CallId) (a : Answer) : Session :=
  s.follow id (s.client.answer id a)

/-- Lets a call have its turn to refresh the credentials. -/
def resume (s : Session) (id : CallId) : Session := s.follow id (s.client.resume id)

def callIds (task : Nat) : List CallId := [⟨task, .content⟩, ⟨task, .groups⟩, ⟨task, .submission⟩]

/-- Lets a task go on without an answer. -/
def wake (s : Session) (task : Nat) : Session := ((callIds task).foldl resume s).report task

/-- Whether a task can go on without an answer. -/
def isReady (s : Session) (task : Nat) : Bool :=
  (callIds task).any s.client.canResume || s.canReport task

def isRunning (s : Session) (task : Nat) : Bool := s.tasks[task]?.any Task.isRunning

/-- A bound on the events before every task waits for the user: each reporter may go on once, and
one of them may make one more call. -/
def budget (s : Session) : Nat := s.client.budget + s.tasks.length + Client.eventsPerCall

end Session

/-- The tasks of a session. -/
instance : Schedule.Tasks Session where
  Label := CallId
  count s := s.tasks.length
  isRunning := Session.isRunning
  flights s := s.client.flights
  answer := Session.answer
  isReady := Session.isReady
  wake := Session.wake
  watched? := Session.watched?
  look := Session.look
  windows s := s.desktop.windows
  onDesktop s change := { s with desktop := change s.desktop }
  budget := Session.budget

end CourseLaunch.Launch
