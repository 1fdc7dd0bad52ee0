/-!
# The tasks of a launch

A task fetches the content and the groups in one round, reports the submission, or does both. A
retry may wait for a popup before its round.
-/

namespace CourseLaunch.Launch

/-- What a call of a launch is for. -/
inductive Part where
  | content
  | groups
  | submission
deriving DecidableEq, Repr

/-- The call of a task. -/
structure CallId where
  task : Nat
  part : Part
deriving DecidableEq, Repr

/-- Two fetches side by side. A fetch that has ended knows whether it was successful. -/
structure Round where
  content : Option Bool
  groups : Option Bool
deriving DecidableEq, Repr

namespace Round

def begun : Round := ⟨none, none⟩

/-- Whether both fetches were successful, once both have ended. -/
def outcome? (r : Round) : Option Bool :=
  match r.content, r.groups with
  | some content, some groups => some (content && groups)
  | _, _ => none

/-- A fetch ends. -/
def finish (r : Round) (part : Part) (ok : Bool) : Round :=
  match part with
  | .content => { r with content := some ok }
  | .groups => { r with groups := some ok }
  | .submission => r

end Round

/-- How far the report of a submission has come. It may hold a receiver of annotation activity. -/
inductive Reporter where
  | starting
  | awaitingContent (receiver : Option Nat)
  | listening (receiver : Nat)
  | submitting
  | ended
deriving DecidableEq, Repr

/-- A task. -/
inductive Task where
  | fetching (round : Round)
  | reporting (reporter : Reporter)
  | running (round : Round) (reporter : Reporter)
  | authorizing (popup : Nat)
  | recovering (round : Round)
  | abandoned
deriving DecidableEq, Repr

namespace Task

/-- The round of a task. -/
def round? : Task → Option Round
  | fetching round | running round _ | recovering round => some round
  | _ => none

/-- The reporter of a task. -/
def reporter? : Task → Option Reporter
  | reporting reporter | running _ reporter => some reporter
  | _ => none

/-- The popup that a task waits for. -/
def watched? : Task → Option Nat
  | authorizing popup => some popup
  | _ => none

/-- Changes the round of a task. -/
def mapRound (change : Round → Round) : Task → Task
  | fetching round => fetching (change round)
  | running round reporter => running (change round) reporter
  | recovering round => recovering (change round)
  | task => task

/-- Sets the reporter of a task. -/
def setReporter (reporter : Reporter) : Task → Task
  | reporting _ => reporting reporter
  | running round _ => running round reporter
  | task => task

/-- Whether a task has not ended. -/
def isRunning : Task → Bool
  | authorizing _ => true
  | task =>
    task.round?.any (fun round => round.outcome?.isNone) ||
      task.reporter?.any fun reporter => reporter ≠ .ended

/-- Whether a retry has fetched everything again. -/
def hasRecovered : Task → Bool
  | recovering round => round.outcome? = some true
  | _ => false

end Task

end CourseLaunch.Launch
