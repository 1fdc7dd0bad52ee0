import CourseLaunch.Backend.Report
import CourseLaunch.Launch.Problem
/-!
# The launch page

What is known about a launch, and what the page shows of it: a spinner, the content, or an error
dialog. A dialog offers an action when trying again may help.
-/

namespace CourseLaunch.Launch
open Backend

/-- What is known about a launch. -/
structure Page where
  contentUrl : Option String
  pendingFetches : Nat
  authorizationUrl : Option String
  problem : Option Problem
  lastError : Option Report
deriving Repr

namespace Page

def initial (contentUrl : Option String) : Page := ⟨contentUrl, 0, none, none, none⟩

def contentReady (p : Page) : Bool := p.contentUrl.isSome

/-- The JSON value of what is known. -/
def toJson (p : Page) : Json :=
  .object [("content_url", .ofString? p.contentUrl),
    ("pending_fetch_count", .ofNat p.pendingFetches),
    ("authorization_url", .ofString? p.authorizationUrl),
    ("error_state", .ofString? (p.problem.map Problem.code)),
    ("last_error", (p.lastError.map Report.toJson).getD .null)]

end Page

/-- What an error dialog offers to do. -/
inductive RetryAction where
  | authorize
  | tryAgain
deriving DecidableEq, Repr

/-- The name of an action. -/
def RetryAction.name : RetryAction → String
  | authorize => "authorize"
  | tryAgain => "try_again"

/-- An error dialog. Nothing is told about a missing authorization. -/
structure Dialog where
  problem : Problem
  error : Option Report
  action : Option RetryAction
deriving Repr

/-- The JSON value of a dialog. -/
def Dialog.toJson (d : Dialog) : Json :=
  .object ([("state", .string d.problem.code)] ++
    Report.field "error" (d.error.map Report.toJson) ++
    [("retry_action", .ofString? (d.action.map RetryAction.name))])

/-- What the page shows. -/
structure View where
  showSpinner : Bool
  iframeUrl : Option String
  dialog : Option Dialog
deriving Repr

namespace View

/-- The JSON value of what the page shows. -/
def toJson (v : View) : Json :=
  .object ([("show_spinner", .bool v.showSpinner)] ++
    Report.field "iframe_url" (v.iframeUrl.map .string) ++
    Report.field "error_dialog" (v.dialog.map Dialog.toJson))

end View

namespace Page

/-- The dialog about a problem. -/
def dialogFor (p : Page) (problem : Problem) : Dialog where
  problem := problem
  error := if problem = .authorizing then none else p.lastError
  action :=
    if problem.allowsRetry then
      some (if problem = .authorizing then .authorize else .tryAgain)
    else none

/-- What the page shows. Content waits for no groups. -/
def view (p : Page) : View :=
  match p.problem with
  | some problem => ⟨false, none, some (p.dialogFor problem)⟩
  | none => ⟨p.contentUrl.isNone, p.contentUrl, none⟩

end Page

end CourseLaunch.Launch
