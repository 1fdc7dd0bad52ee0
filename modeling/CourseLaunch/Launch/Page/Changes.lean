import CourseLaunch.Backend.Failure
import CourseLaunch.Launch.Page.Basic
/-!
# How the launch page changes

One change for each thing that can happen to a launch. A submission that could not be reported is
final: no failed fetch and no recovery takes its error away.
-/

namespace CourseLaunch.Launch
open Backend

/-- The problem behind a failed fetch. A code that the server explains counts first, then a missing
authorization, if the user can do something about it. -/
def Problem.ofFailure (f : Failure) (canAuthorize : Bool) : Problem :=
  match f.report.errorCode.bind ServerProblem.ofCode? with
  | some problem => .server problem
  | none => if canAuthorize && f.needsAuthorization then .authorizing else .fetching

namespace Page

def beginFetch (p : Page) : Page := { p with pendingFetches := p.pendingFetches + 1 }

def endFetch (p : Page) : Page := { p with pendingFetches := p.pendingFetches - 1 }

def showContent (p : Page) (url : String) : Page := { p with contentUrl := some url }

/-- Something failed that was not a submission. -/
def fail (p : Page) (problem : Problem) (report : Report) (authorizationUrl : Option String) :
    Page :=
  if p.problem = some .reportingSubmission then p
  else
    { p with
      authorizationUrl := authorizationUrl
      lastError := if problem = .authorizing then none else some report
      problem := some problem }

/-- A fetch failed. The user may try again, on the given page if there is one. -/
def failFetch (p : Page) (f : Failure) (authorizationUrl : Option String) : Page :=
  p.fail (.ofFailure f true) f.report authorizationUrl

/-- The page for authorization has no address. -/
def failAuthorization (p : Page) (f : Failure) : Page := p.fail (.ofFailure f false) f.report none

/-- A submission could not be reported. -/
def failSubmission (p : Page) (f : Failure) : Page :=
  { p with
    authorizationUrl := none
    problem := some .reportingSubmission
    lastError := some f.report }

def askAuthorization (p : Page) : Page := { p with problem := some .authorizing }

/-- The popup for authorization was blocked. -/
def blockAuthorization (p : Page) (message : String) : Page :=
  { p with lastError := some (.ofMessage message) }

def endAuthorization (p : Page) : Page := { p with authorizationUrl := none }

/-- Everything was fetched again. -/
def recover (p : Page) : Page :=
  if p.problem = some .reportingSubmission then p
  else { p with problem := none, lastError := none }

end Page

end CourseLaunch.Launch
