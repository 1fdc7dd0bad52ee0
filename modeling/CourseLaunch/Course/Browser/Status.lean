import CourseLaunch.Backend.Report
import CourseLaunch.Course.Trail
/-!
# The state of a file browser

A browser waits for a listing, shows one, asks the user to authorize, or tells what went wrong.
What it shows decides which one action it offers.
-/

namespace CourseLaunch.Course
open Backend

/-- What a browser shows in place of a listing, or the listing. -/
inductive Status where
  | fetching (isReload : Bool)
  | fetched (files : List Entry)
  | authorizing (isRetry : Bool)
  | failed (error : Report)
deriving Repr

/-- Whether the user has to authorize. -/
def Status.isAuthorizing : Status → Bool
  | .authorizing _ => true
  | _ => false

/-- The listing, if there is one. -/
def Status.files? : Status → Option (List Entry)
  | .fetched files => some files
  | _ => none

/-- The main action that a browser offers. -/
inductive Action where
  | select
  | openFolder
  | reload
  | authorize
  | tryAgain
deriving DecidableEq, Repr

/-- The name of an action. -/
def Action.name : Action → String
  | select => "select"
  | openFolder => "open"
  | reload => "reload"
  | authorize => "authorize"
  | tryAgain => "try_again"

/-- The action that a status calls for, and whether it can be used now. -/
def Status.action (status : Status) (selected : Option Entry) : Option Action × Bool :=
  match status with
  | .fetching _ => (none, false)
  | .fetched [] => (some .reload, true)
  | .fetched _ =>
    match selected with
    | some entry => (some (if entry.isFolder then .openFolder else .select), true)
    | none => (some .select, false)
  | .authorizing false => (some .authorize, true)
  | .authorizing true => (some .tryAgain, true)
  | .failed _ => (some .tryAgain, true)

end CourseLaunch.Course
