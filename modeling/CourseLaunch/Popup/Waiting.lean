import CourseLaunch.Popup.Authorization
import CourseLaunch.Schedule.Tasks
/-!
# Waiting for an authorization

Any number of tasks wait for one authorization. The owner may let go of it; when nobody waits for it
any more, it is gone, and its popup with it.
-/

namespace CourseLaunch.Popup
open Web

/-- What a task waits for, or how it ended. -/
inductive Waiter where
  | watching (popup : Nat)
  | finished
  | blocked
  | abandoned
deriving DecidableEq, Repr

/-- Whether a waiter has not ended. -/
def Waiter.isWatching : Waiter → Bool
  | .watching _ => true
  | _ => false

/-- An authorization, and all that ever waited for it. -/
structure Waiting where
  token : String
  desktop : Desktop
  authorization : Authorization
  isOwned : Bool
  waiters : List Waiter
deriving Repr

namespace Waiting

def ofPage (page : Url) (token : String) (desktop : Desktop) : Waiting :=
  ⟨token, desktop, .ofPage page, true, []⟩

def isAlive (w : Waiting) : Bool := w.isOwned || w.waiters.any Waiter.isWatching

def isOpen (w : Waiting) : Bool := w.authorization.isOpen w.desktop

/-- Closes the popup. -/
def close (w : Waiting) : Waiting :=
  let (authorization, desktop) := w.authorization.close w.desktop
  { w with authorization := authorization, desktop := desktop }

/-- Closes the popup when the authorization is gone. -/
def reap (w : Waiting) : Waiting := if w.isAlive then w else w.close

/-- A new task asks for the authorization. -/
def authorize (w : Waiting) : Waiting :=
  let (popup, authorization, desktop) := w.authorization.openOrFocus w.token w.desktop
  let waiter := match popup with
    | some popup => .watching popup
    | none => .blocked
  { w with authorization := authorization, desktop := desktop, waiters := w.waiters ++ [waiter] }

def focus (w : Waiting) : Waiting := { w with desktop := w.authorization.focus w.desktop }

def disown (w : Waiting) : Waiting := { w with isOwned := false }.reap

/-- The popup that a task waits for. -/
def watched? (w : Waiting) (task : Nat) : Option Nat :=
  match w.waiters[task]? with
  | some (.watching popup) => some popup
  | _ => none

/-- A task looks at its popup, and ends if it is closed. -/
def look (w : Waiting) (task : Nat) : Waiting :=
  match w.watched? task with
  | some popup =>
    if w.desktop.isOpen popup then w
    else
      { w with
        authorization := w.authorization.release popup
        waiters := w.waiters.set task .finished }.reap
  | none => w

/-- A task is given up before it has ended. Its popup stays open. -/
def abandon (w : Waiting) (task : Nat) : Waiting :=
  if (w.watched? task).isSome then { w with waiters := w.waiters.set task .abandoned }.reap else w

end Waiting

/-- Every waiter is a task. -/
instance : Schedule.Tasks Waiting where
  Label := Empty
  count w := w.waiters.length
  isRunning w task := (w.watched? task).isSome
  flights _ := []
  answer w _ _ := w
  isReady _ _ := false
  wake w _ := w
  watched? := Waiting.watched?
  look := Waiting.look
  windows w := w.desktop.windows
  onDesktop w change := { w with desktop := change w.desktop }
  budget _ := 0

end CourseLaunch.Popup
