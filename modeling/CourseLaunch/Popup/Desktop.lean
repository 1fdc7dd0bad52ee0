import CourseLaunch.Popup.Placement
import CourseLaunch.Web.Url.Basic
/-!
# The desktop

The popups that were ever opened, in order, on a screen that may refuse to open more. A popup is
closed by the user or by the page that opened it, and stays closed.
-/

namespace CourseLaunch.Popup
open Web

/-- A popup, and how often the page that opened it brought it to the front or closed it. -/
structure Window where
  address : Url
  place : Area
  isClosed : Bool
  focuses : Nat
  closes : Nat
deriving Repr

/-- A desktop. Popups are numbered in the order in which they were opened. -/
structure Desktop where
  screen : Area
  blocked : Bool
  windows : List Window
deriving Repr

namespace Desktop

def empty (screen : Area) : Desktop := ⟨screen, false, []⟩

def isOpen (d : Desktop) (popup : Nat) : Bool := d.windows[popup]?.any fun w => !w.isClosed

def modify (d : Desktop) (popup : Nat) (change : Window → Window) : Desktop :=
  { d with windows := d.windows.modify popup change }

/-- Opens a popup in the middle of the screen, unless popups are blocked. -/
def openPopup (d : Desktop) (address : Url) : Option Nat × Desktop :=
  if d.blocked then (none, d)
  else
    let window : Window := ⟨address, d.screen.centered width height, false, 0, 0⟩
    (some d.windows.length, { d with windows := d.windows ++ [window] })

/-- Brings a popup to the front. -/
def focus (d : Desktop) (popup : Nat) : Desktop :=
  d.modify popup fun w => { w with focuses := w.focuses + 1 }

/-- Closes a popup on behalf of the page that opened it. -/
def close (d : Desktop) (popup : Nat) : Desktop :=
  d.modify popup fun w => { w with isClosed := true, closes := w.closes + 1 }

/-- Closes a popup on behalf of the user. -/
def userCloses (d : Desktop) (popup : Nat) : Desktop :=
  d.modify popup fun w => { w with isClosed := true }

def block (d : Desktop) (blocked : Bool) : Desktop := { d with blocked := blocked }

end Desktop

end CourseLaunch.Popup
