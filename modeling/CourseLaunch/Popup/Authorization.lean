import CourseLaunch.Popup.Desktop
/-!
# Authorization in a popup

The user authorizes on a page of the backend, in at most one popup at a time. Nothing is read from
the popup: the authorization is over when it is closed. Asking again while it is open brings it to
the front.
-/

namespace CourseLaunch.Popup
open Web

/-- A page for authorization, and the popup that shows it. -/
structure Authorization where
  page : Url
  popup : Option Nat
deriving Repr

namespace Authorization

def ofPage (page : Url) : Authorization := ⟨page, none⟩

/-- The address of the popup, which carries the session token. -/
def address (a : Authorization) (token : String) : Url := a.page.withPair (tokenKey, token)

def openPopup? (a : Authorization) (d : Desktop) : Option Nat := a.popup.filter d.isOpen

def isOpen (a : Authorization) (d : Desktop) : Bool := (a.openPopup? d).isSome

/-- Opens the popup, or brings the open one to the front, and gives its number. There is none when
popups are blocked. -/
def openOrFocus (a : Authorization) (token : String) (d : Desktop) :
    Option Nat × Authorization × Desktop :=
  match a.openPopup? d with
  | some popup => (some popup, a, d.focus popup)
  | none =>
    let (popup, d) := d.openPopup (a.address token)
    (popup, { a with popup := popup }, d)

/-- Forgets a popup that is over. A newer one is kept. -/
def release (a : Authorization) (popup : Nat) : Authorization :=
  if a.popup = some popup then { a with popup := none } else a

/-- Brings the popup to the front if it is open. -/
def focus (a : Authorization) (d : Desktop) : Desktop :=
  match a.openPopup? d with
  | some popup => d.focus popup
  | none => d

/-- Closes the popup if it is open, and forgets it. -/
def close (a : Authorization) (d : Desktop) : Authorization × Desktop :=
  ({ a with popup := none },
    match a.openPopup? d with
    | some popup => d.close popup
    | none => d)

/-- The message when popups are blocked. The token is no part of it. -/
def blockedMessage (a : Authorization) : String :=
  "failed to open authorization window for " ++ a.page.text ++
    "\n  Suggestion: Allow popups for this site and try again"

end Authorization

end CourseLaunch.Popup
