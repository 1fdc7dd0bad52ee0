/-!
# Placement of popups

A popup is centred on the screen of the window that opens it, and never starts to the left of it
or above it.
-/

namespace CourseLaunch.Popup

/-- A rectangle on the desktop. -/
structure Area where
  left : Int
  top : Int
  width : Int
  height : Int
deriving DecidableEq, Repr

namespace Area

/-- The place of a popup of the given size on a screen. -/
def centered (screen : Area) (width height : Int) : Area where
  left := screen.left + max ((screen.width - width) / 2) 0
  top := screen.top + max ((screen.height - height) / 2) 0
  width := width
  height := height

/-- The text of a place. -/
def text (a : Area) : String :=
  "left=" ++ toString a.left ++ ",top=" ++ toString a.top ++ ",width=" ++ toString a.width ++
    ",height=" ++ toString a.height

end Area

def width : Int := 775

def height : Int := 550

def windowName : String := "lms-authorization"

/-- The key of the pair that carries the session token. -/
def tokenKey : String := "authorization"

/-- How many milliseconds pass between two looks at a popup. -/
def pollInterval : Nat := 300

end CourseLaunch.Popup
