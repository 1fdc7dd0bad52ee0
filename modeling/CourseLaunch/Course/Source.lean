import CourseLaunch.Wire.Codec
/-!
# Course content sources

The places in a learning management system from which a document can be chosen, with the key that
stands for each in configurations and the name that users see.
-/

namespace CourseLaunch.Course

/-- A place from which a document can be chosen. -/
inductive Source where
  | canvas
  | canvasPages
  | blackboard
  | d2l
  | moodle
  | moodlePages
deriving DecidableEq, Repr

namespace Source

/-- All sources, in the order in which they are listed. -/
def all : List Source := [canvas, canvasPages, blackboard, d2l, moodle, moodlePages]

/-- The key in configurations. -/
def key : Source → String
  | canvas => "canvas"
  | canvasPages => "canvas_pages"
  | blackboard => "blackboard"
  | d2l => "d2l"
  | moodle => "moodle"
  | moodlePages => "moodle_pages"

/-- The name that users see. -/
def label : Source → String
  | canvas => "Canvas files"
  | canvasPages => "Canvas pages"
  | blackboard => "Blackboard files"
  | d2l => "D2L files"
  | moodle => "Moodle files"
  | moodlePages => "Moodle pages"

def ofKey? (key : String) : Option Source := all.find? fun s => s.key = key

/-- Why a text is not the key of a source. -/
def unknownText (key : String) : String :=
  "unknown LMS source '" ++ key ++ "' (expected one of: " ++
    ", ".intercalate (all.map Source.key) ++ ")"

def choice : Wire.Codec.Choice Source := ⟨all.map fun s => (s.key, s), key⟩

end Source

end CourseLaunch.Course
