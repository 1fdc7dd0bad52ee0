import CourseLaunch.Course.Entry
/-!
# Breadcrumbs

The folders between the root of a course and the folder that is shown. Going to a folder on the
trail cuts the trail behind it; going anywhere else makes it longer.
-/

namespace CourseLaunch.Course

/-- The folders from below the root to the one that is shown. -/
structure Trail where
  root : Entry
  below : List Entry
deriving Repr

namespace Trail

def rootId : String := "__root__"

def rootName : String := "Files"

/-- The trail that holds the root only. -/
def ofListing (listing : Endpoint) : Trail := ⟨.folder rootId rootName listing, []⟩

def entries (t : Trail) : List Entry := t.root :: t.below

def current (t : Trail) : Entry := t.below.getLastD t.root

/-- How many folders there are below the root. -/
def depth (t : Trail) : Nat := t.below.length

def ids (t : Trail) : List String := t.entries.map Entry.id

def names (t : Trail) : List String := t.entries.map Entry.name

/-- Goes to a folder. -/
def navigate (t : Trail) (folder : Entry) : Trail :=
  if folder.id = t.root.id then { t with below := [] }
  else
    match t.below.findIdx? fun e => e.id = folder.id with
    | some i => { t with below := t.below.take (i + 1) }
    | none => { t with below := t.below ++ [folder] }

end Trail

end CourseLaunch.Course
