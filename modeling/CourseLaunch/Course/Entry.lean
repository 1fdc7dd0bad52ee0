import CourseLaunch.Endpoint
/-!
# Course listings

The files and folders that the backend lists. A folder names the call that lists what is in it.
-/

namespace CourseLaunch.Course
open Wire

/-- What an entry is. -/
inductive Kind where
  | file
  | folder
deriving DecidableEq, Repr

/-- A file or folder of a course. -/
structure Entry where
  id : String
  name : String
  kind : Kind
  updatedAt : Option String
  contents : Option Endpoint
deriving Repr

namespace Kind

/-- The kinds as variants on the wire. -/
def choice : Codec.Choice Kind :=
  ⟨[("File", file), ("Folder", folder)], fun
    | file => "File"
    | folder => "Folder"⟩

end Kind

namespace Entry

def isFolder (e : Entry) : Bool := e.kind = .folder

theorem isFolder_iff {e : Entry} : e.isFolder ↔ e.kind = .folder := decide_eq_true_iff

theorem isFolder_eq_false_iff {e : Entry} : e.isFolder = false ↔ e.kind = .file := by
  cases kind : e.kind <;> simp [isFolder, kind]

/-- A folder whose contents are listed by the given call. -/
def folder (id name : String) (contents : Endpoint) : Entry :=
  ⟨id, name, .folder, none, some contents⟩

/-- The fields on the wire. -/
def fields : Fields (String × String × Kind × Option String × Option Endpoint × Unit) :=
  .cons (.needed "id" .text) <|
  .cons (.needed "display_name" .text) <|
  .cons (.needed "type" (.choice Kind.choice)) <|
  .cons (.optional "updated_at" .text none) <|
  .cons (.optional "contents" Endpoint.codec (some "child_listing")) .nil

/-- The wire form. -/
def codec : Codec Entry :=
  (Codec.record "FileEntry" fields).through
    (fun (id, name, kind, updatedAt, contents, _) => ⟨id, name, kind, updatedAt, contents⟩)
    (fun e => (e.id, e.name, e.kind, e.updatedAt, e.contents, ()))

end Entry

end CourseLaunch.Course
