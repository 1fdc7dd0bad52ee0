import CourseLaunch.Course.Entry
import CourseLaunch.Course.Source
import CourseLaunch.Wire.Tagged
/-!
# Assignment content

What an assignment is about: a document with a URL, or a file that the learning management system
knows by its id.
-/

namespace CourseLaunch
open Wire

/-- The content of an assignment. -/
inductive Content where
  | url (url : String) (name : Option String)
  | file (entry : Course.Entry)
deriving Repr

namespace Content

def urlFields : Fields (String × Option String × Unit) :=
  .cons (.needed "url" .text) <| .cons (.optional "name" .text none) .nil

def fileFields : Fields (Course.Entry × Unit) :=
  .cons (.needed "file" Course.Entry.codec) .nil

/-- The JSON value of the content. -/
def toJson : Content → Json
  | .url address name =>
    .object ((tagName, .string "url") :: urlFields.write (address, name, ()))
  | .file entry => .object ((tagName, .string "file") :: fileFields.write (entry, ()))

/-- Makes the content from what stands beside its tag. -/
def tagged : Tagged Content where
  name := "Content"
  tags := [
    ("url", fun j =>
      (urlFields.fit "struct variant Content::Url" .gathered j).map fun (address, name, _) =>
        .url address name),
    ("file", fun j =>
      (fileFields.fit "struct variant Content::File" .gathered j).map fun (entry, _) =>
        .file entry)]
  write := toJson

def codec : Codec Content := tagged.codec

/-- The content that a chosen entry of a source stands for. Canvas knows a file by its id; all
other sources give the URL of a document as the id. -/
def ofEntry (source : Course.Source) (entry : Course.Entry) : Content :=
  if source = .canvas then .file entry else .url entry.id (some entry.name)

end Content

end CourseLaunch
