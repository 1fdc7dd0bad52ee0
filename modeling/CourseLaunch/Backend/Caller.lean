import CourseLaunch.Backend.Client
import CourseLaunch.Course.Entry
import CourseLaunch.Schedule.Tasks
/-!
# Callers

Callers that share a client, each of which expects some form of reply.
-/

namespace CourseLaunch.Backend

/-- The form of a reply. -/
inductive Form where
  | value
  | strings
  | files
deriving DecidableEq, Repr

/-- Decodes a reply of the given form, and gives it as a JSON value. -/
def Form.decode (form : Form) (r : Reply) : Except Failure Json :=
  match form with
  | value => r.decode .any
  | strings => (r.decode (.list .text)).map (Wire.Codec.list .text).write
  | files => (r.decode (.list Course.Entry.codec)).map (Wire.Codec.list Course.Entry.codec).write

/-- A caller, and what it got. -/
structure Caller where
  form : Form
  result : Option (Except Failure Json)

/-- A client and its callers, in the order in which they called. -/
structure Callers where
  client : Client Nat
  callers : List Caller

namespace Callers

def ofClient (client : Client Nat) : Callers := ⟨client, []⟩

/-- Takes in what happened to a call. -/
def follow (c : Callers) (caller : Nat) (progress : Progress Nat) : Callers :=
  { client := progress.1
    callers := c.callers.modify caller fun x =>
      match progress.2 with
      | some result => { x with result := some (result.bind x.form.decode) }
      | none => x }

/-- A new caller calls. -/
def call (c : Callers) (form : Form) (request : Request) : Callers :=
  let caller := c.callers.length
  { c with callers := c.callers ++ [⟨form, none⟩] : Callers }.follow caller
    (c.client.begin caller request)

end Callers

/-- Every caller is a task. -/
instance : Schedule.Tasks Callers where
  Label := Nat
  count c := c.callers.length
  isRunning c caller := c.callers[caller]?.any fun x => x.result.isNone
  flights c := c.client.flights
  answer c caller a := c.follow caller (c.client.answer caller a)
  isReady c caller := c.client.canResume caller
  wake c caller := c.follow caller (c.client.resume caller)
  watched? _ _ := none
  look c _ := c
  windows _ := []
  onDesktop c _ := c
  budget c := c.client.budget

end CourseLaunch.Backend
