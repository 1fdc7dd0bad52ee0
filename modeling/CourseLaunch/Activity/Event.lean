import CourseLaunch.Wire.Record
/-!
# Annotation activity

What the annotation client tells about a student's work. A shared annotation that was made or
edited counts as work that can be graded.
-/

namespace CourseLaunch.Activity
open Wire

/-- What happened to an annotation. -/
inductive Action where
  | create
  | update
  | delete
  | flag
deriving DecidableEq, Repr

/-- The name of an action on the wire. -/
def Action.name : Action → String
  | create => "create"
  | update => "update"
  | delete => "delete"
  | flag => "flag"

def Action.choice : Codec.Choice Action :=
  ⟨[create, update, delete, flag].map fun a => (a.name, a), name⟩

/-- Something that happened to an annotation. -/
structure Event where
  action : Action
  isShared : Bool
deriving DecidableEq, Repr

namespace Event

/-- The wire form. -/
def codec : Codec Event :=
  (Codec.record "AnnotationActivity" (
    .cons (.needed "eventType" (.choice Action.choice)) <|
    .cons (.needed "isShared" .flag) .nil)).through
    (fun (action, isShared, _) => ⟨action, isShared⟩)
    (fun e => (e.action, e.isShared, ()))

/-- Whether the event counts as work that can be graded. -/
def qualifies (e : Event) : Bool := (e.action = .create || e.action = .update) && e.isShared

end Event

end CourseLaunch.Activity
