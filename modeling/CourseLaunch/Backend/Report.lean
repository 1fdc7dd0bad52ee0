import CourseLaunch.Json.Value
/-!
# Reported errors

An error as it is kept and shown, wherever it came from. The user has to authorize again exactly
when the server answered and named neither a code nor a message.
-/

namespace CourseLaunch.Backend

/-- An error as it is kept and shown. -/
structure Report where
  message : Option String
  details : Option Json
  errorCode : Option String
  serverMessage : Option String
  status : Option Nat
deriving Repr

namespace Report

def blank : Report := ⟨none, none, none, none, none⟩

def ofMessage (message : String) : Report := { blank with message := some message }

/-- Whether the user has to authorize again. -/
def needsAuthorization (r : Report) : Bool :=
  r.status.isSome && r.errorCode.isNone && (r.serverMessage.getD "").isEmpty

/-- A field with a value, or no field. -/
def field (name : String) (value : Option Json) : List (String × Json) :=
  match value with
  | some j => [(name, j)]
  | none => []

/-- The JSON value of an error. What is absent is left out. -/
def toJson (r : Report) : Json :=
  .object (field "message" (r.message.map .string) ++ field "details" r.details ++
    field "errorCode" (r.errorCode.map .string) ++
    field "serverMessage" (r.serverMessage.map .string) ++
    field "status" (r.status.map .ofNat))

end Report

end CourseLaunch.Backend
