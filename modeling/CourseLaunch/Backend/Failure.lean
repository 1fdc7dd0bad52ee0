import CourseLaunch.Backend.Report
import CourseLaunch.Web.Host
import CourseLaunch.Wire.Record
/-!
# Failed calls

Why a call to the backend failed: the server refused it, no whole answer arrived, the answer was
not the JSON that was expected, or there was no URL to call. A refusal may ask for the session's
credentials to be refreshed.
-/

namespace CourseLaunch.Backend
open Wire

/-- How to refresh the credentials. -/
structure Refresh where
  method : String
  path : String
deriving DecidableEq, Repr

namespace Refresh

def defaultMethod : String := "POST"

/-- The wire form. -/
def codec : Codec Refresh :=
  (Codec.record "RefreshSpec" (
    .cons (.defaulted "method" .text defaultMethod) <|
    .cons (.needed "path" .text) .nil)).through
    (fun (method, path, _) => ⟨method, path⟩)
    (fun r => (r.method, r.path, ()))

def isGet (r : Refresh) : Bool := r.method.toList.map Char.toLower == ['g', 'e', 't']

end Refresh

/-- An answer with an error status. -/
structure Refusal where
  path : String
  status : Nat
  errorCode : Option String
  serverMessage : String
  details : Option Json
  refresh : Option Refresh
deriving Repr

namespace Refusal

/-- A refusal that says nothing. -/
def silent (path : String) (status : Nat) : Refusal := ⟨path, status, none, "", none, none⟩

def textField (name : String) (body : Json) : Option String := (body.field? name).bind Json.string?

/-- The refusal that a body tells of. A field that is missing or of the wrong kind is absent. -/
def ofBody (path : String) (status : Nat) (body : Json) : Refusal where
  path := path
  status := status
  errorCode := (textField "error_code" body).filter fun code => !code.isEmpty
  serverMessage := (textField "message" body).getD ""
  details := (body.field? "details").filter fun details => !details.isNull
  refresh := (body.field? "refresh").bind fun j => (Refresh.codec.ofJson j).toOption

/-- The message of a refusal. -/
def message (r : Refusal) : String :=
  "API call to " ++ r.path ++ " failed with HTTP " ++ toString r.status ++
    if r.serverMessage.isEmpty then "" else ": " ++ r.serverMessage

/-- Whether the user has to authorize again. -/
def needsAuthorization (r : Refusal) : Bool := r.errorCode.isNone && r.serverMessage.isEmpty

/-- The refusal as it is kept and shown. -/
def report (r : Refusal) : Report where
  message := some r.message
  details := r.details
  errorCode := r.errorCode
  serverMessage := if r.serverMessage.isEmpty then none else some r.serverMessage
  status := some r.status

end Refusal

/-- Why no whole answer arrived. The URL is written without its user and its password. -/
inductive Interruption where
  | noAnswer (url : String)
  | cutShort (url : String)
  | unusableToken
  | unusableUrl (url : String)
deriving DecidableEq, Repr

/-- The message of an interruption. -/
def Interruption.text : Interruption → String
  | .noAnswer url => "error sending request for url (" ++ url ++ ")"
  | .cutShort url => "error decoding response body for url (" ++ url ++ ")"
  | .unusableToken => "builder error"
  | .unusableUrl url => "builder error for url (" ++ url ++ ")"

/-- Why a call failed. -/
inductive Failure where
  | refused (refusal : Refusal)
  | interrupted (path : String) (reason : Interruption)
  | malformed (path fault : String)
  | unresolved (path : String) (fault : Web.Fault)
deriving Repr

namespace Failure

/-- The message of a failure. -/
def message : Failure → String
  | refused refusal => refusal.message
  | interrupted path reason => "request to " ++ path ++ " did not complete: " ++ reason.text
  | malformed path fault => "invalid JSON in response from " ++ path ++ ": " ++ fault
  | unresolved path fault => "invalid API path '" ++ path ++ "': " ++ fault.text

/-- The refusal behind a failure. -/
def refusal? : Failure → Option Refusal
  | refused refusal => some refusal
  | _ => none

/-- Whether the user has to authorize again. -/
def needsAuthorization (f : Failure) : Bool := f.refusal?.any Refusal.needsAuthorization

/-- The failure as it is kept and shown. -/
def report (f : Failure) : Report :=
  match f with
  | refused refusal => refusal.report
  | f => .ofMessage f.message

end Failure

end CourseLaunch.Backend
