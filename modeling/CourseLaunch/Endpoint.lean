import CourseLaunch.Wire.Record
/-!
# Endpoints

One call that the backend offers: its path, the page where the user may authorize it, and the
body to send. A body makes the call a POST, even when the body is `null`.
-/

namespace CourseLaunch
open Wire

/-- A call that the backend offers. -/
structure Endpoint where
  path : String
  authUrl : Option String
  data : Option Json
deriving Repr

namespace Endpoint

/-- An endpoint without a body and without a page for authorization. -/
def ofPath (path : String) : Endpoint := ⟨path, none, none⟩

/-- The fields on the wire. -/
def fields : Fields (String × Option String × Option Json × Unit) :=
  .cons (.needed "path" .text) <|
  .cons (.optional "authUrl" .text (some "authorizationUrl")) <|
  .cons (.optional "data" .any none) .nil

/-- The wire form. -/
def codec : Codec Endpoint :=
  (Codec.record "ApiCallSpec" fields).through
    (fun (path, authUrl, data, _) => ⟨path, authUrl, data⟩)
    (fun e => (e.path, e.authUrl, e.data, ()))

end Endpoint

end CourseLaunch
