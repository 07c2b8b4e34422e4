import ScopeComposer.Server.Fetch

/-!
# HTTP responses

What the status and the body of an HTTP response amount to. With a status of success the body starts
with a response; otherwise the whole body says what is wrong.
-/

namespace ScopeComposer

open Json (Record Decoder)

/-- What a server says of a status other than success. -/
structure StatusBody where
  /-- Where the status is explained. -/
  documentationUrl : Option String
  /-- What is wrong in detail. -/
  errors : Option (List Json)
  /-- What is wrong. -/
  message : String

/-- Decodes what a server says of a status other than success. -/
def StatusBody.decoder : Decoder StatusBody :=
  (StatusBody.mk
    <$> .nullable "documentation_url" .string
    <*> .nullable "errors" (.list .value)
    <*> .required "message" .string : Record StatusBody).decoder "GitHubErrorBody"

/-- Whether a status stands for success. -/
def isSuccessStatus (status : UInt16) : Bool := 200 ≤ status && status < 300

/-- The error of a body that cannot be read. -/
def unreadableBody : TransportError := .decode "the response body could not be read"

/-- What an HTTP response amounts to. -/
def Outcome.ofHttp (status : UInt16) (body : String) : Outcome :=
  if isSuccessStatus status then
    match Response.decoder.ofPrefix? body with
    | some response => .ok response
    | none => .error unreadableBody
  else
    match StatusBody.decoder.ofText? body with
    | some b => .error (.status status b.message b.documentationUrl b.errors)
    | none => .error unreadableBody

end ScopeComposer
