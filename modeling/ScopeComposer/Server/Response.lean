import ScopeComposer.Json.Record

/-!
# Responses of a GraphQL server

The body of a response: data, errors, or both.
-/

namespace ScopeComposer

open Json (Record Decoder)

/-- One error in a response. -/
structure GraphqlError where
  /-- What went wrong. -/
  message : String
  /-- The places in the document that caused it. -/
  locations : List Json
  /-- The path of the field that failed. -/
  path : List Json
  /-- The class of the error. -/
  type : Option String
  /-- Further diagnostics. -/
  extensions : Option Json

namespace GraphqlError

/-- Whether the server says that a resource does not exist. -/
def saysNotFound (e : GraphqlError) : Bool := e.type == some "NOT_FOUND"

/-- An error as JSON. -/
def toJson (e : GraphqlError) : Json :=
  .obj ([("message", .str e.message), ("locations", .arr e.locations), ("path", .arr e.path)] ++
    Json.optionalMember "type" Json.str e.type ++
    Json.optionalMember "extensions" id e.extensions)

/-- Decodes an error; only the message has to be there. -/
def decoder : Decoder GraphqlError :=
  (GraphqlError.mk
    <$> .required "message" .string
    <*> .orElse "locations" (.list .value) []
    <*> .orElse "path" (.list .value) []
    <*> .optional "type" .string
    <*> .optional "extensions" .value : Record GraphqlError).decoder "GraphQLError"

end GraphqlError

/-- The body of a response. -/
structure Response where
  /-- The data, if there is any. -/
  data : Option Json
  /-- The errors, if there are any. -/
  errors : Option (List GraphqlError)

namespace Response

/-- A response as JSON. -/
def toJson (r : Response) : Json :=
  .obj [("data", .ofOption id r.data),
    ("errors", .ofOption (.ofList GraphqlError.toJson) r.errors)]

/-- Decodes a response. -/
def decoder : Decoder Response :=
  (Response.mk
    <$> .nullable "data" .value
    <*> .nullable "errors" (.list GraphqlError.decoder) : Record Response).decoder
    "GraphQLResponse"

end Response

end ScopeComposer
