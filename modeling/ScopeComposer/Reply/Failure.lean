import ScopeComposer.Json.Record
import ScopeComposer.Scope.Error

/-!
# Failures

Every call that does not succeed ends with a failure of one of a few kinds, with the diagnostics
that the server sent along.
-/

namespace ScopeComposer

open Json (Record Decoder)

/-- The kinds of failure. -/
inductive FailureKind where
  /-- A requested scope does not exist. -/
  | invalidScope
  /-- A requested page size is out of range. -/
  | invalidPageSize
  /-- There was no credential for the call. -/
  | noCredential
  /-- The server does not know the resource. -/
  | notFound
  /-- The server does not accept the credential. -/
  | unauthorized
  /-- The server does not understand the request. -/
  | badRequest
  /-- Anything else went wrong on the way or at the server. -/
  | internal
deriving DecidableEq, Repr, Inhabited

namespace FailureKind

/-- All kinds. -/
def all : List FailureKind :=
  [.invalidScope, .invalidPageSize, .noCredential, .notFound, .unauthorized, .badRequest,
    .internal]

/-- The name of a kind on the wire. -/
def text : FailureKind → String
  | .invalidScope => "InvalidScope"
  | .invalidPageSize => "InvalidPageSize"
  | .noCredential => "NoAuthProvided"
  | .notFound => "UpstreamNotFound"
  | .unauthorized => "UpstreamAuthInvalid"
  | .badRequest => "UpstreamBadRequest"
  | .internal => "UpstreamInternal"

/-- The kind with a name. -/
def ofText? (s : String) : Option FailureKind := all.find? fun kind => kind.text = s

/-- The HTTP status that answers a failure of a kind. -/
def httpStatus : FailureKind → UInt16
  | .invalidScope | .invalidPageSize | .badRequest => 400
  | .noCredential | .unauthorized => 401
  | .notFound => 404
  | .internal => 500

/-- Whether failures of a kind are found before anything is sent. -/
def isValidation : FailureKind → Bool
  | .invalidScope | .invalidPageSize => true
  | _ => false

/-- Decodes a kind from its name. -/
def decoder : Decoder FailureKind := .variant (all.map fun kind => (kind.text, kind))

end FailureKind

/-- A failure with its diagnostics. -/
structure Failure where
  /-- The kind of the failure. -/
  kind : FailureKind
  /-- What went wrong. -/
  message : String
  /-- What the server said of the cause. -/
  cause : Option Json := none
  /-- The path of the field that failed. -/
  path : Option (List Json) := none
  /-- The class of error that the server named. -/
  type : Option String := none

namespace Failure

/-- A failure in one line. -/
def text (f : Failure) : String := f.kind.text ++ ": " ++ f.message

/-- The members of a failure as JSON; diagnostics that are absent are left out. -/
def members (f : Failure) : List (String × Json) :=
  [("error", .str f.kind.text), ("message", .str f.message)] ++
    Json.optionalMember "cause" id f.cause ++ Json.optionalMember "path" Json.arr f.path ++
    Json.optionalMember "type" Json.str f.type

/-- A failure as JSON. -/
def toJson (f : Failure) : Json := .obj f.members

/-- Decodes a failure; the diagnostics may be left out. -/
def decoder : Decoder Failure :=
  (Failure.mk
    <$> .required "error" FailureKind.decoder
    <*> .required "message" .string
    <*> .optional "cause" .value
    <*> .optional "path" (.list .value)
    <*> .optional "type" .string : Record Failure).decoder "Failure"

/-- The failure of a request that did not pass validation. -/
def ofValidation (e : ValidationError) : Failure where
  kind := match e with
    | .invalidScope .. => .invalidScope
    | .invalidPageSize _ => .invalidPageSize
  message := e.message

end Failure

end ScopeComposer
