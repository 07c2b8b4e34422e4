import ScopeComposer.Reply.Failure
import ScopeComposer.Server.Response

/-!
# Classification of errors

Which kind of failure an unsuccessful exchange with the server is, and which of its diagnostics the
failure keeps.
-/

namespace ScopeComposer

/-- Why no response body could be had from the server. -/
inductive TransportError where
  /-- The server answered with a status other than success. -/
  | status (code : UInt16) (message : String) (documentationUrl : Option String)
      (errors : Option (List Json))
  /-- The server did not answer. -/
  | network (message : String)
  /-- The credential cannot be used. -/
  | credential (message : String)
  /-- The server answered with a body that is no response. -/
  | decode (message : String)

namespace TransportError

/-- The name of a kind of transport error. -/
def kind : TransportError → String
  | .status .. => "status"
  | .network _ => "network"
  | .credential _ => "credential"
  | .decode _ => "decode"

/-- The status that the server answered with. -/
def status? : TransportError → Option UInt16
  | .status code .. => some code
  | _ => none

/-- A transport error in one line. -/
def text : TransportError → String
  | .status code message _ _ =>
    "upstream responded with status " ++ toString code ++ ": " ++ message
  | .network message => "upstream request failed: " ++ message
  | .credential message => "unusable credential: " ++ message
  | .decode message => "invalid upstream response: " ++ message

end TransportError

namespace Failure

/-- The status of a response that carries a body. -/
def statusOk : UInt16 := 200

/-- The kind of failure that an HTTP status stands for. -/
def kindOfStatus (status : UInt16) : FailureKind :=
  if status = 401 ∨ status = 403 then .unauthorized
  else if status = 400 then .badRequest
  else .internal

/-- The cause that an error names: its further diagnostics, or else its message. -/
def causeOf (e : GraphqlError) : Json := e.extensions.getD (.str e.message)

/-- The failure that the errors of a response amount to. If one of them says that a resource does
not exist, so does the failure; otherwise the status decides. The first such error, or else the
first one of all, provides the diagnostics. -/
def ofErrors (errors : List GraphqlError) (status : UInt16) : Failure :=
  let notFound := errors.find? (·.saysNotFound)
  let kind := if notFound.isSome then .notFound else kindOfStatus status
  let message := ", ".intercalate (errors.map (·.message))
  match notFound.or errors.head? with
  | none => { kind, message }
  | some primary =>
    { kind, message
      cause := some (causeOf primary)
      path := if primary.path.isEmpty then none else some primary.path
      type := primary.type }

/-- The failure that a transport error amounts to. -/
def ofTransport : TransportError → Failure
  | .status code message _ errors =>
    { kind := kindOfStatus code, message, cause := errors.map .arr }
  | .credential message => { kind := .unauthorized, message }
  | .network message | .decode message => { kind := .internal, message }

end Failure

/-- The data of a response, decoded as a type. Errors win over data, and data that is absent or
`null` or that does not decode is an internal failure. -/
def Response.result {α : Type} (d : Json.Decoder α) (r : Response) : Except Failure α :=
  match r.errors with
  | some (e :: errors) => .error (.ofErrors (e :: errors) Failure.statusOk)
  | _ =>
    match r.data with
    | none | some .null =>
      .error
        { kind := .internal, message := "upstream response carried neither data nor errors" }
    | some data =>
      match d.run data with
      | .ok a => .ok a
      | .error e =>
        .error { kind := .internal, message := "failed to decode upstream data: " ++ e.message }

end ScopeComposer
