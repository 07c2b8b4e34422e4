import ScopeComposer.Reply.Failure

/-!
# Envelopes

The result of a call: data on success, a failure otherwise, never both and never neither. On the
wire `success` says which of the two it is.
-/

namespace ScopeComposer

/-- The result of a call. -/
inductive Envelope (α : Type) where
  /-- The call gave data. -/
  | success (data : α)
  /-- The call failed. -/
  | failure (reason : Failure)

namespace Envelope

variable {α β : Type}

/-- Whether a call gave data. -/
def isSuccess : Envelope α → Bool
  | .success _ => true
  | .failure _ => false

/-- The data of a call that gave some. -/
def data? : Envelope α → Option α
  | .success data => some data
  | .failure _ => none

/-- The failure of a call that failed. -/
def failure? : Envelope α → Option Failure
  | .success _ => none
  | .failure reason => some reason

/-- The kind of failure of a call that failed. -/
def error? (e : Envelope α) : Option FailureKind := e.failure?.map (·.kind)

/-- The envelope of what a computation gave. -/
def ofResult : Except Failure α → Envelope α
  | .ok data => .success data
  | .error reason => .failure reason

/-- The data or the failure. -/
def toResult : Envelope α → Except Failure α
  | .success data => .ok data
  | .failure reason => .error reason

/-- Nothing is lost on the way into an envelope. -/
@[simp]
theorem toResult_ofResult (result : Except Failure α) : (ofResult result).toResult = result := by
  cases result <;> rfl

/-- Nothing is lost on the way out of an envelope. -/
@[simp]
theorem ofResult_toResult (e : Envelope α) : ofResult e.toResult = e := by
  cases e <;> rfl

/-- Applies a function to the data; a failure stays as it is. -/
def map (f : α → β) : Envelope α → Envelope β
  | .success data => .success (f data)
  | .failure reason => .failure reason

/-- An envelope as JSON, given how data is encoded. -/
def toJson (encode : α → Json) : Envelope α → Json
  | .success data => .obj [("success", .bool true), ("data", encode data)]
  | .failure reason => .obj (("success", .bool false) :: reason.members)

end Envelope

end ScopeComposer
