import ScopeComposer.Scope.Tag

/-!
# Validation errors

What can be wrong with the scopes that a caller asks for. Both kinds are found before anything is
sent.
-/

namespace ScopeComposer

/-- Why requested scopes are refused. -/
inductive ValidationError where
  /-- A name is not a tag of its level. -/
  | invalidScope (level : Level) (value : String) (allowed : String)
  /-- A page size is not an integer from 1 to 100. -/
  | invalidPageSize (value : String)
deriving DecidableEq, Repr

/-- The text of a validation error. -/
def ValidationError.message : ValidationError → String
  | .invalidScope level value allowed =>
    "invalid " ++ level.text ++ " scope '" ++ value ++ "' (allowed: " ++ allowed ++ ")"
  | .invalidPageSize value =>
    "invalid page size '" ++ value ++ "' (expected an integer between 1 and 100)"

/-- What validation gives. -/
abbrev Validated (α : Type) := Except ValidationError α

/-- The tag with a name, which has to match letter by letter. -/
def Tag.parse (S : Type) [DecidableEq S] [Tag S] (value : String) : Validated S :=
  match (Tag.ofName? value : Option S) with
  | some tag => .ok tag
  | none => .error (.invalidScope (Tag.level S) value (Tag.allowed S))

end ScopeComposer
