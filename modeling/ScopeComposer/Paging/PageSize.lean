import ScopeComposer.Scope.Error

/-!
# Page sizes

The number of nodes fetched of a paginated collection, from 1 to 100.
-/

namespace ScopeComposer

/-- A number of nodes that the server is willing to send at once. -/
structure PageSize where
  /-- The number of nodes. -/
  value : Nat
  /-- A page holds at least one node. -/
  one_le : 1 ≤ value := by decide
  /-- A page holds at most a hundred nodes. -/
  le_hundred : value ≤ 100 := by decide
deriving DecidableEq, Repr

namespace PageSize

/-- The page size of a request that names none. -/
def one : PageSize where
  value := 1

/-- The page size of a nested collection that has no request of its own. -/
def nested : PageSize where
  value := 10

instance : Inhabited PageSize := ⟨one⟩

/-- The page size of an integer, if it is in range. -/
def ofInt? (n : Int) : Option PageSize :=
  if h : 1 ≤ n ∧ n ≤ 100 then some ⟨n.toNat, by omega, by omega⟩ else none

/-- The page size of an integer; outside the range the integer is reported. -/
def ofInt (n : Int) : Validated PageSize :=
  match ofInt? n with
  | some size => .ok size
  | none => .error (.invalidPageSize (toString n))

/-- A page size in decimal digits. -/
def text (size : PageSize) : String := toString size.value

/-- A page size as JSON. -/
def toJson (size : PageSize) : Json := .nat size.value

/-- Decodes a page size from an integer. -/
def decoder : Json.Decoder PageSize :=
  Json.Decoder.int64.andThen fun n =>
    match ofInt n with
    | .ok size => .ok size
    | .error e => .error (.refused e.message)

end PageSize

end ScopeComposer
