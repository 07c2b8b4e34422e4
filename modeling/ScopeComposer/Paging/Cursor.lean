import ScopeComposer.Graphql.Literal
import ScopeComposer.Json.Decoder

/-!
# Cursors

An opaque text of the server that says where a page starts. Absent values, the empty text and the
texts `null` and `undefined` all stand for no cursor.
-/

namespace ScopeComposer

/-- The texts that stand for no cursor. -/
def cursorPlaceholders : List String := ["", "null", "undefined"]

/-- Where a page starts: after a place that the server named, or at the beginning. -/
structure Cursor where
  /-- The text that the server gave, if there is one. -/
  value : Option String
  /-- A placeholder is never kept as a cursor. -/
  not_placeholder : ∀ s ∈ value, s ∉ cursorPlaceholders
deriving DecidableEq

namespace Cursor

/-- The beginning of a collection. -/
def none : Cursor where
  value := Option.none
  not_placeholder := by simp

instance : Inhabited Cursor := ⟨none⟩

/-- The cursor of a text. -/
def ofString (s : String) : Cursor :=
  if h : s ∈ cursorPlaceholders then none
  else { value := some s, not_placeholder := by simpa using h }

/-- The cursor of a text that may be absent. -/
def ofOption : Option String → Cursor
  | Option.none => none
  | some s => ofString s

/-- Whether there is no cursor. -/
def isNone (c : Cursor) : Bool := c.value.isNone

/-- The cursor as the value of a GraphQL argument. -/
def argument (c : Cursor) : String :=
  match c.value with
  | Option.none => "null"
  | some s => Graphql.literal s

/-- Whether a cursor comes before or with another: the beginning of the collection comes first,
then texts follow the order of their code points. -/
def precedes (a b : Cursor) : Bool :=
  match a.value, b.value with
  | Option.none, _ => true
  | some _, Option.none => false
  | some s, some t => s ≤ t

/-- A cursor as JSON. -/
def toJson (c : Cursor) : Json := .ofOptionalText c.value

/-- Decodes a cursor from a text or `null`. -/
def decoder : Json.Decoder Cursor := (Json.Decoder.string.option).map ofOption

end Cursor

end ScopeComposer
