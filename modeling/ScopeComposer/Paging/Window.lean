import ScopeComposer.Json.Record
import ScopeComposer.Paging.Cursor
import ScopeComposer.Paging.PageSize

/-!
# Page windows

The part of a paginated collection that is fetched: how many nodes, and after which cursor. Windows
are ordered by page size first and by cursor among equal page sizes.
-/

namespace ScopeComposer

/-- One page of a collection. -/
structure PageWindow where
  /-- The number of nodes. -/
  pageSize : PageSize
  /-- Where the page starts. -/
  continueAfter : Cursor
deriving DecidableEq

namespace PageWindow

/-- The first page of a collection. -/
def first (pageSize : PageSize) : PageWindow := ⟨pageSize, .none⟩

/-- The window of a request that says nothing of paging. -/
def standard : PageWindow := first .one

/-- The window of a nested collection that nobody asked a page size for. -/
def nested : PageWindow := first .nested

instance : Inhabited PageWindow := ⟨standard⟩

/-- Whether a window comes before or with another. -/
def precedes (a b : PageWindow) : Bool :=
  a.pageSize.value < b.pageSize.value ||
    (a.pageSize.value == b.pageSize.value && a.continueAfter.precedes b.continueAfter)

/-- The greater of two windows. -/
def max (a b : PageWindow) : PageWindow := if a.precedes b then b else a

/-- The window as arguments of a GraphQL field. -/
def arguments (w : PageWindow) : String :=
  "first: " ++ w.pageSize.text ++ ", after: " ++ w.continueAfter.argument

/-- A window as JSON. -/
def toJson (w : PageWindow) : Json :=
  .obj [("pageSize", w.pageSize.toJson), ("continueAfter", w.continueAfter.toJson)]

/-- Decodes a window; both fields may be left out. -/
def decoder : Json.Decoder PageWindow :=
  (PageWindow.mk
    <$> .orElse "pageSize" PageSize.decoder .one
    <*> .orElse "continueAfter" Cursor.decoder .none : Json.Record PageWindow).decoder "PageWindow"

end PageWindow

end ScopeComposer
