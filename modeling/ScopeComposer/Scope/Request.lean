import ScopeComposer.Paging.Window
import ScopeComposer.Scope.Error
import ScopeComposer.Text.Split

/-!
# Scope requests

One requested sub-resource with its page window, in two forms: as received, where nothing has been
checked, and as validated. Lists of plain tags are received as a comma-separated text or as an array
of names.
-/

namespace ScopeComposer

open Json (Record Decoder)

/-- A validated request for one sub-resource. -/
structure ScopeRequest (S : Type) where
  /-- The sub-resource. -/
  scope : S
  /-- The number of nodes to fetch of it. -/
  pageSize : PageSize
  /-- Where the page starts. -/
  continueAfter : Cursor
deriving DecidableEq

namespace ScopeRequest

variable {S : Type}

/-- A request for the first page of a sub-resource. -/
def first (pageSize : PageSize) (scope : S) : ScopeRequest S := ⟨scope, pageSize, .none⟩

/-- A request that says nothing of paging. -/
def plain (scope : S) : ScopeRequest S := first .one scope

/-- A request for a window of a sub-resource. -/
def ofWindow (scope : S) (w : PageWindow) : ScopeRequest S := ⟨scope, w.pageSize, w.continueAfter⟩

/-- The window of a request. -/
def window (r : ScopeRequest S) : PageWindow := ⟨r.pageSize, r.continueAfter⟩

variable [DecidableEq S] [Tag S]

/-- A request as JSON. -/
def toJson (r : ScopeRequest S) : Json :=
  .obj [("scopeName", Tag.toJson r.scope), ("pageSize", r.pageSize.toJson),
    ("continueAfter", r.continueAfter.toJson)]

/-- Decodes a request; only the name of the scope has to be there. -/
def decoder : Decoder (ScopeRequest S) :=
  (ScopeRequest.mk
    <$> .required "scopeName" Tag.decoder
    <*> .orElse "pageSize" PageSize.decoder .one
    <*> .orElse "continueAfter" Cursor.decoder .none : Record (ScopeRequest S)).decoder
    "ScopeRequest"

end ScopeRequest

/-- A request as received. -/
structure ReceivedRequest where
  /-- The name of the sub-resource. -/
  scopeName : String
  /-- Whatever was given as page size. -/
  pageSize : Option Json
  /-- The cursor, if one was given. -/
  continueAfter : Option String
deriving Inhabited

namespace ReceivedRequest

/-- A request as JSON. -/
def toJson (r : ReceivedRequest) : Json :=
  .obj [("scopeName", .str r.scopeName), ("pageSize", .ofOption id r.pageSize),
    ("continueAfter", .ofOptionalText r.continueAfter)]

/-- Decodes a request as received; every field has two spellings. -/
def decoder : Decoder ReceivedRequest :=
  (ReceivedRequest.mk
    <$> .field ["scopeName", "scope_name"] .string .never
    <*> .field ["pageSize", "page_size"] Decoder.value.option (.orElse none)
    <*> .field ["continueAfter", "continue_after"] Decoder.string.option (.orElse none) :
      Record ReceivedRequest).decoder "RawScopeRequest"

end ReceivedRequest

/-- A list of names as received. -/
inductive NameList where
  /-- Names separated by commas. -/
  | joined (text : String)
  /-- Names one by one. -/
  | separate (items : List String)
deriving DecidableEq, Repr

namespace NameList

/-- The trimmed names that are not blank, in order. -/
def entries : NameList → List String
  | .joined text => Text.entries text
  | .separate items => Text.significant items

/-- A list of names as JSON. -/
def toJson : NameList → Json
  | .joined text => .str text
  | .separate items => .ofList .str items

/-- Decodes a list of names from a text or an array of texts. -/
def decoder : Decoder NameList :=
  .either "ScopeInput" (Decoder.string.map .joined) (Decoder.string.list.map .separate)

end NameList

end ScopeComposer
