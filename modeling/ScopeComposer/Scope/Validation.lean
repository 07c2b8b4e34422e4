import ScopeComposer.Scope.Catalogue
import ScopeComposer.Scope.Request
import ScopeComposer.Text.Numeral

/-!
# Validation

Turning what a caller gives into validated requests, before anything is composed. Each kind of list
has a fallback for when it names nothing, and of several faults in a list the leftmost is reported.
-/

namespace ScopeComposer

/-- The scopes of an account that names none. -/
def AccountScope.fallback : List AccountScope := [.essential]

/-- The scopes of a project that names none. -/
def ProjectScope.fallback : List ProjectScope := [.info]

/-- The scopes of a repository that names none. -/
def RepositoryScope.fallback : List RepositoryScope := [.info]

/-- The depth of a milestone request that names none. -/
def MilestoneDepth.fallback : List MilestoneDepth := [.info]

/-- How a page size that is refused stands in the message: a text as it is, any other value in its
compact form. -/
def givenPageSize : Json → String
  | .str text => text
  | other => other.compact

/-- The integer that is given as a page size, as a number or as a numeral. -/
def pageSizeInteger? : Json → Option Int
  | .num (.int n) => some n
  | .str text => Text.readSigned (Text.trim text)
  | _ => none

/-- The page size that a value stands for. -/
def PageSize.ofJson (value : Json) : Validated PageSize :=
  match (pageSizeInteger? value).bind PageSize.ofInt? with
  | some size => .ok size
  | none => .error (.invalidPageSize (givenPageSize value))

/-- The page size of a request, which may leave it to a default. -/
def PageSize.ofOptionalJson (default : PageSize) : Option Json → Validated PageSize
  | none | some .null => .ok default
  | some value => PageSize.ofJson value

section Lists

variable {S : Type} [DecidableEq S] [Tag S]

/-- The tags that a list names, each once, in the order of their first mention. -/
def NameList.tags (input : Option NameList) (fallback : List S) : Validated (List S) :=
  match (input.map NameList.entries).getD [] with
  | [] => .ok fallback
  | entries => do .ok (← entries.mapM (Tag.parse S)).eraseDups

/-- The validated form of one request. -/
def ReceivedRequest.check (defaultSize : PageSize) (raw : ReceivedRequest) :
    Validated (ScopeRequest S) := do
  let scope ← Tag.parse S (Text.trim raw.scopeName)
  let pageSize ← PageSize.ofOptionalJson defaultSize raw.pageSize
  .ok ⟨scope, pageSize, .ofOption raw.continueAfter⟩

/-- The validated forms of a list of requests; an empty list stands for the fallback. -/
def ReceivedRequest.checkAll (raw : List ReceivedRequest) (fallback : List S)
    (defaultSize : PageSize) : Validated (List (ScopeRequest S)) :=
  match raw with
  | [] => .ok (fallback.map (.first defaultSize))
  | raw => raw.mapM (ReceivedRequest.check defaultSize)

/-- The request that one entry of the compact form `tag:pageSize:cursor` stands for. The page size
may be empty, and everything after the second colon is the cursor. -/
def ReceivedRequest.ofCompact (entry : String) : ReceivedRequest :=
  let (scopeName, rest) := Text.cut ':' entry
  match rest.map (Text.cut ':') with
  | none => ⟨scopeName, none, none⟩
  | some (pageSize, cursor) =>
    ⟨scopeName, if pageSize = "" then none else some (.str pageSize), cursor⟩

/-- The requests of a list in compact form, its entries separated by commas. -/
def ScopeRequest.ofCompactList (text : String) (fallback : List S) (defaultSize : PageSize) :
    Validated (List (ScopeRequest S)) :=
  ReceivedRequest.checkAll ((Text.entries text).map .ofCompact) fallback defaultSize

end Lists

end ScopeComposer
