import ScopeComposer.Graphql.Fragment
import ScopeComposer.Json.Record
import ScopeComposer.Paging.Window

/-!
# Paginated collections

A collection is selected with what it says of its pages and with the fields of its nodes, and on
demand with the number of all its elements.
-/

namespace ScopeComposer

open Json (Record Decoder)

/-- What changes the composed text besides the requested scopes. -/
structure DocumentOptions where
  /-- Select the number of all elements of every paginated collection. -/
  withTotals : Bool
  /-- Add the essential scope of an account whenever one of its scopes is requested. -/
  withEssential : Bool
deriving DecidableEq, Repr

namespace DocumentOptions

/-- Nothing is added. -/
def plain : DocumentOptions := ⟨false, false⟩

instance : Inhabited DocumentOptions := ⟨plain⟩

/-- The options as JSON. -/
def toJson (o : DocumentOptions) : Json :=
  .obj [("include_total_count", .bool o.withTotals),
    ("implicit_essential", .bool o.withEssential)]

/-- Decodes options; both have to be given. -/
def decoder : Decoder DocumentOptions :=
  (DocumentOptions.mk
    <$> .required "include_total_count" .bool
    <*> .required "implicit_essential" .bool : Record DocumentOptions).decoder "ComposeOptions"

end DocumentOptions

namespace Graphql

/-- The field that holds the number of all elements of a collection. -/
def totalCount : String := "totalCount"

/-- A collection under a head: its number of elements if wanted, its pages, and its nodes. -/
def collection (head : String) (withTotal : Bool) (nodes : String) : String :=
  block head
    ((if withTotal then totalCount else "") ++ "\n" ++ pageInfo ++ "\n" ++ block "nodes" nodes)

/-- A window of the collection in a field, with fixed fields of its nodes. -/
def scopedCollection (field : String) (w : PageWindow) (options : DocumentOptions)
    (fields : List Field) : String :=
  collection (field ++ "(" ++ w.arguments ++ ")") options.withTotals (layout 1 fields)

/-- The packages of an account. -/
def packages (w : PageWindow) (options : DocumentOptions) : String :=
  scopedCollection "packages" w options packageFields

/-- The vulnerability alerts of a repository. -/
def vulnerabilities (w : PageWindow) (options : DocumentOptions) : String :=
  scopedCollection "vulnerabilityAlerts" w options vulnerabilityFields

/-- The topics of a repository. -/
def topics (w : PageWindow) (options : DocumentOptions) : String :=
  scopedCollection "repositoryTopics" w options topicFields

/-- The labels of a repository. -/
def labels (w : PageWindow) (options : DocumentOptions) : String :=
  scopedCollection "labels" w options labelFields

/-- The releases of a repository. -/
def releases (w : PageWindow) (options : DocumentOptions) : String :=
  scopedCollection "releases" w options releaseFields

/-- The deployments of a repository. -/
def deployments (w : PageWindow) (options : DocumentOptions) : String :=
  scopedCollection "deployments" w options deploymentFields

/-- The main language of a repository, and the collection of all its languages. -/
def languages (w : PageWindow) (options : DocumentOptions) : String :=
  block "primaryLanguage" (layout 1 languageFields) ++ "\n" ++
    scopedCollection "languages" w options languageFields

end Graphql

end ScopeComposer
