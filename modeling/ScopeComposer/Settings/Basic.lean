import ScopeComposer.Compose.Collection
import ScopeComposer.Scope.Catalogue

/-!
# Settings

What a user may set once for all runs: what is composed when a request leaves something open, and
how documents are sent.
-/

namespace ScopeComposer

open Json (Record Decoder)

/-- The settings of a user. -/
structure Settings where
  /-- Select the number of all elements of every paginated collection. -/
  withTotals : Bool := false
  /-- Add the essential scope of an account whenever one of its scopes is requested. -/
  withEssential : Bool := false
  /-- The issue states of a request that names none. -/
  defaultIssueStates : List IssueState := [.opened]
  /-- The page size of a scope request that names none. -/
  defaultPageSize : PageSize := .one
  /-- How often a call is made again after an internal failure. -/
  maxRetries : UInt32 := 0
  /-- How many seconds a call may take, if that is limited. -/
  requestTimeout : Option UInt64 := none
  /-- The address of the server, if it is not the usual one. -/
  baseUrl : Option String := none
deriving DecidableEq, Repr, Inhabited

namespace Settings

/-- The settings of a user who has set nothing. -/
def standard : Settings := {}

/-- How documents are composed. -/
def documentOptions (s : Settings) : DocumentOptions where
  withTotals := s.withTotals
  withEssential := s.withEssential

/-- Settings as JSON. -/
def toJson (s : Settings) : Json :=
  .obj [("debug_total_count", .bool s.withTotals),
    ("implicit_essential", .bool s.withEssential),
    ("default_issue_states", .ofList Tag.toJson s.defaultIssueStates),
    ("default_page_size", s.defaultPageSize.toJson),
    ("max_retries", .nat s.maxRetries.toNat),
    ("request_timeout_secs", .ofOption (fun n => .nat n.toNat) s.requestTimeout),
    ("api_base_url", .ofOptionalText s.baseUrl)]

/-- Decodes settings; what is left out keeps its standard value. -/
def decoder : Decoder Settings :=
  (Settings.mk
    <$> .orElse "debug_total_count" .bool standard.withTotals
    <*> .orElse "implicit_essential" .bool standard.withEssential
    <*> .orElse "default_issue_states" (.list Tag.decoder) standard.defaultIssueStates
    <*> .orElse "default_page_size" PageSize.decoder standard.defaultPageSize
    <*> .orElse "max_retries" .uint32 standard.maxRetries
    <*> .optional "request_timeout_secs" .uint64
    <*> .optional "api_base_url" .string : Record Settings).decoder "ComposerConfig"

end Settings

end ScopeComposer
