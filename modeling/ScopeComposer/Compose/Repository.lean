import ScopeComposer.Compose.Milestone
import ScopeComposer.Target.Repository

/-!
# Repositories

The selection of a repository node: its name, and what each of its scopes contributes, in the order
of the catalogue. The scopes `milestones` and `issues` share one milestone level, which stands where
the first of them would.
-/

namespace ScopeComposer

open Json (Record Decoder)

/-- What is selected of a repository. -/
structure RepositoryConfig where
  /-- The requested scopes. -/
  scopes : List (ScopeRequest RepositoryScope)
  /-- Which milestones, where milestones or issues are requested. -/
  milestone : MilestoneAddress
  /-- The window of the milestone list where only the issues are requested. -/
  milestoneWindow : Option PageWindow
  /-- The states of the issues; none means open issues only. -/
  issueStates : List IssueState
deriving DecidableEq

namespace RepositoryConfig

/-- The given scopes, with all milestones and open issues. -/
def ofScopes (scopes : List (ScopeRequest RepositoryScope)) : RepositoryConfig :=
  ⟨scopes, .list, none, []⟩

instance : Inhabited RepositoryConfig := ⟨ofScopes []⟩

/-- A configuration as JSON. -/
def toJson (c : RepositoryConfig) : Json :=
  .obj [("scopes", .ofList ScopeRequest.toJson c.scopes), ("milestone", c.milestone.toJson),
    ("milestone_window", .ofOption PageWindow.toJson c.milestoneWindow),
    ("issue_states", .ofList Tag.toJson c.issueStates)]

/-- Decodes a configuration; only the scopes have to be there. -/
def decoder : Decoder RepositoryConfig :=
  (RepositoryConfig.mk
    <$> .required "scopes" (.list ScopeRequest.decoder)
    <*> .orElse "milestone" MilestoneAddress.decoder .list
    <*> .optional "milestone_window" PageWindow.decoder
    <*> .orElse "issue_states" (.list Tag.decoder) [] : Record RepositoryConfig).decoder
    "RepositoryQueryConfig"

/-- The request by which a level of milestone depth is reached from a repository. -/
def depthRequest (milestones issues : PageWindow) :
    MilestoneDepth → ScopeRequest RepositoryScope
  | .info => .ofWindow .milestones milestones
  | .issues => .ofWindow .issues issues

/-- The configuration of a request for milestones: one window pages the milestones, the other the
issues of each. -/
def ofMilestones (address : MilestoneAddress) (depth : List MilestoneDepth)
    (milestones issues : PageWindow) (states : List IssueState) : RepositoryConfig where
  scopes := (ResolvedScopes.ofTags depth).tags.map (depthRequest milestones issues)
  milestone := address
  milestoneWindow := some milestones
  issueStates := states

/-- The states whose issues are selected. -/
def statesInUse (c : RepositoryConfig) : List IssueState :=
  if c.issueStates.isEmpty then [.opened] else c.issueStates

/-- The milestone level, if milestones or issues are among the resolved scopes. -/
def milestoneLevel? (c : RepositoryConfig) (scopes : ResolvedScopes RepositoryScope) :
    Option MilestoneConfig :=
  let milestones := scopes.window? .milestones
  let issues := scopes.window? .issues
  if milestones.isNone && issues.isNone then none
  else some {
    address := c.milestone
    window := (milestones.or c.milestoneWindow).getD .nested
    depth :=
      (if milestones.isSome then [.info] else []) ++ (if issues.isSome then [.issues] else [])
    issues := ⟨issues.getD .nested, c.statesInUse⟩ }

/-- The text of the milestone level. -/
def milestoneText (c : RepositoryConfig) (scopes : ResolvedScopes RepositoryScope)
    (options : DocumentOptions) : List String :=
  (c.milestoneLevel? scopes).toList.map (·.text options)

/-- The parts that one resolved scope contributes. The milestone level comes with the milestones,
and with the issues only if there are no milestones before them. -/
def parts (c : RepositoryConfig) (scopes : ResolvedScopes RepositoryScope)
    (options : DocumentOptions) (scope : RepositoryScope) : List String :=
  let w := scopes.windowOf scope
  match scope with
  | .count | .all => []
  | .info => [Graphql.layout 1 Graphql.repositoryInfo]
  | .license => [Graphql.layout 0 Graphql.license]
  | .vulnerabilities => [Graphql.vulnerabilities w options]
  | .topics => [Graphql.topics w options]
  | .labels => [Graphql.labels w options]
  | .releases => [Graphql.releases w options]
  | .deployments => [Graphql.deployments w options]
  | .languages => [Graphql.languages w options]
  | .milestones => c.milestoneText scopes options
  | .issues => if scopes.contains .milestones then [] else c.milestoneText scopes options

/-- The body of a repository node with the given resolved scopes. -/
def body (c : RepositoryConfig) (scopes : ResolvedScopes RepositoryScope)
    (options : DocumentOptions) : String :=
  Graphql.stack ("name" :: scopes.tags.flatMap (c.parts scopes options))

/-- The fields of one repository node. -/
def selection (c : RepositoryConfig) (options : DocumentOptions) : String :=
  c.body (.resolve c.scopes) options

/-- The repositories linked to a project. If nothing but their number is asked for, nothing else is
selected of them; if their number is asked for besides other scopes, it is added. -/
def linkedSelection (c : RepositoryConfig) (w : PageWindow) (options : DocumentOptions) : String :=
  let scopes := ResolvedScopes.resolve c.scopes
  let head := "repositories(" ++ w.arguments ++ ")"
  if scopes.asksOnlyNumber then Graphql.block head Graphql.totalCount
  else
    Graphql.collection head (options.withTotals || scopes.asksNumber) (c.body scopes options)

end RepositoryConfig

/-- The document for one repository. -/
def repositoryDocument (repository : RepositoryAddress) (c : RepositoryConfig)
    (options : DocumentOptions) : String :=
  let head := "repository(owner: " ++ Graphql.literal repository.owner ++ ", name: " ++
    Graphql.literal repository.name ++ ")"
  Graphql.document (Graphql.block head (c.selection options))

end ScopeComposer
