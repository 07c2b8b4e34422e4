import ScopeComposer.Compose.Repository
import ScopeComposer.Target.Account
import ScopeComposer.Target.Project

/-!
# Accounts and projects

The selection of an account node, the selection of a project node inside it, and the documents that
are rooted at an account. The repositories of a project are reached through the project scope
`repositories`, and the projects of an account through the account scope `projects`; without them
the configuration of the inner level has no effect.
-/

namespace ScopeComposer

open Json (Record Decoder)

/-- What is selected of a project. -/
structure ProjectConfig where
  /-- The requested scopes. -/
  scopes : List (ScopeRequest ProjectScope)
  /-- What is selected of the linked repositories. -/
  repositories : RepositoryConfig
deriving DecidableEq, Inhabited

/-- How projects are reached from an account. -/
inductive ProjectAddress where
  /-- A single project. -/
  | single (identity : ProjectIdentity)
  /-- One page of the list of projects. -/
  | list (window : PageWindow)
deriving DecidableEq, Inhabited

namespace ProjectConfig

/-- A configuration as JSON. -/
def toJson (c : ProjectConfig) : Json :=
  .obj [("scopes", .ofList ScopeRequest.toJson c.scopes), ("repositories", c.repositories.toJson)]

/-- Decodes a configuration; only the scopes have to be there. -/
def decoder : Decoder ProjectConfig :=
  (ProjectConfig.mk
    <$> .required "scopes" (.list ScopeRequest.decoder)
    <*> .orElse "repositories" RepositoryConfig.decoder default : Record ProjectConfig).decoder
    "ProjectQueryConfig"

/-- The part that one resolved scope contributes. -/
def part (c : ProjectConfig) (scopes : ResolvedScopes ProjectScope) (options : DocumentOptions) :
    ProjectScope → String
  | .info => Graphql.layout 1 Graphql.projectInfo
  | .repositories => c.repositories.linkedSelection (scopes.windowOf .repositories) options

/-- The body of a project node. -/
def body (c : ProjectConfig) (options : DocumentOptions) : String :=
  let scopes := ResolvedScopes.resolve c.scopes
  Graphql.stack ("number" :: "title" :: scopes.tags.map (c.part scopes options))

/-- Projects as a field of an account. A name is looked up among all projects, and the first match
is taken. -/
def selection (c : ProjectConfig) (address : ProjectAddress) (options : DocumentOptions) :
    String :=
  match address with
  | .single (.name name) =>
    Graphql.block ("projectsV2(query: " ++ Graphql.literal name ++ ", first: 1)")
      (Graphql.block "nodes" (c.body options))
  | .single (.number number) =>
    Graphql.block ("projectV2(number: " ++ toString number ++ ")") (c.body options)
  | .list w =>
    Graphql.collection ("projectsV2(" ++ w.arguments ++ ")") options.withTotals
      (c.body options)

end ProjectConfig

/-- What is selected of an account. -/
structure AccountConfig where
  /-- The requested scopes. -/
  scopes : List (ScopeRequest AccountScope)
  /-- What is selected of the projects. -/
  projects : ProjectConfig
deriving DecidableEq, Inhabited

namespace AccountConfig

/-- A configuration as JSON. -/
def toJson (c : AccountConfig) : Json :=
  .obj [("scopes", .ofList ScopeRequest.toJson c.scopes), ("projects", c.projects.toJson)]

/-- Decodes a configuration; only the scopes have to be there. -/
def decoder : Decoder AccountConfig :=
  (AccountConfig.mk
    <$> .required "scopes" (.list ScopeRequest.decoder)
    <*> .orElse "projects" ProjectConfig.decoder default : Record AccountConfig).decoder
    "AccountQueryConfig"

/-- The scopes of an account that are in effect: where the essential scope is implied, it joins
any other scope. -/
def resolved (c : AccountConfig) (options : DocumentOptions) : ResolvedScopes AccountScope :=
  let scopes := ResolvedScopes.resolve c.scopes
  if options.withEssential && !scopes.isEmpty then scopes.addIfAbsent .essential .standard
  else scopes

/-- The parts that one resolved scope contributes. -/
def parts (c : AccountConfig) (kind : AccountKind) (scopes : ResolvedScopes AccountScope)
    (options : DocumentOptions) (scope : AccountScope) : List String :=
  let w := scopes.windowOf scope
  match scope with
  | .essential =>
    [Graphql.layout 1 <| match kind with
      | .organization => Graphql.organizationEssential
      | .user => Graphql.userEssential]
  | .info =>
    [Graphql.layout 1 <| match kind with
      | .organization => Graphql.organizationInfo
      | .user => Graphql.userInfo]
  | .packages => [Graphql.packages w options]
  | .projects => [c.projects.selection (.list w) options]
  | .all => []

/-- The fields of an account node. -/
def selection (c : AccountConfig) (kind : AccountKind) (options : DocumentOptions) : String :=
  let scopes := c.resolved options
  Graphql.stack (scopes.tags.flatMap (c.parts kind scopes options))

end AccountConfig

/-- The root field of an account, with its login before everything else. -/
def Account.root (account : Account) (body : String) : String :=
  Graphql.block (account.kind.text ++ "(login: " ++ Graphql.literal account.login ++ ")")
    (Graphql.stack ["login", body])

/-- The document for an account. -/
def accountDocument (account : Account) (c : AccountConfig) (options : DocumentOptions) : String :=
  Graphql.document (Account.root account (c.selection account.kind options))

/-- The document for a single project of an account. -/
def projectDocument (account : Account) (identity : ProjectIdentity) (c : ProjectConfig)
    (options : DocumentOptions) : String :=
  Graphql.document (Account.root account (c.selection (.single identity) options))

/-- The document for the request quota of a credential. -/
def quotaDocument : String :=
  Graphql.document
    (Graphql.block "rateLimit" (Text.unlines (Graphql.fieldLines 0 Graphql.quotaFields)))

end ScopeComposer
