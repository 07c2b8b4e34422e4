import ScopeComposer.CommandLine.Command
import ScopeComposer.Compose.ProjectBody
import ScopeComposer.Settings.Basic

/-!
# The document of a command

Everything that a command was given is checked before anything is composed, also what the document
then has no place for. Whether a repository is well written and whether a body can be read comes
first, then come the scopes, from the outermost level inwards, and the states of issues last.
-/

namespace ScopeComposer.CommandLine

/-- Why a command has no document. -/
inductive ComposeError where
  /-- A scope or a page size is refused. -/
  | scope (reason : ValidationError)
  /-- A repository is not written as owner and name. -/
  | repository (shorthand : String)
  /-- The body cannot be read. -/
  | unreadableBody (path : String)
  /-- The text of the body is not one. -/
  | malformedBody
deriving DecidableEq, Repr

/-- The path that stands for the standard input. -/
def standardInput : String := "-"

/-- The text of what is wrong with a command. -/
def ComposeError.message : ComposeError → String
  | .scope reason => reason.message
  | .repository shorthand => RepositoryAddress.shorthandError shorthand
  | .unreadableBody path =>
    if path = standardInput then "Failed to read body from stdin"
    else "Failed to read body file " ++ path
  | .malformedBody => "Failed to parse project body"

/-- What composing gives. -/
abbrev Composing (α : Type) := Except ComposeError α

/-- A document with the name of the call that sends it. -/
structure Composed where
  /-- The name of the call. -/
  name : String
  /-- The document. -/
  document : String
deriving DecidableEq, Repr

/-- The requests of a scope list that may not be given. -/
def scopeRequests {S : Type} [DecidableEq S] [Tag S] (settings : Settings) (text : Option String)
    (fallback : List S) : Validated (List (ScopeRequest S)) :=
  ScopeRequest.ofCompactList (text.getD "") fallback settings.defaultPageSize

/-- The issue states of a list that may not be given. -/
def requestedStates (settings : Settings) (text : Option String) : Validated (List IssueState) :=
  NameList.tags (text.map .joined) settings.defaultIssueStates

/-- One milestone if a number is given, and the list of all otherwise. -/
def milestoneAddress : Option UInt64 → MilestoneAddress
  | some number => .single number
  | none => .list

/-- What is selected of repositories. -/
def RepositoryFlags.validate (f : RepositoryFlags) (settings : Settings) :
    Validated RepositoryConfig := do
  let scopes ← scopeRequests settings f.scopes RepositoryScope.fallback
  let states ← requestedStates settings f.issueStates
  .ok ⟨scopes, milestoneAddress f.milestone, none, states⟩

/-- What is selected of a repository for its milestones. -/
def MilestoneFlags.validate (f : MilestoneFlags) (settings : Settings) :
    Validated RepositoryConfig := do
  let depth ← NameList.tags (f.depth.map .joined) MilestoneDepth.fallback
  let pageSize ← PageSize.ofJson (.int f.pageSize)
  let issuesPageSize ← PageSize.ofJson (.int f.issuesPageSize)
  let states ← requestedStates settings f.issueStates
  .ok (.ofMilestones (milestoneAddress f.number) depth ⟨pageSize, .ofOption f.after⟩
    ⟨issuesPageSize, .ofOption f.issuesAfter⟩ states)

/-- What is selected of projects by flags. -/
def projectConfig (settings : Settings) (scopes : Option String) (repositories : RepositoryFlags) :
    Validated ProjectConfig := do
  let scopes ← scopeRequests settings scopes ProjectScope.fallback
  let repositories ← repositories.validate settings
  .ok ⟨scopes, repositories⟩

/-- What is selected of an account. -/
def accountConfig (settings : Settings) (scopes projectScopes : Option String)
    (repositories : RepositoryFlags) : Validated AccountConfig := do
  let scopes ← scopeRequests settings scopes AccountScope.fallback
  let projects ← projectConfig settings projectScopes repositories
  .ok ⟨scopes, projects⟩

/-- The body at a path, given the texts that can be read. -/
def readBody (bodyText : String → Option String) (path : String) : Composing ProjectBody :=
  match bodyText path with
  | none => .error (.unreadableBody path)
  | some text =>
    match ProjectBody.decoder.ofText? text with
    | none => .error .malformedBody
    | some body => .ok body

/-- The repository of a shorthand. -/
def readRepository (shorthand : String) : Composing RepositoryAddress :=
  match RepositoryAddress.ofShorthand? shorthand with
  | none => .error (.repository shorthand)
  | some repository => .ok repository

/-- What is selected of one project. With a body the flags for repositories are not looked at. -/
def ProjectSource.validate (source : ProjectSource) (repositories : RepositoryFlags)
    (settings : Settings) (bodyText : String → Option String) : Composing ProjectConfig :=
  match source with
  | .scopes text => (projectConfig settings text repositories).mapError .scope
  | .body path => do
    let body ← readBody bodyText path
    (body.validate settings.defaultIssueStates settings.defaultPageSize).mapError .scope

/-- The document of a command. -/
def Command.compose (command : Command) (settings : Settings)
    (bodyText : String → Option String) : Composing Composed :=
  let options := settings.documentOptions
  match command with
  | .account target scopes projectScopes repositories => do
    let c ← (accountConfig settings scopes projectScopes repositories).mapError .scope
    .ok ⟨"account", accountDocument target c options⟩
  | .project target identity source repositories => do
    let c ← source.validate repositories settings bodyText
    .ok ⟨"project", projectDocument target (.ofRaw identity) c options⟩
  | .repository shorthand flags => do
    let repository ← readRepository shorthand
    let c ← (flags.validate settings).mapError .scope
    .ok ⟨"repository", repositoryDocument repository c options⟩
  | .milestones shorthand flags => do
    let repository ← readRepository shorthand
    let c ← (flags.validate settings).mapError .scope
    .ok ⟨"milestones", repositoryDocument repository c options⟩
  | .quota => .ok ⟨"rate_limit", quotaDocument⟩

end ScopeComposer.CommandLine
