import ScopeComposer.CommandLine.Grammar
import ScopeComposer.Target.Account
import ScopeComposer.Text.Numeral

/-!
# Commands

What the program can be asked to do: one command for each kind of document, with flags of its own
and with the flags that every command has. The common flags may stand before or after the name of
the command; if one is given on both sides, the later one counts.
-/

namespace ScopeComposer.CommandLine

/-- The flags that every command has. -/
structure CommonFlags where
  /-- Send the document instead of printing it. -/
  execute : Bool := false
  /-- The token to send it with. -/
  token : Option String := none
  /-- The token belongs to an installation of an app. -/
  app : Bool := false
  /-- The path of the file with the settings. -/
  config : Option String := none
  /-- How many seconds a call may take. -/
  requestTimeout : Option UInt64 := none
deriving DecidableEq, Repr, Inhabited

/-- The flags of a command that concern repositories. -/
structure RepositoryFlags where
  /-- The scopes of the repositories in compact form. -/
  scopes : Option String
  /-- The states of the issues. -/
  issueStates : Option String
  /-- The number of the only milestone. -/
  milestone : Option UInt64
deriving DecidableEq, Repr, Inhabited

/-- The flags of a command that concern milestones. -/
structure MilestoneFlags where
  /-- The number of the only milestone. -/
  number : Option UInt64
  /-- How deep the selection reaches. -/
  depth : Option String
  /-- The states of the issues. -/
  issueStates : Option String
  /-- The page size of the milestones. -/
  pageSize : Int
  /-- The cursor of the milestones. -/
  after : Option String
  /-- The page size of the issues. -/
  issuesPageSize : Int
  /-- The cursor of the issues. -/
  issuesAfter : Option String
deriving DecidableEq, Repr, Inhabited

/-- Where a command takes the scopes of a project from. -/
inductive ProjectSource where
  /-- From a flag in compact form; without it from the defaults. -/
  | scopes (text : Option String)
  /-- From a body in a file, which also says all about the repositories. -/
  | body (path : String)
deriving DecidableEq, Repr, Inhabited

/-- A command. -/
inductive Command where
  /-- A document about an account and its projects. -/
  | account (target : Account) (scopes projectScopes : Option String)
      (repositories : RepositoryFlags)
  /-- A document about one project. -/
  | project (target : Account) (identity : String) (source : ProjectSource)
      (repositories : RepositoryFlags)
  /-- A document about one repository. -/
  | repository (shorthand : String) (flags : RepositoryFlags)
  /-- A document about the milestones of a repository. -/
  | milestones (shorthand : String) (flags : MilestoneFlags)
  /-- A document about the request quota. -/
  | quota
deriving DecidableEq, Repr, Inhabited

/-- A command with the common flags. -/
structure Invocation where
  /-- The common flags. -/
  common : CommonFlags
  /-- The command. -/
  command : Command
deriving DecidableEq, Repr, Inhabited

/-- Reads an unsigned integer of 64 bits. -/
def unsignedValue (text : String) : Option UInt64 := (Text.readBelow UInt64.size text).map .ofNat

/-- Reads a signed integer of 64 bits. -/
def signedValue (text : String) : Option Int :=
  (Text.readSigned text).filter fun n => -(Text.signedBound : Int) ≤ n ∧ n < Text.signedBound

/-- Reads a path, which may not be empty. -/
def pathValue (text : String) : Option String := if text = "" then none else some text

namespace CommonFlags

/-- The options for the common flags. -/
def options : List (String × Action CommonFlags) :=
  [("execute", .flag (·.execute) fun f => { f with execute := true }),
    ("github-token", .once some (·.token) fun v f => { f with token := some v }),
    ("app", .flag (·.app) fun f => { f with app := true }),
    ("config", .once pathValue (·.config) fun v f => { f with config := some v }),
    ("request-timeout",
      .once unsignedValue (·.requestTimeout) fun v f => { f with requestTimeout := some v })]

/-- Flags from before the name of a command together with those from after it. -/
def followedBy (first second : CommonFlags) : CommonFlags where
  execute := first.execute || second.execute
  token := second.token.or first.token
  app := first.app || second.app
  config := second.config.or first.config
  requestTimeout := second.requestTimeout.or first.requestTimeout

end CommonFlags

/-- All flags that can stand after the name of some command. -/
structure Flags where
  /-- The common flags. -/
  common : CommonFlags := {}
  /-- The account is a user. -/
  user : Bool := false
  /-- The scopes of what the command is about. -/
  scopes : Option String := none
  /-- The scopes of projects. -/
  projectScopes : Option String := none
  /-- The scopes of repositories. -/
  repositoryScopes : Option String := none
  /-- The states of issues. -/
  issueStates : Option String := none
  /-- The number of the only milestone, where milestones are part of something else. -/
  milestone : Option UInt64 := none
  /-- The path of a body. -/
  body : Option String := none
  /-- The number of the only milestone. -/
  number : Option UInt64 := none
  /-- How deep milestones are selected. -/
  depth : Option String := none
  /-- The page size of milestones. -/
  pageSize : Option Int := none
  /-- The cursor of milestones. -/
  after : Option String := none
  /-- The page size of issues. -/
  issuesPageSize : Option Int := none
  /-- The cursor of issues. -/
  issuesAfter : Option String := none
deriving Inhabited

namespace Flags

/-- The options for all flags that are not common. -/
def ownOptions : List (String × Action Flags) :=
  [("user", .flag (·.user) fun f => { f with user := true }),
    ("scopes", .once some (·.scopes) fun v f => { f with scopes := some v }),
    ("project-scopes",
      .once some (·.projectScopes) fun v f => { f with projectScopes := some v }),
    ("repository-scopes",
      .once some (·.repositoryScopes) fun v f => { f with repositoryScopes := some v }),
    ("issue-states", .once some (·.issueStates) fun v f => { f with issueStates := some v }),
    ("milestone", .once unsignedValue (·.milestone) fun v f => { f with milestone := some v }),
    ("body", .once pathValue (·.body) fun v f => { f with body := some v }),
    ("number", .once unsignedValue (·.number) fun v f => { f with number := some v }),
    ("depth", .once some (·.depth) fun v f => { f with depth := some v }),
    ("page-size", .once signedValue (·.pageSize) fun v f => { f with pageSize := some v }),
    ("after", .once some (·.after) fun v f => { f with after := some v }),
    ("issues-page-size",
      .once signedValue (·.issuesPageSize) fun v f => { f with issuesPageSize := some v }),
    ("issues-after", .once some (·.issuesAfter) fun v f => { f with issuesAfter := some v })]

/-- The options of a command that has some of the flags besides the common ones. -/
def options (own : List String) : List (String × Action Flags) :=
  (CommonFlags.options.map fun (name, action) =>
    (name, action.within (·.common) fun c (f : Flags) => { f with common := c })) ++
      ownOptions.filter fun (name, _) => own.contains name

/-- The account with a login. -/
def account (f : Flags) (login : String) : Account :=
  ⟨login, if f.user then .user else .organization⟩

/-- What the flags say of repositories that are part of something else. -/
def repositories (f : Flags) : RepositoryFlags := ⟨f.repositoryScopes, f.issueStates, f.milestone⟩

/-- What the flags say of the only repository. -/
def repository (f : Flags) : RepositoryFlags := ⟨f.scopes, f.issueStates, f.milestone⟩

/-- What the flags say of milestones, of which ten are selected unless they say otherwise. -/
def milestones (f : Flags) : MilestoneFlags where
  number := f.number
  depth := f.depth
  issueStates := f.issueStates
  pageSize := f.pageSize.getD 10
  after := f.after
  issuesPageSize := f.issuesPageSize.getD 10
  issuesAfter := f.issuesAfter

/-- What the flags say of a project; scopes and a body exclude each other. -/
def projectSource? (f : Flags) : Option ProjectSource :=
  match f.scopes, f.body with
  | some _, some _ => none
  | none, some path => some (.body path)
  | scopes, none => some (.scopes scopes)

end Flags

/-- How a command is given: its own flags, its operands, and what they amount to. -/
structure CommandForm where
  /-- The names of its own flags. -/
  flags : List String
  /-- The number of its operands. -/
  operands : Nat
  /-- The command, if flags and operands fit together. -/
  build : Flags → List String → Option Command

namespace CommandForm

/-- The form of the command about an account. -/
def account : CommandForm where
  flags :=
    ["user", "scopes", "project-scopes", "repository-scopes", "issue-states", "milestone"]
  operands := 1
  build f
    | [login] => some (.account (f.account login) f.scopes f.projectScopes f.repositories)
    | _ => none

/-- The form of the command about one project. -/
def project : CommandForm where
  flags := ["user", "scopes", "body", "repository-scopes", "issue-states", "milestone"]
  operands := 2
  build f
    | [login, identity] => do
      let source ← f.projectSource?
      some (.project (f.account login) identity source f.repositories)
    | _ => none

/-- The form of the command about one repository. -/
def repository : CommandForm where
  flags := ["scopes", "issue-states", "milestone"]
  operands := 1
  build f
    | [shorthand] => some (.repository shorthand f.repository)
    | _ => none

/-- The form of the command about milestones. -/
def milestones : CommandForm where
  flags :=
    ["number", "depth", "issue-states", "page-size", "after", "issues-page-size", "issues-after"]
  operands := 1
  build f
    | [shorthand] => some (.milestones shorthand f.milestones)
    | _ => none

/-- The form of the command about the request quota. -/
def quota : CommandForm where
  flags := []
  operands := 0
  build _ _ := some .quota

/-- All commands by their names. -/
def all : List (String × CommandForm) :=
  [("account", account), ("project", project), ("repository", repository),
    ("milestones", milestones), ("quota", quota)]

/-- The names that may stand where a command is wanted; one of them asks for help. -/
def names : List String := all.map (·.1) ++ ["help"]

/-- Reads the arguments after the name of a command. -/
def read (form : CommandForm) (args : List String) : Except Stop (CommonFlags × Command) := do
  let g : Grammar Flags := { options := Flags.options form.flags, operands := form.operands }
  let scanned ← g.scan {} args
  match form.build scanned.flags scanned.operands with
  | some command => .ok (scanned.flags.common, command)
  | none => .error .misuse

end CommandForm

namespace Invocation

/-- What stands before the name of a command. -/
def grammar : Grammar CommonFlags where
  options := CommonFlags.options
  commands := CommandForm.names
  hasVersion := true

/-- Why nothing is done after help was asked for by name. -/
def helpStop : List String → Stop
  | [] => .help
  | [name] => if CommandForm.names.contains name then .help else .misuse
  | _ => .misuse

/-- Reads the arguments of the program. -/
def ofArguments (args : List String) : Except Stop Invocation := do
  let scanned ← grammar.scan {} args
  match scanned.command with
  | none => .error .misuse
  | some (name, rest) =>
    match CommandForm.all.lookup name with
    | none => .error (helpStop rest)
    | some form =>
      let (common, command) ← form.read rest
      .ok ⟨scanned.flags.followedBy common, command⟩

/-- The path of the body that an invocation needs, if it needs one. -/
def bodyPath? (i : Invocation) : Option String :=
  match i.command with
  | .project _ _ (.body path) _ => some path
  | _ => none

end Invocation

end ScopeComposer.CommandLine
