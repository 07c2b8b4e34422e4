import ScopeComposer.Scope.Tag

/-!
# The catalogues of scope tags

The five levels of the resource graph and the tags of each. The order in which the tags of a type
are declared is the order of its catalogue.
-/

namespace ScopeComposer

/-- The scopes of an organization or a user. -/
inductive AccountScope where
  | essential
  | info
  | packages
  | projects
  | all
deriving DecidableEq, Repr, Inhabited

/-- The scopes of a project. -/
inductive ProjectScope where
  | info
  /-- The repositories linked to the project; without it no repository scope has an effect. -/
  | repositories
deriving DecidableEq, Repr, Inhabited

/-- The scopes of a repository. -/
inductive RepositoryScope where
  | count
  | info
  | license
  | vulnerabilities
  | topics
  | labels
  | releases
  | deployments
  | languages
  | milestones
  | issues
  | all
deriving DecidableEq, Repr, Inhabited

/-- How deep a request for milestones reaches. -/
inductive MilestoneDepth where
  | info
  | issues
deriving DecidableEq, Repr, Inhabited

/-- The states of the issues of a milestone. -/
inductive IssueState where
  | opened
  | closed
deriving DecidableEq, Repr, Inhabited

namespace IssueState

/-- The state as a value of the GraphQL schema. -/
def enumValue : IssueState → String
  | .opened => "OPEN"
  | .closed => "CLOSED"

/-- The alias under which issues of this state are selected. -/
def responseKey : IssueState → String
  | .opened => "open_issues"
  | .closed => "closed_issues"

end IssueState

instance : Tag AccountScope where
  level := .account
  catalogue := [.essential, .info, .packages, .projects, .all]
  name
    | .essential => "essential"
    | .info => "info"
    | .packages => "packages"
    | .projects => "projects"
    | .all => "all"
  isAll t := t == .all
  isCount _ := false
  mem_catalogue t := by cases t <;> decide
  nodup_catalogue := by decide
  name_injective s t := by cases s <;> cases t <;> decide
  isLower_name t := by cases t <;> decide

instance : Tag ProjectScope where
  level := .project
  catalogue := [.info, .repositories]
  name
    | .info => "info"
    | .repositories => "repositories"
  isAll _ := false
  isCount _ := false
  mem_catalogue t := by cases t <;> decide
  nodup_catalogue := by decide
  name_injective s t := by cases s <;> cases t <;> decide
  isLower_name t := by cases t <;> decide

instance : Tag RepositoryScope where
  level := .repository
  catalogue :=
    [.count, .info, .license, .vulnerabilities, .topics, .labels, .releases, .deployments,
      .languages, .milestones, .issues, .all]
  name
    | .count => "count"
    | .info => "info"
    | .license => "license"
    | .vulnerabilities => "vulnerabilities"
    | .topics => "topics"
    | .labels => "labels"
    | .releases => "releases"
    | .deployments => "deployments"
    | .languages => "languages"
    | .milestones => "milestones"
    | .issues => "issues"
    | .all => "all"
  isAll t := t == .all
  isCount t := t == .count
  mem_catalogue t := by cases t <;> decide
  nodup_catalogue := by decide
  name_injective s t := by cases s <;> cases t <;> decide
  isLower_name t := by cases t <;> decide

instance : Tag MilestoneDepth where
  level := .milestoneDepth
  catalogue := [.info, .issues]
  name
    | .info => "info"
    | .issues => "issues"
  isAll _ := false
  isCount _ := false
  mem_catalogue t := by cases t <;> decide
  nodup_catalogue := by decide
  name_injective s t := by cases s <;> cases t <;> decide
  isLower_name t := by cases t <;> decide

instance : Tag IssueState where
  level := .issueState
  catalogue := [.opened, .closed]
  name
    | .opened => "open"
    | .closed => "closed"
  isAll _ := false
  isCount _ := false
  mem_catalogue t := by cases t <;> decide
  nodup_catalogue := by decide
  name_injective s t := by cases s <;> cases t <;> decide
  isLower_name t := by cases t <;> decide

end ScopeComposer
