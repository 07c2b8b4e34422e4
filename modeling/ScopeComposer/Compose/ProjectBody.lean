import ScopeComposer.Compose.Account
import ScopeComposer.Scope.Validation

/-!
# Project bodies

A request for a project in structured form: the scopes of the project and those of its repositories
as records, and the states of the issues.
-/

namespace ScopeComposer

open Json (Record Decoder)

/-- A request for a project as received. -/
structure ProjectBody where
  /-- The requests for the project. -/
  projectScopes : List ReceivedRequest
  /-- The requests for its repositories. -/
  repositoryScopes : List ReceivedRequest
  /-- The states of the issues, if any were given. -/
  issueStates : Option NameList

namespace ProjectBody

/-- A body as JSON. -/
def toJson (b : ProjectBody) : Json :=
  .obj [("project_scopes", .ofList ReceivedRequest.toJson b.projectScopes),
    ("repository_scopes", .ofList ReceivedRequest.toJson b.repositoryScopes),
    ("issue_states", .ofOption NameList.toJson b.issueStates)]

/-- Decodes a body; every field has two spellings and may be left out. -/
def decoder : Decoder ProjectBody :=
  (ProjectBody.mk
    <$> .field ["project_scopes", "projectScopes"] (.list ReceivedRequest.decoder) (.orElse [])
    <*> .field ["repository_scopes", "repositoryScopes"] (.list ReceivedRequest.decoder)
      (.orElse [])
    <*> .field ["issue_states", "issueStates"] NameList.decoder.option (.orElse none) :
      Record ProjectBody).decoder "ProjectScopeBody"

/-- The configuration that a body asks for. Project scopes are checked first, then repository
scopes, then issue states. -/
def validate (b : ProjectBody) (defaultStates : List IssueState) (defaultSize : PageSize) :
    Validated ProjectConfig := do
  let projectScopes ← ReceivedRequest.checkAll b.projectScopes ProjectScope.fallback defaultSize
  let repositoryScopes ←
    ReceivedRequest.checkAll b.repositoryScopes RepositoryScope.fallback defaultSize
  let states ← NameList.tags b.issueStates defaultStates
  .ok ⟨projectScopes, ⟨repositoryScopes, .list, none, states⟩⟩

end ProjectBody

end ScopeComposer
