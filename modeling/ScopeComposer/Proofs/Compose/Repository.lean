import ScopeComposer.Compose.Repository
import ScopeComposer.Proofs.Compose.Collection

/-!
# Repositories as fields

The fields that the text of a repository node is read as, level by level: the issues of a milestone,
the milestone level, the parts of a repository, and the repositories linked to a project. One lemma
for each level takes the text of the level to its fields.
-/

namespace ScopeComposer

open Graphql

/-! ## Milestones -/

namespace MilestoneIssues

/-- The head of the field of one state. -/
def fieldHead (s : MilestoneIssues) (state : IssueState) : Head :=
  ⟨some state.responseKey, "issues",
    s.window.argumentList ++ [⟨"states", .list [.name state.enumValue]⟩]⟩

/-- The field of one state. -/
def field (s : MilestoneIssues) (options : DocumentOptions) (state : IssueState) : Selection :=
  .node (s.fieldHead state) (collectionFields options.withTotals (fieldSelections issueFields))

/-- The fields of the issues, one for each state that is asked for. -/
def fields (s : MilestoneIssues) (options : DocumentOptions) : List Selection :=
  (ResolvedScopes.ofTags s.states).tags.map (s.field options)

/-- The head of the issues of one state is written as composing writes it. -/
theorem text_fieldHead (s : MilestoneIssues) (state : IssueState) :
    (s.fieldHead state).text = s.head state := by
  rw [head, ← text_arguments]
  apply String.ext
  simp [fieldHead, Head.text, argumentsText, PageWindow.argumentList, Argument.text, Value.text,
    Scalar.text]

/-- The names in it are names of the language, also those that come from the state. -/
theorem isNamed_fieldHead (s : MilestoneIssues) (state : IssueState) :
    (s.fieldHead state).isNamed = true := by
  have hkey : isName state.responseKey = true ∧ isName state.enumValue = true := by
    cases state <;> decide
  have hnames : isName "issues" = true ∧ isName "states" = true := by decide
  rw [Head.isNamed, fieldHead, List.all_append, isNamed_arguments]
  simp [hkey, hnames, Value.isNamed, Scalar.isNamed]

/-- The issues of a milestone are read as one field for each state that is asked for, in the order
of the catalogue. -/
theorem reads (s : MilestoneIssues) (options : DocumentOptions) :
    Reads [s.text options] (s.fields options) := by
  have hfield : ∀ state ∈ (ResolvedScopes.ofTags s.states).tags,
      Reads [collection (s.head state) options.withTotals (layout 1 issueFields)]
        [s.field options state] := by
    intro state _
    have hall := Reads.collection (s.isNamed_fieldHead state) options.withTotals
      (Reads.layout (by decide : fieldsNamed issueFields = true) 1)
    rwa [text_fieldHead] at hall
  have hall := Reads.stack (Reads.map hfield)
  rwa [← List.map_eq_flatMap] at hall

end MilestoneIssues

namespace MilestoneConfig

/-- The fields that one level of depth contributes. -/
def partFields (c : MilestoneConfig) (options : DocumentOptions) :
    MilestoneDepth → List Selection
  | .info => fieldSelections milestoneInfo
  | .issues => c.issues.fields options

/-- The fields of a milestone node. -/
def fields (c : MilestoneConfig) (options : DocumentOptions) : List Selection :=
  .leaf (.plain "number") :: (ResolvedScopes.ofTags c.depth).tags.flatMap (c.partFields options)

/-- The milestone level as a field of a repository. -/
def field (c : MilestoneConfig) (options : DocumentOptions) : Selection :=
  match c.address with
  | .single number => .node (numberHead "milestone" number) (c.fields options)
  | .list =>
    .node (windowHead "milestones" c.window)
      (collectionFields options.withTotals (c.fields options))

/-- How a single milestone is asked for, as a tree and as text. -/
theorem singleHead_named (number : UInt64) :
    (numberHead "milestone" number).isNamed = true ∧
      (numberHead "milestone" number).text = "milestone(number: " ++ toString number ++ ")" :=
  ⟨isNamed_numberHead "milestone" (by decide) number, text_numberHead (by decide) number⟩

/-- How the list of milestones is asked for, as a tree and as text. -/
theorem listHead_named (w : PageWindow) :
    (windowHead "milestones" w).isNamed = true ∧
      (windowHead "milestones" w).text = "milestones(" ++ w.arguments ++ ")" :=
  ⟨isNamed_windowHead "milestones" (by decide) w, text_windowHead (by decide) w⟩

/-- A milestone node is read as its number and what each level of its depth contributes. -/
theorem reads_body (c : MilestoneConfig) (options : DocumentOptions) :
    Reads [c.body options] (c.fields options) := by
  have hpart : ∀ depth ∈ (ResolvedScopes.ofTags c.depth).tags,
      Reads [c.part options depth] (c.partFields options depth) := by
    intro depth _
    cases depth with
    | info => exact Reads.layout (by decide) 1
    | issues => exact c.issues.reads options
  exact Reads.stack (Reads.cons (Reads.name "number" (by decide)) (Reads.map hpart))

/-- The milestone level is read as one field, that of a single milestone or that of the list. -/
theorem reads (c : MilestoneConfig) (options : DocumentOptions) :
    Reads [c.text options] [c.field options] := by
  have hbody := c.reads_body options
  cases haddress : c.address with
  | single number =>
    obtain ⟨hnamed, htext⟩ := singleHead_named number
    have hall := Reads.block hnamed hbody
    rw [htext] at hall
    simpa only [text, field, haddress] using hall
  | list =>
    obtain ⟨hnamed, htext⟩ := listHead_named c.window
    have hall := Reads.collection hnamed options.withTotals hbody
    rw [htext] at hall
    simpa only [text, field, haddress] using hall

end MilestoneConfig

/-! ## Repositories -/

namespace RepositoryConfig

/-- The fields of the milestone level. -/
def milestoneFields (c : RepositoryConfig) (scopes : ResolvedScopes RepositoryScope)
    (options : DocumentOptions) : List Selection :=
  (c.milestoneLevel? scopes).toList.map (·.field options)

/-- The fields that one resolved scope contributes. -/
def partFields (c : RepositoryConfig) (scopes : ResolvedScopes RepositoryScope)
    (options : DocumentOptions) (scope : RepositoryScope) : List Selection :=
  let w := scopes.windowOf scope
  match scope with
  | .count | .all => []
  | .info => fieldSelections repositoryInfo
  | .license => fieldSelections license
  | .vulnerabilities => [scopedField "vulnerabilityAlerts" w options vulnerabilityFields]
  | .topics => [scopedField "repositoryTopics" w options topicFields]
  | .labels => [scopedField "labels" w options labelFields]
  | .releases => [scopedField "releases" w options releaseFields]
  | .deployments => [scopedField "deployments" w options deploymentFields]
  | .languages => languageSelections w options
  | .milestones => c.milestoneFields scopes options
  | .issues => if scopes.contains .milestones then [] else c.milestoneFields scopes options

/-- The fields of a repository node with the given resolved scopes. -/
def bodyFields (c : RepositoryConfig) (scopes : ResolvedScopes RepositoryScope)
    (options : DocumentOptions) : List Selection :=
  .leaf (.plain "name") :: scopes.tags.flatMap (c.partFields scopes options)

/-- The fields of a repository node. -/
def fields (c : RepositoryConfig) (options : DocumentOptions) : List Selection :=
  c.bodyFields (.resolve c.scopes) options

/-- The field of the repositories linked to a project. -/
def linkedField (c : RepositoryConfig) (w : PageWindow) (options : DocumentOptions) : Selection :=
  let scopes := ResolvedScopes.resolve c.scopes
  .node (windowHead "repositories" w)
    (if scopes.asksOnlyNumber then [.leaf (.plain "totalCount")]
    else collectionFields (options.withTotals || scopes.asksNumber) (c.bodyFields scopes options))

/-- The text of a repository node has a milestone level just if its fields have one. -/
theorem reads_milestones (c : RepositoryConfig) (scopes : ResolvedScopes RepositoryScope)
    (options : DocumentOptions) :
    Reads (c.milestoneText scopes options) (c.milestoneFields scopes options) := by
  unfold milestoneText milestoneFields
  cases c.milestoneLevel? scopes with
  | none => exact Reads.nil
  | some level => exact level.reads options

/-- What a scope adds to the text of a repository node is read as the fields that it contributes.
The issues add the milestone level only where the milestones do not. -/
theorem reads_parts (c : RepositoryConfig) (scopes : ResolvedScopes RepositoryScope)
    (options : DocumentOptions) (scope : RepositoryScope) :
    Reads (c.parts scopes options scope) (c.partFields scopes options scope) := by
  cases scope with
  | count => exact Reads.nil
  | info => exact Reads.layout (by decide) 1
  | license => exact Reads.layout (by decide) 0
  | vulnerabilities => exact Reads.scopedCollection _ _ (by decide) (by decide) _ options
  | topics => exact Reads.scopedCollection _ _ (by decide) (by decide) _ options
  | labels => exact Reads.scopedCollection _ _ (by decide) (by decide) _ options
  | releases => exact Reads.scopedCollection _ _ (by decide) (by decide) _ options
  | deployments => exact Reads.scopedCollection _ _ (by decide) (by decide) _ options
  | languages => exact Reads.languages _ options
  | milestones => exact c.reads_milestones scopes options
  | issues =>
    cases hmilestones : scopes.contains .milestones with
    | true => simpa [parts, partFields, hmilestones] using Reads.nil
    | false => simpa [parts, partFields, hmilestones] using c.reads_milestones scopes options
  | all => exact Reads.nil

/-- A repository node is read as its name and what its resolved scopes contribute, in the order of
the catalogue. -/
theorem reads_body (c : RepositoryConfig) (scopes : ResolvedScopes RepositoryScope)
    (options : DocumentOptions) :
    Reads [c.body scopes options] (c.bodyFields scopes options) :=
  Reads.stack (Reads.cons (Reads.name "name" (by decide))
    (Reads.flatMap fun scope _ => c.reads_parts scopes options scope))

/-- How the repositories linked to a project are asked for, as a tree and as text. -/
theorem linkedHead_named (w : PageWindow) :
    (windowHead "repositories" w).isNamed = true ∧
      (windowHead "repositories" w).text = "repositories(" ++ w.arguments ++ ")" :=
  ⟨isNamed_windowHead "repositories" (by decide) w, text_windowHead (by decide) w⟩

/-- The repositories linked to a project are read as one field, which holds nothing but their number
if nothing else is asked for. -/
theorem reads_linked (c : RepositoryConfig) (w : PageWindow) (options : DocumentOptions) :
    Reads [c.linkedSelection w options] [c.linkedField w options] := by
  obtain ⟨hnamed, htext⟩ := linkedHead_named w
  have hnumber := Reads.block hnamed (Reads.name "totalCount" (by decide))
  have hnodes := Reads.collection hnamed
    (options.withTotals || (ResolvedScopes.resolve c.scopes).asksNumber)
    (c.reads_body (.resolve c.scopes) options)
  rw [htext] at hnumber hnodes
  unfold linkedSelection linkedField
  cases honly : (ResolvedScopes.resolve c.scopes).asksOnlyNumber with
  | true => simpa [honly, totalCount] using hnumber
  | false => simpa [honly] using hnodes

end RepositoryConfig

/-- The head of the root field of a document for one repository. -/
def RepositoryAddress.head (repository : RepositoryAddress) : Head :=
  ⟨none, "repository", [⟨"owner", .scalar (.string repository.owner)⟩,
    ⟨"name", .scalar (.string repository.name)⟩]⟩

/-- The root field of a document for one repository. -/
def repositoryField (repository : RepositoryAddress) (c : RepositoryConfig)
    (options : DocumentOptions) : Selection :=
  .node repository.head (c.fields options)

/-- The head of the root field is written with owner and name as literals. -/
theorem RepositoryAddress.text_head (repository : RepositoryAddress) :
    repository.head.text = "repository(owner: " ++ literal repository.owner ++ ", name: " ++
      literal repository.name ++ ")" := by
  apply String.ext
  simp [head, Head.text, argumentsText, Argument.text, Value.text, Scalar.text]

/-- The names in it are names of the language, whatever owner and name are. -/
theorem RepositoryAddress.isNamed_head (repository : RepositoryAddress) :
    repository.head.isNamed = true := by
  have hnames : isName "repository" = true ∧ isName "owner" = true ∧ isName "name" = true := by
    decide
  simp [head, Head.isNamed, Value.isNamed, Scalar.isNamed, hnames]

/-- The root of a document for one repository is read as its root field. -/
theorem reads_repository (repository : RepositoryAddress) (c : RepositoryConfig)
    (options : DocumentOptions) :
    Reads [block ("repository(owner: " ++ literal repository.owner ++ ", name: " ++
      literal repository.name ++ ")") (c.selection options)]
      [repositoryField repository c options] := by
  have hall := Reads.block repository.isNamed_head (c.reads_body (.resolve c.scopes) options)
  rwa [repository.text_head] at hall

end ScopeComposer
