import ScopeComposer.Proofs.Compose.Account
import ScopeComposer.Proofs.Graphql.Strings
import ScopeComposer.Proofs.Scope.Masked

/-!
# Outlines of composed documents

What is left of a configuration, an account or a project without the texts that a caller gives, and
that the outline of a document is made of nothing but that: at every level, the fields have the same
outline after masking. This holds because no composer looks at a text except to compare cursors, and
masking goes through that comparison.
-/

namespace ScopeComposer

open Graphql

/-! ## Inputs without their texts -/

/-- The milestone level without the texts of its cursors. -/
def MilestoneConfig.masked (c : MilestoneConfig) : MilestoneConfig :=
  { c with window := c.window.masked, issues := ⟨c.issues.window.masked, c.issues.states⟩ }

/-- A configuration without the texts of its cursors. -/
def RepositoryConfig.masked (c : RepositoryConfig) : RepositoryConfig :=
  { c with
    scopes := c.scopes.map ScopeRequest.masked
    milestoneWindow := c.milestoneWindow.map PageWindow.masked }

/-- A configuration without the texts of its cursors. -/
def ProjectConfig.masked (c : ProjectConfig) : ProjectConfig :=
  ⟨c.scopes.map ScopeRequest.masked, c.repositories.masked⟩

/-- A configuration without the texts of its cursors. -/
def AccountConfig.masked (c : AccountConfig) : AccountConfig :=
  ⟨c.scopes.map ScopeRequest.masked, c.projects.masked⟩

/-- An account without its login. -/
def Account.masked (account : Account) : Account := { account with login := "" }

/-- A project without its name. -/
def ProjectIdentity.masked : ProjectIdentity → ProjectIdentity
  | .name _ => .name ""
  | .number n => .number n

/-- Scopes of a repository can be resolved before or after their cursors are masked. -/
theorem RepositoryConfig.resolve_masked (c : RepositoryConfig) :
    ResolvedScopes.resolve c.masked.scopes = (ResolvedScopes.resolve c.scopes).masked :=
  ResolvedScopes.resolve_masked c.scopes

/-- Scopes of a project can be resolved before or after their cursors are masked. -/
theorem ProjectConfig.resolve_masked (c : ProjectConfig) :
    ResolvedScopes.resolve c.masked.scopes = (ResolvedScopes.resolve c.scopes).masked :=
  ResolvedScopes.resolve_masked c.scopes

/-- Scopes of an account can be resolved before or after their cursors are masked. -/
theorem AccountConfig.resolve_masked (c : AccountConfig) :
    ResolvedScopes.resolve c.masked.scopes = (ResolvedScopes.resolve c.scopes).masked :=
  ResolvedScopes.resolve_masked c.scopes

/-! ## Collections -/

namespace Graphql

/-- Of a window the outline shows the size and whether there is a cursor, also with further
arguments behind it. -/
theorem outline_arguments (w : PageWindow) (more : List Argument) :
    outline (argumentTokens (w.argumentList ++ more)) =
      outline (argumentTokens (w.masked.argumentList ++ more)) := by
  cases hvalue : w.continueAfter.value <;>
    simp [outline, PageWindow.argumentList, argumentTokens, Argument.tokens, Value.tokens,
      Cursor.scalar, PageWindow.masked, Cursor.masked, hvalue, Scalar.token, Token.masked]

/-- A head depends on its arguments only through their outline. -/
theorem outline_head (label : Option String) (name : String) {arguments arguments' : List Argument}
    (h : outline (argumentTokens arguments) = outline (argumentTokens arguments')) :
    outline (Head.tokens ⟨label, name, arguments⟩) =
      outline (Head.tokens ⟨label, name, arguments'⟩) := by
  unfold outline at *
  simp [Head.tokens, h]

/-- The outline of a head with a window is that with the window masked. -/
theorem outline_windowHead (name : String) (w : PageWindow) :
    outline (windowHead name w).tokens = outline (windowHead name w.masked).tokens :=
  outline_head none name (by simpa using outline_arguments w [])

/-- The outline of a collection is made of those of its head and its nodes. -/
theorem outline_collection {h h' : Head} {nodes nodes' : List Selection} (withTotal : Bool)
    (hhead : outline h.tokens = outline h'.tokens)
    (hnodes : outline (selectionTokens nodes) = outline (selectionTokens nodes')) :
    outline (selectionTokens [.node h (collectionFields withTotal nodes)]) =
      outline (selectionTokens [.node h' (collectionFields withTotal nodes')]) := by
  have hblock := outline_node (h := .plain "nodes") rfl hnodes
  have hlast := outline_cons (s := pageInfoField) rfl hblock
  refine outline_node hhead ?_
  cases withTotal with
  | true => exact outline_cons rfl hlast
  | false => exact hlast

/-- The nodes of a scope are fixed, so only its window matters. -/
theorem outline_scopedField (name : String) (w : PageWindow) (options : DocumentOptions)
    (fields : List Field) : outline (selectionTokens [scopedField name w options fields]) =
      outline (selectionTokens [scopedField name w.masked options fields]) :=
  outline_collection options.withTotals (outline_windowHead name w) rfl

end Graphql

/-! ## Repositories -/

/-- A milestone node keeps its outline: its texts are the cursors of its issues. -/
theorem MilestoneConfig.outline_fields (c : MilestoneConfig) (options : DocumentOptions) :
    outline (selectionTokens (c.fields options)) =
      outline (selectionTokens (c.masked.fields options)) := by
  refine outline_cons rfl (outline_flatMap fun depth _ => ?_)
  cases depth with
  | info => rfl
  | issues =>
    have hhead : ∀ state, outline (c.issues.fieldHead state).tokens =
        outline (c.masked.issues.fieldHead state).tokens := fun state =>
      outline_head _ _ (outline_arguments c.issues.window _)
    unfold partFields MilestoneIssues.fields
    rw [List.map_eq_flatMap, List.map_eq_flatMap]
    exact outline_flatMap fun state _ => outline_collection options.withTotals (hhead state) rfl

/-- The milestone level keeps its outline, for a single milestone and for the list. -/
theorem MilestoneConfig.outline_field (c : MilestoneConfig) (options : DocumentOptions) :
    outline (selectionTokens [c.field options]) =
      outline (selectionTokens [c.masked.field options]) := by
  have hfields := c.outline_fields options
  have haddress : c.masked.address = c.address := rfl
  unfold field
  rw [haddress]
  cases c.address with
  | single number => exact outline_node rfl hfields
  | list => exact outline_collection _ (outline_windowHead _ _) hfields

namespace RepositoryConfig

/-- Masking neither brings in the milestone level nor drops it, and masks what is in it. The cases
are those in which a window of its own, of the milestones or of the issues decides. -/
theorem milestoneLevel?_masked (c : RepositoryConfig) (scopes : ResolvedScopes RepositoryScope) :
    c.masked.milestoneLevel? scopes.masked =
      (c.milestoneLevel? scopes).map MilestoneConfig.masked := by
  cases hmilestones : scopes.window? .milestones <;> cases hissues : scopes.window? .issues <;>
    cases hwindow : c.milestoneWindow <;>
    simp [milestoneLevel?, ResolvedScopes.masked, hmilestones, hissues, hwindow, masked,
      MilestoneConfig.masked, statesInUse]
    <;> decide

/-- The milestone level of a repository keeps its outline where there is one. -/
theorem outline_milestones (c : RepositoryConfig) (scopes : ResolvedScopes RepositoryScope)
    (options : DocumentOptions) :
    outline (selectionTokens (c.milestoneFields scopes options)) =
      outline (selectionTokens (c.masked.milestoneFields scopes.masked options)) := by
  unfold milestoneFields
  rw [milestoneLevel?_masked]
  cases c.milestoneLevel? scopes with
  | none => rfl
  | some level => exact level.outline_field options

/-- What a scope contributes to a repository node keeps its outline. -/
theorem outline_partFields (c : RepositoryConfig) (scopes : ResolvedScopes RepositoryScope)
    (options : DocumentOptions) (scope : RepositoryScope) :
    outline (selectionTokens (c.partFields scopes options scope)) =
      outline (selectionTokens (c.masked.partFields scopes.masked options scope)) := by
  unfold partFields
  rw [ResolvedScopes.windowOf_masked, ResolvedScopes.contains_masked]
  cases scope with
  | count => rfl
  | info => rfl
  | license => rfl
  | vulnerabilities => exact outline_scopedField _ _ options _
  | topics => exact outline_scopedField _ _ options _
  | labels => exact outline_scopedField _ _ options _
  | releases => exact outline_scopedField _ _ options _
  | deployments => exact outline_scopedField _ _ options _
  | languages => exact outline_cons rfl (outline_scopedField _ _ options _)
  | milestones => exact c.outline_milestones scopes options
  | issues =>
    dsimp only
    split
    · rfl
    · exact c.outline_milestones scopes options
  | all => rfl

/-- A repository node keeps its outline, since masking keeps the tags that are present. -/
theorem outline_bodyFields (c : RepositoryConfig) (scopes : ResolvedScopes RepositoryScope)
    (options : DocumentOptions) :
    outline (selectionTokens (c.bodyFields scopes options)) =
      outline (selectionTokens (c.masked.bodyFields scopes.masked options)) := by
  unfold bodyFields
  rw [ResolvedScopes.tags_masked]
  exact outline_cons rfl (outline_flatMap fun scope _ => c.outline_partFields scopes options scope)

/-- So does a repository node with its scopes as they are requested. -/
theorem outline_fields (c : RepositoryConfig) (options : DocumentOptions) :
    outline (selectionTokens (c.fields options)) =
      outline (selectionTokens (c.masked.fields options)) := by
  unfold fields
  rw [c.resolve_masked]
  exact c.outline_bodyFields _ options

/-- The repositories linked to a project keep their outline; masking does not change whether their
number is asked for, and whether anything else is. -/
theorem outline_linkedField (c : RepositoryConfig) (w : PageWindow) (options : DocumentOptions) :
    outline (selectionTokens [c.linkedField w options]) =
      outline (selectionTokens [c.masked.linkedField w.masked options]) := by
  have hhead := outline_windowHead "repositories" w
  unfold linkedField
  dsimp only
  rw [c.resolve_masked, ResolvedScopes.asksOnlyNumber_masked, ResolvedScopes.asksNumber_masked]
  cases (ResolvedScopes.resolve c.scopes).asksOnlyNumber with
  | true => exact outline_node hhead rfl
  | false => exact outline_collection _ hhead (c.outline_bodyFields _ options)

end RepositoryConfig

/-! ## Projects and accounts -/

/-- A project node keeps its outline: its texts are those of the repositories linked to it. -/
theorem ProjectConfig.outline_fields (c : ProjectConfig) (options : DocumentOptions) :
    outline (selectionTokens (c.fields options)) =
      outline (selectionTokens (c.masked.fields options)) := by
  unfold fields
  rw [c.resolve_masked]
  dsimp only
  rw [ResolvedScopes.tags_masked]
  refine outline_cons rfl (outline_cons rfl (outline_flatMap fun scope _ => ?_))
  cases scope with
  | info => rfl
  | repositories =>
    unfold partFields
    rw [ResolvedScopes.windowOf_masked]
    exact c.repositories.outline_linkedField _ options

/-- A project that is asked for by name keeps its outline without the name. -/
theorem ProjectConfig.outline_single (c : ProjectConfig) (identity : ProjectIdentity)
    (options : DocumentOptions) :
    outline (selectionTokens [c.field (.single identity) options]) =
      outline (selectionTokens [c.masked.field (.single identity.masked) options]) := by
  have hfields := c.outline_fields options
  cases identity with
  | name name => exact outline_node rfl (outline_node rfl hfields)
  | number number => exact outline_node rfl hfields

/-- Scopes that are implied join before or after masking, for their window has no cursor. -/
theorem AccountConfig.resolved_masked (c : AccountConfig) (options : DocumentOptions) :
    c.masked.resolved options = (c.resolved options).masked := by
  unfold resolved
  dsimp only
  rw [c.resolve_masked, ResolvedScopes.isEmpty_masked]
  cases options.withEssential && !(ResolvedScopes.resolve c.scopes).isEmpty with
  | true => exact (ResolvedScopes.addIfAbsent_masked _ AccountScope.essential .standard).symm
  | false => rfl

/-- An account node keeps its outline: its texts are the cursors of its scopes and those of its
projects. -/
theorem AccountConfig.outline_fields (c : AccountConfig) (kind : AccountKind)
    (options : DocumentOptions) : outline (selectionTokens (c.fields kind options)) =
      outline (selectionTokens (c.masked.fields kind options)) := by
  unfold fields
  rw [resolved_masked, ResolvedScopes.tags_masked]
  refine outline_flatMap fun scope _ => ?_
  unfold partFields
  cases scope with
  | essential => rfl
  | info => rfl
  | packages =>
    dsimp only
    rw [ResolvedScopes.windowOf_masked]
    exact outline_scopedField _ _ options _
  | projects =>
    dsimp only
    rw [ResolvedScopes.windowOf_masked]
    exact outline_collection _ (outline_windowHead _ _) (c.projects.outline_fields options)
  | all => rfl

/-- The root field of an account keeps its outline without the login. -/
theorem Account.outline_rootField (account : Account) {fields fields' : List Selection}
    (h : outline (selectionTokens fields) = outline (selectionTokens fields')) :
    outline (selectionTokens [account.rootField fields]) =
      outline (selectionTokens [account.masked.rootField fields']) :=
  outline_node rfl (outline_cons rfl h)

end ScopeComposer
