import ScopeComposer.Proofs.Compose.Outline

/-!
# What callers write into documents

A caller gives logins, names and cursors. Each of them is a single string value of the document and
says exactly what the caller gave; nothing else in the document depends on what it says. So a quote,
a brace or a line break in such a text cannot become part of the query around it.
-/

namespace ScopeComposer

open Graphql

/-! ## The windows of a document -/

/-- The cursors of those windows that have one, in order. -/
def PageWindow.cursors (ws : List PageWindow) : List String := ws.filterMap (·.continueAfter.value)

/-- The windows of the issues of a milestone, one for each state. -/
def MilestoneIssues.windows (s : MilestoneIssues) : List PageWindow :=
  (ResolvedScopes.ofTags s.states).tags.map fun _ => s.window

/-- The windows of the milestone level: that of the list if it is one, and those of the issues. -/
def MilestoneConfig.windows (c : MilestoneConfig) : List PageWindow :=
  (match c.address with
    | .single _ => []
    | .list => [c.window]) ++
    (ResolvedScopes.ofTags c.depth).tags.flatMap fun
      | .info => []
      | .issues => c.issues.windows

namespace RepositoryConfig

/-- The windows of the milestone level, if there is one. -/
def milestoneWindows (c : RepositoryConfig) (scopes : ResolvedScopes RepositoryScope) :
    List PageWindow :=
  (c.milestoneLevel? scopes).toList.flatMap MilestoneConfig.windows

/-- The windows that one resolved scope contributes. -/
def scopeWindows (c : RepositoryConfig) (scopes : ResolvedScopes RepositoryScope)
    (scope : RepositoryScope) : List PageWindow :=
  match scope with
  | .count | .info | .license | .all => []
  | .vulnerabilities | .topics | .labels | .releases | .deployments | .languages =>
    [scopes.windowOf scope]
  | .milestones => c.milestoneWindows scopes
  | .issues => if scopes.contains .milestones then [] else c.milestoneWindows scopes

/-- The windows of a repository node, in the order in which they are selected. -/
def windows (c : RepositoryConfig) : List PageWindow :=
  (ResolvedScopes.resolve c.scopes).tags.flatMap (c.scopeWindows (.resolve c.scopes))

/-- The windows of the repositories linked to a project. -/
def linkedWindows (c : RepositoryConfig) (w : PageWindow) : List PageWindow :=
  w :: if (ResolvedScopes.resolve c.scopes).asksOnlyNumber then [] else c.windows

end RepositoryConfig

/-- The windows of a project node, in the order in which they are selected. -/
def ProjectConfig.windows (c : ProjectConfig) : List PageWindow :=
  (ResolvedScopes.resolve c.scopes).tags.flatMap fun
    | .info => []
    | .repositories =>
      c.repositories.linkedWindows ((ResolvedScopes.resolve c.scopes).windowOf .repositories)

/-- The windows of an account node, in the order in which they are selected. -/
def AccountConfig.windows (c : AccountConfig) (options : DocumentOptions) : List PageWindow :=
  (c.resolved options).tags.flatMap fun
    | .essential | .info | .all => []
    | .packages => [(c.resolved options).windowOf .packages]
    | .projects => (c.resolved options).windowOf .projects :: c.projects.windows

/-- The text that a project is looked up by, if it is not looked up by number. -/
def ProjectIdentity.texts : ProjectIdentity → List String
  | .name s => [s]
  | .number _ => []

/-! ## String values -/

namespace PageWindow

theorem cursors_append (ws us : List PageWindow) : cursors (ws ++ us) = cursors ws ++ cursors us :=
  List.filterMap_append

theorem cursors_cons (w : PageWindow) (ws : List PageWindow) :
    cursors (w :: ws) = cursors [w] ++ cursors ws := cursors_append [w] ws

theorem cursors_flatMap {α : Type} (items : List α) (windows : α → List PageWindow) :
    cursors (items.flatMap windows) = items.flatMap fun a => cursors (windows a) := by
  induction items with
  | nil => rfl
  | cons a items ih => rw [List.flatMap_cons, cursors_append, ih, List.flatMap_cons]

/-- Of the arguments of a window, only the cursor can be a string value. -/
theorem stringValues_arguments (w : PageWindow) (more : List Argument) :
    stringValues (argumentTokens (w.argumentList ++ more)) =
      cursors [w] ++ stringValues (more.flatMap Argument.tokens) := by
  have hclose : stringValues [.punctuator .parenR] = [] := rfl
  have hopen : argumentTokens (w.argumentList ++ more) = .punctuator .parenL ::
      (w.argumentList.flatMap Argument.tokens ++ more.flatMap Argument.tokens) ++
        [.punctuator .parenR] := by
    rw [← List.flatMap_append]
    rfl
  have hwindow : stringValues (w.argumentList.flatMap Argument.tokens) = cursors [w] := by
    cases hvalue : w.continueAfter.value with
    | none =>
      have hscalar : w.continueAfter.scalar = .name "null" := by simp [Cursor.scalar, hvalue]
      have hcursors : cursors [w] = [] := by simp [cursors, hvalue]
      rw [argumentList, hscalar, hcursors]
      rfl
    | some s =>
      have hscalar : w.continueAfter.scalar = .string s := by simp [Cursor.scalar, hvalue]
      have hcursors : cursors [w] = [s] := by simp [cursors, hvalue]
      rw [argumentList, hscalar, hcursors]
      rfl
  rw [hopen, stringValues_append, hclose, List.append_nil, stringValues_punctuator,
    stringValues_append, hwindow]

/-- The only string of a window is its cursor, and a window without one has none. -/
theorem stringValues_windowHead (name : String) (w : PageWindow) :
    stringValues (windowHead name w).tokens = cursors [w] := by
  have harguments := stringValues_arguments w []
  rw [List.append_nil, List.flatMap_nil] at harguments
  exact harguments.trans (List.append_nil _)

end PageWindow

open PageWindow (cursors cursors_cons cursors_append cursors_flatMap stringValues_windowHead)

/-- Page information and total counts hold no strings, so that only head and nodes count. -/
theorem stringValues_collection (h : Head) (withTotal : Bool) (nodes : List Selection) :
    stringValues (selectionTokens [.node h (collectionFields withTotal nodes)]) =
      stringValues h.tokens ++ stringValues (selectionTokens nodes) := by
  have hnodes : stringValues (selectionTokens [.node (.plain "nodes") nodes]) =
      stringValues (selectionTokens nodes) := stringValues_node _ _
  rw [stringValues_node, collectionFields, selectionTokens_append, stringValues_append,
    stringValues_cons pageInfoField, hnodes]
  cases withTotal <;> rfl

/-- Nodes with fixed fields bring no string but the cursor of their window. -/
theorem stringValues_scopedField (name : String) (w : PageWindow) (options : DocumentOptions)
    (fields : List Field) :
    stringValues (selectionTokens [scopedField name w options fields]) = cursors [w] := by
  rw [scopedField, stringValues_collection, stringValues_windowHead, stringValues_fixed,
    List.append_nil]

/-! ## Repositories -/

/-- The window of issues is written once for each state, and so is its cursor. -/
theorem MilestoneIssues.stringValues_fields (s : MilestoneIssues) (options : DocumentOptions) :
    stringValues (selectionTokens (s.fields options)) = cursors s.windows := by
  have hfield : ∀ state, stringValues (selectionTokens [s.field options state]) =
      cursors [s.window] := by
    intro state
    rw [field, stringValues_collection, stringValues_fixed, List.append_nil]
    exact (PageWindow.stringValues_arguments s.window _).trans (List.append_nil _)
  rw [fields, windows, List.map_eq_flatMap, stringValues_flatMap, List.map_eq_flatMap,
    cursors_flatMap]
  simp only [hfield]

/-- The cursors of a milestone level are those of its windows, in the order in which these are
written. -/
theorem MilestoneConfig.stringValues_field (c : MilestoneConfig) (options : DocumentOptions) :
    stringValues (selectionTokens [c.field options]) = cursors c.windows := by
  have hfields : stringValues (selectionTokens (c.fields options)) =
      cursors ((ResolvedScopes.ofTags c.depth).tags.flatMap fun
        | .info => []
        | .issues => c.issues.windows) := by
    rw [fields, stringValues_cons, stringValues_flatMap, cursors_flatMap]
    refine congrArg _ (List.flatMap_congr fun depth _ => ?_)
    cases depth with
    | info => exact stringValues_fixed milestoneInfo
    | issues => exact c.issues.stringValues_fields options
  unfold field windows
  rw [cursors_append, ← hfields]
  cases c.address with
  | single number => exact stringValues_node _ _
  | list => rw [stringValues_collection, stringValues_windowHead]

namespace RepositoryConfig

theorem stringValues_milestones (c : RepositoryConfig) (scopes : ResolvedScopes RepositoryScope)
    (options : DocumentOptions) :
    stringValues (selectionTokens (c.milestoneFields scopes options)) =
      cursors (c.milestoneWindows scopes) := by
  unfold milestoneFields milestoneWindows
  cases c.milestoneLevel? scopes with
  | none => rfl
  | some level => simpa using level.stringValues_field options

/-- The strings that one scope of a repository brings are the cursors of its windows. The cases are
the scopes. -/
theorem stringValues_partFields (c : RepositoryConfig) (scopes : ResolvedScopes RepositoryScope)
    (options : DocumentOptions) (scope : RepositoryScope) :
    stringValues (selectionTokens (c.partFields scopes options scope)) =
      cursors (c.scopeWindows scopes scope) := by
  cases scope with
  | count => rfl
  | info => exact stringValues_fixed repositoryInfo
  | license => exact stringValues_fixed Graphql.license
  | vulnerabilities => exact stringValues_scopedField _ _ options _
  | topics => exact stringValues_scopedField _ _ options _
  | labels => exact stringValues_scopedField _ _ options _
  | releases => exact stringValues_scopedField _ _ options _
  | deployments => exact stringValues_scopedField _ _ options _
  | languages =>
    have hprimary : stringValues (selectionTokens
        [.node (.plain "primaryLanguage") (fieldSelections languageFields)]) = [] := by
      rw [stringValues_node, stringValues_fixed]
      rfl
    refine (stringValues_cons _ _).trans ?_
    rw [hprimary]
    exact stringValues_scopedField "languages" _ options languageFields
  | milestones => exact c.stringValues_milestones scopes options
  | issues =>
    have hlevel := c.stringValues_milestones scopes options
    unfold partFields scopeWindows
    cases scopes.contains .milestones with
    | true => rfl
    | false => exact hlevel
  | all => rfl

/-- The cursors of a repository come in the order in which its fields are written. -/
theorem stringValues_fields (c : RepositoryConfig) (options : DocumentOptions) :
    stringValues (selectionTokens (c.fields options)) = cursors c.windows := by
  rw [fields, bodyFields, stringValues_cons, stringValues_flatMap, windows, cursors_flatMap]
  exact congrArg _ (List.flatMap_congr fun scope _ => c.stringValues_partFields _ options scope)

theorem stringValues_linkedField (c : RepositoryConfig) (w : PageWindow)
    (options : DocumentOptions) :
    stringValues (selectionTokens [c.linkedField w options]) = cursors (c.linkedWindows w) := by
  have hfields := c.stringValues_fields options
  unfold linkedField linkedWindows
  dsimp only
  rw [cursors_cons]
  cases (ResolvedScopes.resolve c.scopes).asksOnlyNumber with
  | true =>
    refine (stringValues_node _ _).trans ?_
    rw [stringValues_windowHead]
    rfl
  | false =>
    refine (stringValues_collection _ _ _).trans ?_
    rw [stringValues_windowHead]
    exact congrArg _ hfields

end RepositoryConfig

/-! ## Projects and accounts -/

/-- The cursors of a project are those of its scopes and of the repositories in it. -/
theorem ProjectConfig.stringValues_fields (c : ProjectConfig) (options : DocumentOptions) :
    stringValues (selectionTokens (c.fields options)) = cursors c.windows := by
  have hnumber : stringValues (selectionTokens [.leaf (.plain "number")]) = [] := rfl
  have htitle : stringValues (selectionTokens [.leaf (.plain "title")]) = [] := rfl
  rw [fields, stringValues_cons (.leaf (.plain "number")),
    stringValues_cons (.leaf (.plain "title")), hnumber, htitle, List.nil_append,
    List.nil_append, stringValues_flatMap, windows, cursors_flatMap]
  refine List.flatMap_congr fun scope _ => ?_
  cases scope with
  | info => exact stringValues_fixed projectInfo
  | repositories => exact c.repositories.stringValues_linkedField _ options

/-- A project that is addressed by name has this name before all cursors; one with a number has
none. -/
theorem ProjectConfig.stringValues_single (c : ProjectConfig) (identity : ProjectIdentity)
    (options : DocumentOptions) :
    stringValues (selectionTokens [c.field (.single identity) options]) =
      identity.texts ++ cursors c.windows := by
  have hfields := c.stringValues_fields options
  cases identity with
  | name name =>
    have hnodes : stringValues (selectionTokens [.node (.plain "nodes") (c.fields options)]) =
        cursors c.windows := (stringValues_node _ _).trans hfields
    exact (stringValues_node _ _).trans (by rw [hnodes]; rfl)
  | number number => exact (stringValues_node _ _).trans (by rw [hfields]; rfl)

/-- The cursors of an account come level by level. -/
theorem AccountConfig.stringValues_fields (c : AccountConfig) (kind : AccountKind)
    (options : DocumentOptions) :
    stringValues (selectionTokens (c.fields kind options)) = cursors (c.windows options) := by
  rw [fields, stringValues_flatMap, windows, cursors_flatMap]
  refine List.flatMap_congr fun scope _ => ?_
  cases scope with
  | essential => exact stringValues_fixed kind.essentialFields
  | info => exact stringValues_fixed kind.infoFields
  | packages => exact stringValues_scopedField _ _ options _
  | projects =>
    refine (stringValues_collection _ _ _).trans ?_
    rw [stringValues_windowHead, c.projects.stringValues_fields options, ← cursors_append]
    rfl
  | all => rfl

/-- The login is the first string of a document for an account. -/
theorem Account.stringValues_rootField (account : Account) (fields : List Selection) :
    stringValues (selectionTokens [account.rootField fields]) =
      account.login :: stringValues (selectionTokens fields) := by
  rw [rootField, stringValues_node, stringValues_cons]
  rfl

/-! ## Documents -/

/-- What a caller writes into a document stays inside its string values. Two calls whose inputs
differ in nothing but the contents of their texts give documents with the same tokens, except for
the texts of the string values; and these are, in order, the texts of the target and the cursors of
the selected windows, each unaltered. -/
theorem callerTexts_stay_stringValues (options : DocumentOptions) :
    (∀ (account account' : Account) (c c' : AccountConfig),
      account.masked = account'.masked → c.masked = c'.masked →
        SameOutline (accountDocument account c options) (accountDocument account' c' options)) ∧
    (∀ (account account' : Account) (identity identity' : ProjectIdentity) (c c' : ProjectConfig),
      account.masked = account'.masked → identity.masked = identity'.masked →
        c.masked = c'.masked →
          SameOutline (projectDocument account identity c options)
            (projectDocument account' identity' c' options)) ∧
    (∀ (repository repository' : RepositoryAddress) (c c' : RepositoryConfig),
      c.masked = c'.masked →
        SameOutline (repositoryDocument repository c options)
          (repositoryDocument repository' c' options)) ∧
    (∀ (account : Account) (c : AccountConfig),
      HasStringValues (accountDocument account c options)
        (account.login :: cursors (c.windows options))) ∧
    (∀ (account : Account) (identity : ProjectIdentity) (c : ProjectConfig),
      HasStringValues (projectDocument account identity c options)
        (account.login :: identity.texts ++ cursors c.windows)) ∧
    (∀ (repository : RepositoryAddress) (c : RepositoryConfig),
      HasStringValues (repositoryDocument repository c options)
        (repository.owner :: repository.name :: cursors c.windows)) := by
  refine ⟨?_, ?_, ?_, ?_, ?_, ?_⟩
  · intro account account' c c' haccount hc
    have hkind : account.masked.kind = account'.masked.kind := congrArg Account.kind haccount
    change account.kind = account'.kind at hkind
    refine ⟨_, _, tokens?_accountDocument account c options,
      tokens?_accountDocument account' c' options, outline_document ?_⟩
    rw [account.outline_rootField (c.outline_fields account.kind options), hc, hkind, haccount,
      account'.outline_rootField (c'.outline_fields account'.kind options)]
  · intro account account' identity identity' c c' haccount hidentity hc
    refine ⟨_, _, tokens?_projectDocument account identity c options,
      tokens?_projectDocument account' identity' c' options, outline_document ?_⟩
    rw [account.outline_rootField (c.outline_single identity options), hc, hidentity, haccount,
      account'.outline_rootField (c'.outline_single identity' options)]
  · intro repository repository' c c' hc
    refine ⟨_, _, tokens?_repositoryDocument repository c options,
      tokens?_repositoryDocument repository' c' options, outline_document ?_⟩
    have hfields : outline (selectionTokens (c.fields options)) =
        outline (selectionTokens (c'.fields options)) := by
      rw [c.outline_fields, hc, c'.outline_fields]
    exact outline_node rfl hfields
  · intro account c
    refine ⟨_, tokens?_accountDocument account c options, ?_⟩
    rw [stringValues_document, account.stringValues_rootField, c.stringValues_fields]
  · intro account identity c
    refine ⟨_, tokens?_projectDocument account identity c options, ?_⟩
    rw [stringValues_document, account.stringValues_rootField, c.stringValues_single,
      List.cons_append]
  · intro repository c
    refine ⟨_, tokens?_repositoryDocument repository c options, ?_⟩
    rw [stringValues_document, repositoryField, stringValues_node, c.stringValues_fields]
    rfl

/-- A login, names and cursors full of quotes, braces and line breaks leave the outline of every
kind of document as it is for harmless ones. -/
theorem sameOutline_of_hostile_texts :
    let hostile := "\") \x7d\n\\\r# \x7b"
    let linked := fun cursor : String =>
      RepositoryConfig.ofScopes [⟨.issues, .one, .ofString cursor⟩, .plain .labels]
    let projects := fun cursor : String =>
      (⟨[⟨.repositories, .nested, .ofString cursor⟩], linked cursor⟩ : ProjectConfig)
    let packages := fun cursor : String =>
      (⟨[⟨.packages, .one, .ofString cursor⟩, .plain .projects], projects cursor⟩ : AccountConfig)
    SameOutline (accountDocument ⟨"login", .user⟩ (packages "cursor") .plain)
      (accountDocument ⟨hostile, .user⟩ (packages hostile) .plain) ∧
    SameOutline (projectDocument ⟨"login", .user⟩ (.name "name") (projects "cursor") .plain)
      (projectDocument ⟨hostile, .user⟩ (.name hostile) (projects hostile) .plain) ∧
    SameOutline (repositoryDocument ⟨"owner", "name"⟩ (linked "cursor") .plain)
      (repositoryDocument ⟨hostile, hostile⟩ (linked hostile) .plain) := by
  intro hostile linked projects packages
  have htheorem := callerTexts_stay_stringValues .plain
  exact ⟨htheorem.1 _ _ _ _ rfl (by decide), htheorem.2.1 _ _ _ _ _ _ rfl rfl (by decide),
    htheorem.2.2.1 _ _ _ _ (by decide)⟩

end ScopeComposer
