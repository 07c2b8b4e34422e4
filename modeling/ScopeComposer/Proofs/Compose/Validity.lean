import ScopeComposer.Proofs.Compose.Slots

/-!
# Composed documents are valid

Every document is a single query without a name whose selection sets are all valid, whatever is
requested and whatever texts a caller gives. The induction is on the levels of the resource graph,
from the fixed selections outwards: each level has its own lemma, and all of them go through
`validSet_slots`.
-/

namespace ScopeComposer

open Graphql

namespace Graphql

/-! ## Heads -/

/-- The size of a page is one by its type, so that nothing has to be assumed of a window. -/
theorem hasPageSizes_windowHead (name : String) (w : PageWindow) :
    (windowHead name w).HasPageSizes := by
  intro a ha hname
  have hsize := w.pageSize.one_le
  have hmax := w.pageSize.le_hundred
  simp only [windowHead, PageWindow.argumentList, List.mem_cons, List.not_mem_nil, or_false] at ha
  rcases ha with rfl | rfl
  · exact ⟨w.pageSize.value, rfl, by omega, by omega⟩
  · simp at hname

/-- Only an argument `first` is held to the bounds of a page. -/
theorem hasPageSizes_of_names {h : Head} (hnames : ∀ a ∈ h.arguments, a.name ≠ "first") :
    h.HasPageSizes := fun a ha hname => absurd hname (hnames a ha)

theorem hasPageSizes_numberHead (name : String) (number : UInt64) :
    (numberHead name number).HasPageSizes := hasPageSizes_of_names (by simp [numberHead])

/-! ## Selection sets -/

/-- A set of bare fields and of what stands in the places of a level. -/
theorem validSet_slots {α : Type} {names : List String} {items : List α}
    {fields : α → List Selection} {allowed : α → List String} (hne : names ≠ [])
    (hdistinct : (names ++ items.flatMap allowed).Nodup)
    (hkeys : ∀ a ∈ items, (keys (fields a)).Sublist (allowed a))
    (hvalid : ∀ a ∈ items, ∀ s ∈ fields a, s.Valid) :
    ValidSet (names.map (fun name => .leaf (.plain name)) ++ items.flatMap fields) := by
  have hnames : keys (names.map fun name => .leaf (.plain name)) = names := by
    simp [keys, Function.comp_def, Selection.key, Selection.head, Head.key, Head.plain]
  refine .mk (by simp [hne]) ?_ ?_
  · rw [keys_append, hnames]
    exact hdistinct.sublist ((List.Sublist.refl names).append (keys_slots hkeys))
  · intro s hs
    rcases List.mem_append.1 hs with hs | hs
    · obtain ⟨name, -, rfl⟩ := List.mem_map.1 hs
      exact valid_leaf name
    · obtain ⟨a, ha, hs⟩ := List.mem_flatMap.1 hs
      exact hvalid a ha s hs

theorem valid_pageInfo : pageInfoField.Valid := by
  refine .node (hasPageSizes_plain _) (.mk (by simp) (by decide) ?_)
  intro s hs
  simp only [List.mem_cons, List.not_mem_nil, or_false] at hs
  rcases hs with rfl | rfl <;> exact valid_leaf _

/-- Around the nodes of a collection stand page information and, if asked for, the total count,
under keys of their own. -/
theorem validSet_collection {nodes : List Selection} (hnodes : ValidSet nodes) (withTotal : Bool) :
    ValidSet (collectionFields withTotal nodes) := by
  have hdistinct : collectionKeys.Nodup := by decide
  refine .mk (by simp [collectionFields])
    (hdistinct.sublist (keys_collectionFields withTotal nodes)) ?_
  intro s hs
  have hcases : s = .leaf (.plain "totalCount") ∨ s = pageInfoField ∨
      s = .node (.plain "nodes") nodes := by
    cases withTotal with
    | true => simpa [collectionFields] using hs
    | false => exact Or.inr (by simpa [collectionFields] using hs)
  rcases hcases with rfl | rfl | rfl
  · exact valid_leaf _
  · exact valid_pageInfo
  · exact .node (hasPageSizes_plain _) hnodes

/-- A collection of nodes with fixed fields needs nothing but that these are some and have distinct
keys. -/
theorem valid_scopedField (name : String) (w : PageWindow) (options : DocumentOptions)
    {fields : List Field} (hne : fields.isEmpty = false) (h : fieldsDistinct fields = true) :
    (scopedField name w options fields).Valid :=
  .node (hasPageSizes_windowHead name w)
    (validSet_collection (validSet_fieldSelections hne h) options.withTotals)

/-- The primary language is a field beside the collection of all languages, each under its own name.
-/
theorem languageSelections_valid (w : PageWindow) (options : DocumentOptions) :
    ∀ s ∈ languageSelections w options, s.Valid := by
  have hne : languageFields.isEmpty = false := rfl
  have hfields : fieldsDistinct languageFields = true := by decide
  intro s hs
  simp only [languageSelections, List.mem_cons, List.not_mem_nil, or_false] at hs
  rcases hs with rfl | rfl
  · exact .node (hasPageSizes_plain _) (validSet_fieldSelections hne hfields)
  · exact valid_scopedField _ w options hne hfields

end Graphql

/-! ## Repositories -/

/-- The issues of one state are a collection under the name of the state. -/
theorem MilestoneIssues.valid_field (s : MilestoneIssues) (options : DocumentOptions)
    (state : IssueState) : (s.field options state).Valid := by
  have hsizes : (s.fieldHead state).HasPageSizes := by
    intro a ha hname
    rcases List.mem_append.1 ha with ha | ha
    · exact hasPageSizes_windowHead "issues" s.window a ha hname
    · obtain rfl := List.mem_singleton.1 ha
      simp at hname
  have hfields : fieldsDistinct issueFields = true := by decide
  exact .node hsizes (validSet_collection (validSet_fieldSelections rfl hfields) _)

/-- The fields of a depth are accepted one by one; the cases are the depths. -/
theorem MilestoneConfig.partFields_valid (c : MilestoneConfig) (options : DocumentOptions)
    (depth : MilestoneDepth) : ∀ s ∈ c.partFields options depth, s.Valid := by
  cases depth with
  | info => exact (fieldSelections_valid (by decide)).2
  | issues =>
    intro s hs
    obtain ⟨state, -, rfl⟩ := List.mem_map.1 hs
    exact c.issues.valid_field options state

/-- Different depths contribute different keys, so that any set of them is accepted. -/
theorem MilestoneConfig.validSet_fields (c : MilestoneConfig) (options : DocumentOptions) :
    ValidSet (c.fields options) := by
  rw [fields_eq_slots]
  refine validSet_slots (List.cons_ne_nil "number" []) nodup_milestoneKeys
    (fun depth _ => c.keys_slot options depth) ?_
  intro depth _ s hs
  exact c.partFields_valid options depth s (ResolvedScopes.mem_slot hs).2

/-- A milestone level is accepted as a list and as a single milestone. -/
theorem MilestoneConfig.valid_field (c : MilestoneConfig) (options : DocumentOptions) :
    (c.field options).Valid := by
  have hset := c.validSet_fields options
  unfold field
  split
  · exact .node (hasPageSizes_numberHead _ _) hset
  · exact .node (hasPageSizes_windowHead _ _) (validSet_collection hset _)

namespace RepositoryConfig

theorem milestoneFields_valid (c : RepositoryConfig) (scopes : ResolvedScopes RepositoryScope)
    (options : DocumentOptions) : ∀ s ∈ c.milestoneFields scopes options, s.Valid := by
  intro s hs
  obtain ⟨level, -, rfl⟩ := List.mem_map.1 hs
  exact level.valid_field options

theorem partFields_valid (c : RepositoryConfig) (scopes : ResolvedScopes RepositoryScope)
    (options : DocumentOptions) (scope : RepositoryScope) :
    ∀ s ∈ c.partFields scopes options scope, s.Valid := by
  have hscoped : ∀ (name : String) (w : PageWindow) (fields : List Field),
      fields.isEmpty = false → fieldsDistinct fields = true →
        ∀ s ∈ [scopedField name w options fields], s.Valid := by
    intro name w fields hne hfields s hs
    obtain rfl := List.mem_singleton.1 hs
    exact valid_scopedField name w options hne hfields
  cases scope with
  | count => exact fun s hs => absurd hs List.not_mem_nil
  | info => exact (fieldSelections_valid (by decide)).2
  | license => exact (fieldSelections_valid (by decide)).2
  | vulnerabilities => exact hscoped _ _ _ rfl (by decide)
  | topics => exact hscoped _ _ _ rfl (by decide)
  | labels => exact hscoped _ _ _ rfl (by decide)
  | releases => exact hscoped _ _ _ rfl (by decide)
  | deployments => exact hscoped _ _ _ rfl (by decide)
  | languages => exact languageSelections_valid _ options
  | milestones => exact c.milestoneFields_valid scopes options
  | issues =>
    unfold partFields
    dsimp only
    split
    · exact fun s hs => absurd hs List.not_mem_nil
    · exact c.milestoneFields_valid scopes options
  | all => exact fun s hs => absurd hs List.not_mem_nil

/-- In the place of a scope stand only fields that are accepted; a place may be empty. -/
theorem slot_valid (c : RepositoryConfig) (scopes : ResolvedScopes RepositoryScope)
    (options : DocumentOptions) (scope : RepositoryScope) :
    ∀ s ∈ c.slot scopes options scope, s.Valid := by
  intro s hs
  unfold slot at hs
  split at hs
  · exact absurd hs List.not_mem_nil
  · exact c.milestoneFields_valid scopes options s hs
  · exact c.partFields_valid scopes options _ s (ResolvedScopes.mem_slot hs).2

/-- No two scopes of a repository contribute one key, which is why all may be requested at once. -/
theorem validSet_bodyFields (c : RepositoryConfig) (scopes : ResolvedScopes RepositoryScope)
    (options : DocumentOptions) : ValidSet (c.bodyFields scopes options) := by
  rw [bodyFields_eq_slots]
  exact validSet_slots (List.cons_ne_nil "name" []) nodup_repositoryKeys
    (fun scope _ => c.keys_slot scopes options scope)
    (fun scope _ => c.slot_valid scopes options scope)

/-- Repositories in a project are a collection, with what was requested of them in their nodes. -/
theorem valid_linkedField (c : RepositoryConfig) (w : PageWindow) (options : DocumentOptions) :
    (c.linkedField w options).Valid := by
  refine .node (hasPageSizes_windowHead _ w) ?_
  split
  · exact validSet_singleton (valid_leaf _)
  · exact validSet_collection (c.validSet_bodyFields _ options) _

end RepositoryConfig

/-! ## Projects and accounts -/

/-- Number and title stand beside what the scopes contribute, under keys that no scope has. -/
theorem ProjectConfig.validSet_fields (c : ProjectConfig) (options : DocumentOptions) :
    ValidSet (c.fields options) := by
  rw [fields_eq_slots]
  refine validSet_slots (List.cons_ne_nil "number" ["title"]) nodup_projectKeys
    (fun scope _ => c.keys_slot _ options scope) ?_
  intro scope _ s hs
  have hpart := (ResolvedScopes.mem_slot hs).2
  cases scope with
  | info => exact (fieldSelections_valid (by decide)).2 s hpart
  | repositories =>
    obtain rfl := List.mem_singleton.1 hpart
    exact c.repositories.valid_linkedField _ options

/-- All three addresses of a project give an accepted field: the number, a search for the name, and
the list. -/
theorem ProjectConfig.valid_field (c : ProjectConfig) (address : ProjectAddress)
    (options : DocumentOptions) : (c.field address options).Valid := by
  have hset := c.validSet_fields options
  match address with
  | .single (.name name) =>
    have hsizes : (nameHead name).HasPageSizes := by
      intro a ha hname
      simp only [nameHead, List.mem_cons, List.not_mem_nil, or_false] at ha
      rcases ha with rfl | rfl
      · simp at hname
      · exact ⟨1, rfl, by decide, by decide⟩
    exact .node hsizes (validSet_singleton (.node (hasPageSizes_plain _) hset))
  | .single (.number number) =>
    exact .node (hasPageSizes_numberHead _ _) hset
  | .list w => exact .node (hasPageSizes_windowHead _ w) (validSet_collection hset _)

/-- The selection set of an account holds its login and what stands in the places of its scopes. -/
theorem AccountConfig.validSet_login (c : AccountConfig) (kind : AccountKind)
    (options : DocumentOptions) : ValidSet (.leaf (.plain "login") :: c.fields kind options) := by
  rw [fields_eq_slots]
  refine validSet_slots (List.cons_ne_nil "login" []) (nodup_accountKeys kind)
    (fun scope _ => c.keys_slot kind _ options scope) ?_
  intro scope _ s hs
  have hpart := (ResolvedScopes.mem_slot hs).2
  cases scope with
  | essential =>
    have hfields : fieldsDistinct kind.essentialFields = true := by cases kind <;> decide
    exact (fieldSelections_valid hfields).2 s hpart
  | info =>
    have hfields : fieldsDistinct kind.infoFields = true := by cases kind <;> decide
    exact (fieldSelections_valid hfields).2 s hpart
  | packages =>
    obtain rfl := List.mem_singleton.1 hpart
    exact valid_scopedField _ _ options rfl (by decide)
  | projects =>
    obtain rfl := List.mem_singleton.1 hpart
    exact c.projects.valid_field _ options
  | all => exact absurd hpart List.not_mem_nil

/-- The head of an account asks for no page, so that only the fields in it matter. -/
theorem Account.valid_rootField (account : Account) {fields : List Selection}
    (h : ValidSet (.leaf (.plain "login") :: fields)) : (account.rootField fields).Valid :=
  .node (hasPageSizes_of_names (by simp [head])) h

/-! ## Documents -/

/-- Whether a text is a valid document: it is read as a single query without a name, and a server
accepts the selection set of the query and every set inside it. -/
def Graphql.ValidDocument (text : String) : Prop :=
  ∃ fields, parse? text = some fields ∧ ValidSet fields

/-- Every composed document is valid, for all targets, configurations and options. -/
theorem documents_valid (options : DocumentOptions) :
    (∀ (account : Account) (c : AccountConfig),
      ValidDocument (accountDocument account c options)) ∧
    (∀ (account : Account) (identity : ProjectIdentity) (c : ProjectConfig),
      ValidDocument (projectDocument account identity c options)) ∧
    (∀ (repository : RepositoryAddress) (c : RepositoryConfig),
      ValidDocument (repositoryDocument repository c options)) := by
  refine ⟨?_, ?_, ?_⟩
  · intro account c
    refine ⟨_, parse?_of_tokens (tokens?_accountDocument account c options), ?_⟩
    exact validSet_singleton (account.valid_rootField (c.validSet_login account.kind options))
  · intro account identity c
    refine ⟨_, parse?_of_tokens (tokens?_projectDocument account identity c options), ?_⟩
    refine validSet_singleton (account.valid_rootField ?_)
    have hfield := c.valid_field (.single identity) options
    have hkey : (c.field (.single identity) options).key ≠ "login" := by
      cases identity <;> simp [ProjectConfig.field, Selection.key, Selection.head, Head.key,
        ProjectConfig.nameHead, numberHead]
    refine .mk (by simp) ?_ ?_
    · simpa [keys, Selection.key, Selection.head, Head.key, Head.plain] using hkey.symm
    · intro s hs
      simp only [List.mem_cons, List.not_mem_nil, or_false] at hs
      rcases hs with rfl | rfl
      · exact valid_leaf _
      · exact hfield
  · intro repository c
    refine ⟨_, parse?_of_tokens (tokens?_repositoryDocument repository c options), ?_⟩
    refine validSet_singleton (.node (hasPageSizes_of_names ?_) (c.validSet_bodyFields _ options))
    simp [RepositoryAddress.head]

end ScopeComposer
