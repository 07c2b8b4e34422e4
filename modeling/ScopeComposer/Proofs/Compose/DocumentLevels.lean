import ScopeComposer.Proofs.Compose.MilestoneLevel

/-!
# The milestone levels of a document

Where milestone levels stand in whole documents, at any depth. Only a repository node has one, and
there is at most one repository node in a document: that of the document itself, or the one among
the repositories linked to a project. So a document has at most one milestone level, and that is the
level of the configuration that the node was composed with.
-/

namespace ScopeComposer

open Graphql

namespace Graphql

mutual

/-- A field and all fields inside it, in the order of the text. -/
def Selection.within : Selection → List Selection
  | .leaf h => [.leaf h]
  | .node h fields => .node h fields :: fieldsWithin fields

/-- Fields and all fields inside them. -/
def fieldsWithin : List Selection → List Selection
  | [] => []
  | s :: rest => s.within ++ fieldsWithin rest

end

/-- The milestone levels among fields and all fields inside them. -/
def milestoneLevels (fields : List Selection) : List Selection :=
  (fieldsWithin fields).filter Selection.isMilestoneLevel

/-- The milestone levels of a document, if the text is one. -/
def documentLevels? (text : String) : Option (List Selection) :=
  (parse? text).map milestoneLevels

theorem milestoneLevels_append (fields more : List Selection) :
    milestoneLevels (fields ++ more) = milestoneLevels fields ++ milestoneLevels more := by
  have hwithin : fieldsWithin (fields ++ more) = fieldsWithin fields ++ fieldsWithin more := by
    induction fields with
    | nil => rfl
    | cons s fields ih => rw [List.cons_append, fieldsWithin, fieldsWithin, ih, List.append_assoc]
  rw [milestoneLevels, hwithin, List.filter_append]
  rfl

theorem milestoneLevels_cons (s : Selection) (fields : List Selection) :
    milestoneLevels (s :: fields) = milestoneLevels [s] ++ milestoneLevels fields :=
  milestoneLevels_append [s] fields

theorem milestoneLevels_flatMap {α : Type} (items : List α) (part : α → List Selection) :
    milestoneLevels (items.flatMap part) = items.flatMap fun a => milestoneLevels (part a) := by
  induction items with
  | nil => rfl
  | cons a items ih => rw [List.flatMap_cons, List.flatMap_cons, milestoneLevels_append, ih]

theorem milestoneLevels_node_eq (h : Head) (fields : List Selection) :
    milestoneLevels [.node h fields] =
      [Selection.node h fields].filter Selection.isMilestoneLevel ++ milestoneLevels fields := by
  have hwithin : fieldsWithin [.node h fields] = .node h fields :: fieldsWithin fields := by
    simp [fieldsWithin, Selection.within]
  rw [milestoneLevels, hwithin, ← List.singleton_append, List.filter_append]
  rfl

/-- A field that is no milestone level has those of its selection set. -/
theorem milestoneLevels_node {h : Head} (hname : h.name ∉ ["milestone", "milestones"])
    (fields : List Selection) : milestoneLevels [.node h fields] = milestoneLevels fields := by
  have hother : (Selection.node h fields).isMilestoneLevel = false := by
    simpa [Selection.isMilestoneLevel, Selection.head] using hname
  rw [milestoneLevels_node_eq, List.filter_cons_of_neg (by simp [hother]), List.filter_nil,
    List.nil_append]

/-- A collection has the milestone levels of its nodes. -/
theorem milestoneLevels_collectionFields (withTotal : Bool) (nodes : List Selection) :
    milestoneLevels (collectionFields withTotal nodes) = milestoneLevels nodes := by
  have htotal : milestoneLevels [.leaf (.plain "totalCount")] = [] := rfl
  have hpages : milestoneLevels [pageInfoField] = [] := rfl
  have hnodes : milestoneLevels [.node (.plain "nodes") nodes] = milestoneLevels nodes :=
    milestoneLevels_node (by decide) nodes
  unfold collectionFields
  rw [milestoneLevels_append, milestoneLevels_cons, hpages, hnodes]
  cases withTotal with
  | true => exact congrArg (· ++ milestoneLevels nodes) htotal
  | false => rfl

theorem milestoneLevels_scopedField {name : String} (hname : name ∉ ["milestone", "milestones"])
    (w : PageWindow) (options : DocumentOptions) {fields : List Field}
    (hfields : milestoneLevels (fieldSelections fields) = []) :
    milestoneLevels [scopedField name w options fields] = [] := by
  unfold scopedField
  rw [milestoneLevels_node hname, milestoneLevels_collectionFields, hfields]

end Graphql

/-! ## Repositories -/

namespace RepositoryConfig

variable (c : RepositoryConfig) (scopes : ResolvedScopes RepositoryScope)
  (options : DocumentOptions)

/-- There are no milestones inside of milestones. -/
theorem milestoneLevels_levelNode : milestoneLevels (c.levelNode scopes options) = [] := by
  have hblock : ∀ label state w, milestoneLevels [issueBlock label state w options] = [] := by
    intro label state w
    unfold issueBlock
    rw [milestoneLevels_node (by simp), milestoneLevels_collectionFields]
    rfl
  have hnone : milestoneLevels [] = [] := rfl
  have hblocks : ∀ w, milestoneLevels (c.issueBlocks options w) = [] := by
    intro w
    unfold issueBlocks
    rw [milestoneLevels_append, apply_ite milestoneLevels, apply_ite milestoneLevels, hblock,
      hblock, hnone, ite_self, ite_self]
    rfl
  have hnumber : milestoneLevels [.leaf (.plain "number")] = [] := rfl
  have hinfo : milestoneLevels (fieldSelections milestoneInfo) = [] := rfl
  unfold levelNode
  rw [List.cons_append, milestoneLevels_cons, hnumber, milestoneLevels_append,
    apply_ite milestoneLevels, hinfo, hnone, ite_self]
  cases scopes.window? .issues with
  | none => rfl
  | some w => exact hblocks w

/-- A milestone level holds no other. -/
theorem milestoneLevels_levelField :
    milestoneLevels [c.levelField scopes options] = [c.levelField scopes options] := by
  have hnode := c.milestoneLevels_levelNode scopes options
  unfold levelField
  cases c.milestone with
  | single number =>
    dsimp only
    rw [milestoneLevels_node_eq, hnode]
    rfl
  | list =>
    dsimp only
    rw [milestoneLevels_node_eq, milestoneLevels_collectionFields, hnode]
    rfl

theorem milestoneLevels_ownFields (scope : RepositoryScope) (w : PageWindow) :
    milestoneLevels (scope.ownFields options w) = [] := by
  have hscoped : ∀ name, name ∉ ["milestone", "milestones"] → ∀ fields,
      milestoneLevels (fieldSelections fields) = [] →
        milestoneLevels [scopedField name w options fields] = [] :=
    fun _ hname _ hfields => milestoneLevels_scopedField hname w options hfields
  cases scope with
  | count | info | license | milestones | issues | all => rfl
  | vulnerabilities => exact hscoped _ (by decide) _ rfl
  | topics => exact hscoped _ (by decide) _ rfl
  | labels => exact hscoped _ (by decide) _ rfl
  | releases => exact hscoped _ (by decide) _ rfl
  | deployments => exact hscoped _ (by decide) _ rfl
  | languages =>
    have hprimary : milestoneLevels
        [.node (.plain "primaryLanguage") (fieldSelections languageFields)] = [] := rfl
    unfold RepositoryScope.ownFields
    dsimp only
    rw [milestoneLevels_cons, hprimary]
    exact hscoped "languages" (by decide) languageFields rfl

/-- The milestone levels of a node: one if the milestones or the issues are requested. -/
def levels (c : RepositoryConfig) (options : DocumentOptions) : List Selection :=
  let scopes := ResolvedScopes.resolve c.scopes
  if scopes.contains .milestones || scopes.contains .issues then [c.levelField scopes options]
  else []

theorem milestoneLevels_fields : milestoneLevels (c.fields options) = c.levels options := by
  have hname : milestoneLevels [.leaf (.plain "name")] = [] := rfl
  have hscopes : milestoneLevels (scopeFields (.resolve c.scopes) options) = [] := by
    rw [scopeFields, milestoneLevels_flatMap, List.flatMap_eq_nil_iff]
    intro scope _
    cases (ResolvedScopes.resolve c.scopes).window? scope with
    | none => rfl
    | some w => exact milestoneLevels_ownFields options scope w
  unfold fields levels
  rw [bodyFields_eq_scopeFields, List.cons_append, milestoneLevels_cons, hname,
    milestoneLevels_append, hscopes, milestoneFields_eq_levelField]
  dsimp only
  split
  · exact c.milestoneLevels_levelField _ options
  · rfl

/-- Linked repositories have the milestone levels of their node, also where they are reduced to
their number: then there are none. -/
theorem milestoneLevels_linkedField (w : PageWindow) :
    milestoneLevels [c.linkedField w options] = c.levels options := by
  unfold linkedField
  dsimp only
  rw [milestoneLevels_node (by simp [windowHead])]
  cases honly : (ResolvedScopes.resolve c.scopes).asksOnlyNumber with
  | true =>
    have htags := asksOnlyNumber_iff.1 honly
    have habsent : ∀ scope, scope ≠ .count →
        (ResolvedScopes.resolve c.scopes).contains scope = false := by
      intro scope hscope
      rw [← Bool.not_eq_true, ← ResolvedScopes.mem_tags, htags]
      simpa using hscope
    unfold levels
    dsimp only
    rw [habsent .milestones (by decide), habsent .issues (by decide)]
    rfl
  | false =>
    exact (milestoneLevels_collectionFields _ _).trans (c.milestoneLevels_fields options)

end RepositoryConfig

/-! ## Projects and accounts -/

/-- The milestone levels of a project: those of its repositories, if they are requested. -/
def ProjectConfig.levels (c : ProjectConfig) (options : DocumentOptions) : List Selection :=
  if (ResolvedScopes.resolve c.scopes).contains .repositories then c.repositories.levels options
  else []

namespace ProjectConfig

variable (c : ProjectConfig) (options : DocumentOptions)

theorem milestoneLevels_fields : milestoneLevels (c.fields options) = c.levels options := by
  have hnumber : milestoneLevels [.leaf (.plain "number")] = [] := rfl
  have htitle : milestoneLevels [.leaf (.plain "title")] = [] := rfl
  have hpart : ∀ scope, milestoneLevels (c.partFields (.resolve c.scopes) options scope) =
      if scope = .repositories then c.repositories.levels options else [] := by
    intro scope
    cases scope with
    | info => rfl
    | repositories => exact c.repositories.milestoneLevels_linkedField options _
  unfold fields levels
  dsimp only
  rw [milestoneLevels_cons, hnumber, milestoneLevels_cons, htitle, milestoneLevels_flatMap,
    ResolvedScopes.flatMap_tags]
  simp only [hpart]
  simp [Tag.catalogue]

theorem milestoneLevels_field (address : ProjectAddress) :
    milestoneLevels [c.field address options] = c.levels options := by
  have hfields := c.milestoneLevels_fields options
  match address with
  | .single (.name name) =>
    have hnodes : milestoneLevels [.node (.plain "nodes") (c.fields options)] = c.levels options :=
      (milestoneLevels_node (by simp [Head.plain]) _).trans hfields
    exact (milestoneLevels_node (by simp [nameHead]) _).trans hnodes
  | .single (.number number) =>
    exact (milestoneLevels_node (by simp [numberHead]) _).trans hfields
  | .list w =>
    exact (milestoneLevels_node (by simp [windowHead]) _).trans
      ((milestoneLevels_collectionFields _ _).trans hfields)

end ProjectConfig

namespace AccountConfig

variable (c : AccountConfig) (options : DocumentOptions)

/-- The milestone levels of an account: those of its projects, if they are requested. -/
def levels (c : AccountConfig) (options : DocumentOptions) : List Selection :=
  if (c.resolved options).contains .projects then c.projects.levels options else []

theorem milestoneLevels_fields (kind : AccountKind) :
    milestoneLevels (c.fields kind options) = c.levels options := by
  have hpart : ∀ scope, milestoneLevels (c.partFields kind (c.resolved options) options scope) =
      if scope = .projects then c.projects.levels options else [] := by
    intro scope
    cases scope with
    | essential | info => cases kind <;> rfl
    | packages => exact milestoneLevels_scopedField (by decide) _ options rfl
    | projects => exact c.projects.milestoneLevels_field options _
    | all => rfl
  unfold fields levels
  rw [milestoneLevels_flatMap, ResolvedScopes.flatMap_tags]
  simp only [hpart]
  simp [Tag.catalogue]

end AccountConfig

/-! ## Documents -/

section Documents

variable (account : Account) (options : DocumentOptions)

theorem Account.milestoneLevels_rootField (fields : List Selection) :
    milestoneLevels [account.rootField fields] = milestoneLevels fields := by
  have hname : ∀ kind : AccountKind, kind.text ∉ ["milestone", "milestones"] := by
    intro kind
    cases kind <;> decide
  unfold Account.rootField
  rw [milestoneLevels_node (hname account.kind), milestoneLevels_cons]
  rfl

theorem documentLevels?_account (c : AccountConfig) :
    documentLevels? (accountDocument account c options) = some (c.levels options) := by
  rw [documentLevels?, parse?_of_tokens (tokens?_accountDocument account c options),
    Option.map_some, account.milestoneLevels_rootField, c.milestoneLevels_fields]

theorem documentLevels?_project (identity : ProjectIdentity) (c : ProjectConfig) :
    documentLevels? (projectDocument account identity c options) = some (c.levels options) := by
  rw [documentLevels?, parse?_of_tokens (tokens?_projectDocument account identity c options),
    Option.map_some, account.milestoneLevels_rootField, c.milestoneLevels_field]

theorem documentLevels?_repository (repository : RepositoryAddress) (c : RepositoryConfig) :
    documentLevels? (repositoryDocument repository c options) = some (c.levels options) := by
  rw [documentLevels?, parse?_of_tokens (tokens?_repositoryDocument repository c options),
    Option.map_some, repositoryField, milestoneLevels_node (by simp [RepositoryAddress.head]),
    c.milestoneLevels_fields]

end Documents

end ScopeComposer
