import Mathlib.Data.List.Flatten
import ScopeComposer.Proofs.Compose.Account
import ScopeComposer.Proofs.Graphql.Validity
import ScopeComposer.Proofs.Scope.Resolved

/-!
# The place of every scope

Each scope of a level has its own place in the selection set of the level, and its own keys for what
it puts there. `milestones` and `issues` share one place, that of the milestone level. Whatever is
requested, the keys of a set are among those of its level in their fixed order, so that they can be
told apart by looking at the fixed names alone.
-/

namespace ScopeComposer

open Graphql

/-! ## Collections -/

namespace Graphql

/-- The keys of a collection. -/
def collectionKeys : List String := ["totalCount", "pageInfo", "nodes"]

theorem keys_append (fields more : List Selection) :
    keys (fields ++ more) = keys fields ++ keys more := List.map_append

theorem keys_flatMap {α : Type} (items : List α) (fields : α → List Selection) :
    keys (items.flatMap fields) = items.flatMap fun a => keys (fields a) := List.map_flatMap

/-- A collection has its keys in their order, with or without the number of all elements. -/
theorem keys_collectionFields (withTotal : Bool) (nodes : List Selection) :
    (keys (collectionFields withTotal nodes)).Sublist collectionKeys := by
  cases withTotal with
  | true => exact List.Sublist.refl _
  | false => exact List.sublist_cons_self _ _

/-- The keys of what some of the places hold are among the keys of all places. -/
theorem keys_slots {α : Type} {items : List α} {fields : α → List Selection}
    {allowed : α → List String} (h : ∀ a ∈ items, (keys (fields a)).Sublist (allowed a)) :
    (keys (items.flatMap fields)).Sublist (items.flatMap allowed) := by
  rw [keys_flatMap]
  exact List.Sublist.flatMap_right items h

end Graphql

/-! ## The keys of the scopes -/

/-- The keys of what a level of milestone depth puts into a milestone node. -/
def MilestoneDepth.keys : MilestoneDepth → List String
  | .info => milestoneInfo.map Field.name
  | .issues => (Tag.catalogue : List IssueState).map IssueState.responseKey

/-- The keys of what a scope puts into a repository node. -/
def RepositoryScope.keys : RepositoryScope → List String
  | .count | .issues | .all => []
  | .info => repositoryInfo.map Field.name
  | .license => Graphql.license.map Field.name
  | .vulnerabilities => ["vulnerabilityAlerts"]
  | .topics => ["repositoryTopics"]
  | .labels => ["labels"]
  | .releases => ["releases"]
  | .deployments => ["deployments"]
  | .languages => ["primaryLanguage", "languages"]
  | .milestones => ["milestone", "milestones"]

/-- The keys of what a scope puts into a project node. -/
def ProjectScope.keys : ProjectScope → List String
  | .info => projectInfo.map Field.name
  | .repositories => ["repositories"]

/-- The keys of what a scope puts into an account node. -/
def AccountScope.keys (kind : AccountKind) : AccountScope → List String
  | .essential => kind.essentialFields.map Field.name
  | .info => kind.infoFields.map Field.name
  | .packages => ["packages"]
  | .projects => ["projectsV2"]
  | .all => []

/-- No two places of a milestone node share a key, and none has that of the number. -/
theorem nodup_milestoneKeys :
    ("number" :: (Tag.catalogue : List MilestoneDepth).flatMap MilestoneDepth.keys).Nodup := by
  decide

/-- No two places of a repository node share a key, and none has that of the name. -/
theorem nodup_repositoryKeys :
    ("name" :: (Tag.catalogue : List RepositoryScope).flatMap RepositoryScope.keys).Nodup := by
  decide

/-- No two places of a project node share a key, and none has that of the number or the title. -/
theorem nodup_projectKeys : ("number" :: "title" ::
    (Tag.catalogue : List ProjectScope).flatMap ProjectScope.keys).Nodup := by
  decide

/-- No two places of an account node share a key, and none has that of the login; this is so for
users and for organizations. -/
theorem nodup_accountKeys (kind : AccountKind) : ("login" ::
    (Tag.catalogue : List AccountScope).flatMap (AccountScope.keys kind)).Nodup := by
  cases kind <;> decide

/-! ## What stands in the places -/

namespace ResolvedScopes

variable {S : Type}

/-- What stands in the place of a tag: what the tag contributes, if it is present. -/
def slot (set : ResolvedScopes S) (fields : S → List Selection) (t : S) : List Selection :=
  if set.contains t then fields t else []

/-- What stands in the place of a tag keeps to the keys of what the tag contributes, for the place
is empty if the tag is absent. -/
theorem keys_slot {set : ResolvedScopes S} {fields : S → List Selection} {t : S}
    {allowed : List String} (h : (keys (fields t)).Sublist allowed) :
    (keys (set.slot fields t)).Sublist allowed := by
  unfold slot
  split
  · exact h
  · exact List.nil_sublist _

/-- A field stands in the place of a tag only if the tag is present and contributes it. -/
theorem mem_slot {set : ResolvedScopes S} {fields : S → List Selection} {t : S} {s : Selection}
    (h : s ∈ set.slot fields t) : set.contains t = true ∧ s ∈ fields t := by
  unfold slot at h
  split at h
  · next hc => exact ⟨hc, h⟩
  · simp at h

variable [DecidableEq S] [Tag S]

/-- What the tags that are present contribute, in their order, is what stands in the places of all
tags, in the order of the catalogue. -/
theorem flatMap_tags_eq_slots (set : ResolvedScopes S) (fields : S → List Selection) :
    set.tags.flatMap fields = (Tag.catalogue : List S).flatMap (set.slot fields) :=
  set.flatMap_tags fields

end ResolvedScopes

namespace MilestoneIssues

/-- The issues of a milestone are told apart by the keys of their states. -/
theorem keys_fields (s : MilestoneIssues) (options : DocumentOptions) :
    (keys (s.fields options)).Sublist
      ((Tag.catalogue : List IssueState).map IssueState.responseKey) := by
  have hkeys : keys (s.fields options) =
      (ResolvedScopes.ofTags s.states).tags.map IssueState.responseKey := by
    simp [keys, fields, Function.comp_def, field, Selection.key, Selection.head, Head.key,
      fieldHead]
  rw [hkeys]
  exact List.Sublist.map _ List.filter_sublist

end MilestoneIssues

namespace MilestoneConfig

/-- A milestone node holds its number and what stands in the places of its depth. -/
theorem fields_eq_slots (c : MilestoneConfig) (options : DocumentOptions) :
    c.fields options = .leaf (.plain "number") :: (Tag.catalogue : List MilestoneDepth).flatMap
      ((ResolvedScopes.ofTags c.depth).slot (c.partFields options)) := by
  rw [fields, ResolvedScopes.flatMap_tags_eq_slots]

/-- A level of depth puts nothing into a milestone node but what has a key of its own. -/
theorem keys_partFields (c : MilestoneConfig) (options : DocumentOptions) (depth : MilestoneDepth) :
    (keys (c.partFields options depth)).Sublist depth.keys := by
  cases depth with
  | info =>
    rw [show keys (c.partFields options .info) = MilestoneDepth.keys .info from
      keys_fieldSelections milestoneInfo]
  | issues => exact c.issues.keys_fields options

/-- The place of a level of depth holds keys of that level only. -/
theorem keys_slot (c : MilestoneConfig) (options : DocumentOptions) (depth : MilestoneDepth) :
    (keys ((ResolvedScopes.ofTags c.depth).slot (c.partFields options) depth)).Sublist depth.keys :=
  ResolvedScopes.keys_slot (c.keys_partFields options depth)

end MilestoneConfig

namespace RepositoryConfig

/-- What stands in the place of a scope. The milestone level stands in that of the milestones, and
the issues have none of their own. -/
def slot (c : RepositoryConfig) (scopes : ResolvedScopes RepositoryScope)
    (options : DocumentOptions) : RepositoryScope → List Selection
  | .issues => []
  | .milestones => c.milestoneFields scopes options
  | scope => scopes.slot (c.partFields scopes options) scope

/-- A repository node holds its name and what stands in the places of its scopes. The milestone
level moves to the place of the milestones, where it stands whichever of its two scopes brings it
in. -/
theorem bodyFields_eq_slots (c : RepositoryConfig) (scopes : ResolvedScopes RepositoryScope)
    (options : DocumentOptions) : c.bodyFields scopes options = .leaf (.plain "name") ::
      (Tag.catalogue : List RepositoryScope).flatMap (c.slot scopes options) := by
  have hlevel : scopes.slot (c.partFields scopes options) .milestones ++
      scopes.slot (c.partFields scopes options) .issues = c.milestoneFields scopes options := by
    unfold ResolvedScopes.slot
    cases hmilestones : scopes.contains .milestones with
    | true => simp [partFields, hmilestones]
    | false =>
      cases hissues : scopes.contains .issues with
      | true => simp [partFields, hmilestones]
      | false =>
        -- neither of the two scopes is present, and then there is no milestone level
        have hnone : (scopes.window? .milestones).isNone = true ∧
            (scopes.window? .issues).isNone = true := by
          simpa [ResolvedScopes.contains] using And.intro hmilestones hissues
        simp [milestoneFields, milestoneLevel?, hnone]
  rw [bodyFields, ResolvedScopes.flatMap_tags_eq_slots]
  simp only [Tag.catalogue, List.flatMap_cons, List.flatMap_nil, slot, ← hlevel,
    List.append_assoc, List.nil_append]

/-- The milestone level has one of two keys, for a single milestone or for the list. -/
theorem key_milestoneField (c : MilestoneConfig) (options : DocumentOptions) :
    (c.field options).key ∈ RepositoryScope.keys .milestones := by
  unfold MilestoneConfig.field
  split
  · exact List.mem_cons_self
  · exact List.mem_cons_of_mem _ List.mem_cons_self

/-- The place of a scope of a repository holds keys of that scope only. -/
theorem keys_slot (c : RepositoryConfig) (scopes : ResolvedScopes RepositoryScope)
    (options : DocumentOptions) (scope : RepositoryScope) :
    (keys (c.slot scopes options scope)).Sublist scope.keys := by
  have hpart : ∀ scope, keys (c.partFields scopes options scope) = scope.keys →
      (keys (scopes.slot (c.partFields scopes options) scope)).Sublist scope.keys := by
    intro scope heq
    exact ResolvedScopes.keys_slot (heq ▸ List.Sublist.refl _)
  cases scope with
  | count => exact hpart .count rfl
  | info => exact hpart .info (keys_fieldSelections repositoryInfo)
  | license => exact hpart .license (keys_fieldSelections Graphql.license)
  | vulnerabilities => exact hpart .vulnerabilities rfl
  | topics => exact hpart .topics rfl
  | labels => exact hpart .labels rfl
  | releases => exact hpart .releases rfl
  | deployments => exact hpart .deployments rfl
  | languages => exact hpart .languages rfl
  | milestones =>
    unfold slot milestoneFields
    cases c.milestoneLevel? scopes with
    | none => exact List.nil_sublist _
    | some level => exact List.singleton_sublist.2 (key_milestoneField level options)
  | issues => exact List.nil_sublist _
  | all => exact hpart .all rfl

end RepositoryConfig

namespace ProjectConfig

/-- A project node holds its number, its title and what stands in the places of its scopes. -/
theorem fields_eq_slots (c : ProjectConfig) (options : DocumentOptions) :
    c.fields options = .leaf (.plain "number") :: .leaf (.plain "title") ::
      (Tag.catalogue : List ProjectScope).flatMap
        ((ResolvedScopes.resolve c.scopes).slot (c.partFields (.resolve c.scopes) options)) := by
  rw [fields, ResolvedScopes.flatMap_tags_eq_slots]

/-- A scope of a project puts exactly its own keys into the node. -/
theorem keys_partFields (c : ProjectConfig) (scopes : ResolvedScopes ProjectScope)
    (options : DocumentOptions) (scope : ProjectScope) :
    keys (c.partFields scopes options scope) = scope.keys := by
  cases scope with
  | info => exact keys_fieldSelections projectInfo
  | repositories => rfl

/-- The place of a scope of a project holds keys of that scope only. -/
theorem keys_slot (c : ProjectConfig) (scopes : ResolvedScopes ProjectScope)
    (options : DocumentOptions) (scope : ProjectScope) :
    (keys (scopes.slot (c.partFields scopes options) scope)).Sublist scope.keys :=
  ResolvedScopes.keys_slot (c.keys_partFields scopes options scope ▸ List.Sublist.refl _)

end ProjectConfig

namespace AccountConfig

/-- An account node holds what stands in the places of its scopes, those included that are implied.
-/
theorem fields_eq_slots (c : AccountConfig) (kind : AccountKind) (options : DocumentOptions) :
    c.fields kind options = (Tag.catalogue : List AccountScope).flatMap
      ((c.resolved options).slot (c.partFields kind (c.resolved options) options)) := by
  rw [fields, ResolvedScopes.flatMap_tags_eq_slots]

/-- A scope of an account puts exactly its own keys into the node; they depend on the kind of the
account. -/
theorem keys_partFields (c : AccountConfig) (kind : AccountKind)
    (scopes : ResolvedScopes AccountScope) (options : DocumentOptions) (scope : AccountScope) :
    keys (c.partFields kind scopes options scope) = scope.keys kind := by
  cases scope with
  | essential => exact keys_fieldSelections kind.essentialFields
  | info => exact keys_fieldSelections kind.infoFields
  | packages => rfl
  | projects => rfl
  | all => rfl

/-- The place of a scope of an account holds keys of that scope only. -/
theorem keys_slot (c : AccountConfig) (kind : AccountKind) (scopes : ResolvedScopes AccountScope)
    (options : DocumentOptions) (scope : AccountScope) :
    (keys (scopes.slot (c.partFields kind scopes options) scope)).Sublist (scope.keys kind) :=
  ResolvedScopes.keys_slot (c.keys_partFields kind scopes options scope ▸ List.Sublist.refl _)

end AccountConfig

end ScopeComposer
