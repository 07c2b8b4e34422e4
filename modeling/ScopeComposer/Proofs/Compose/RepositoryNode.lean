import ScopeComposer.Proofs.Compose.Determinacy
import ScopeComposer.Proofs.Compose.EmbeddedLines
import ScopeComposer.Proofs.Compose.Validity
import ScopeComposer.Proofs.Graphql.Bodies

/-!
# Repository nodes

What a repository node selects, and where it stands. Every scope stands for fields of its own, paged
by the window that the scope resolved to; a node has the fields of its scopes in the order of the
catalogue, after the name and before the milestone level. The same node is selected by itself, as
the root of a document and among the nodes of linked repositories.
-/

namespace ScopeComposer

open Graphql Text

/-- The fields that a scope of a repository stands for with a window of its own. The number of
repositories is no field of any of them, and the milestone level is not that of one scope alone. -/
def RepositoryScope.ownFields (options : DocumentOptions) (scope : RepositoryScope)
    (w : PageWindow) : List Selection :=
  match scope with
  | .count | .milestones | .issues | .all => []
  | .info => fieldSelections repositoryInfo
  | .license => fieldSelections Graphql.license
  | .vulnerabilities => [scopedField "vulnerabilityAlerts" w options vulnerabilityFields]
  | .topics => [scopedField "repositoryTopics" w options topicFields]
  | .labels => [scopedField "labels" w options labelFields]
  | .releases => [scopedField "releases" w options releaseFields]
  | .deployments => [scopedField "deployments" w options deploymentFields]
  | .languages =>
    [.node (.plain "primaryLanguage") (fieldSelections languageFields),
      scopedField "languages" w options languageFields]

namespace RepositoryConfig

variable (c : RepositoryConfig) (scopes : ResolvedScopes RepositoryScope)
  (options : DocumentOptions)

/-! ## Fields -/

theorem partFields_eq_ownFields {scope : RepositoryScope} (hmilestones : scope ≠ .milestones)
    (hissues : scope ≠ .issues) : c.partFields scopes options scope =
      scope.ownFields options (scopes.windowOf scope) := by
  cases scope with
  | milestones => exact absurd rfl hmilestones
  | issues => exact absurd rfl hissues
  | _ => rfl

/-- The fields of the scopes that are present, each with the window that it resolved to. -/
def scopeFields (scopes : ResolvedScopes RepositoryScope) (options : DocumentOptions) :
    List Selection :=
  scopes.tags.flatMap fun scope => (scopes.window? scope).elim [] (scope.ownFields options)

/-- Apart from the milestone level, the place of a scope holds what the scope itself stands for. -/
theorem slot_eq_ownFields {scope : RepositoryScope} (hmilestones : scope ≠ .milestones) :
    c.slot scopes options scope = if scopes.contains scope then
      (scopes.window? scope).elim [] (scope.ownFields options) else [] := by
  by_cases hissues : scope = .issues
  · subst hissues
    unfold ResolvedScopes.contains
    cases scopes.window? .issues <;> rfl
  · have hslot : c.slot scopes options scope =
        scopes.slot (c.partFields scopes options) scope := by
      unfold slot
      split
      · exact absurd rfl hissues
      · exact absurd rfl hmilestones
      · rfl
    have hpart := c.partFields_eq_ownFields scopes options hmilestones hissues
    rw [hslot, ResolvedScopes.slot, hpart]
    unfold ResolvedScopes.contains ResolvedScopes.windowOf
    cases scopes.window? scope <;> rfl

/-- The milestone level stands last in a node: the scopes behind it have nothing of their own. -/
theorem bodyFields_eq_scopeFields : c.bodyFields scopes options =
    .leaf (.plain "name") :: scopeFields scopes options ++ c.milestoneFields scopes options := by
  obtain ⟨before, hcatalogue, hbefore⟩ : ∃ before : List RepositoryScope,
      Tag.catalogue = before ++ [.milestones, .issues, .all] ∧ .milestones ∉ before :=
    ⟨(Tag.catalogue : List RepositoryScope).take 9, by decide, by decide⟩
  have hslots : before.flatMap (c.slot scopes options) = before.flatMap fun scope =>
      if scopes.contains scope then (scopes.window? scope).elim [] (scope.ownFields options)
      else [] := by
    refine List.flatMap_congr fun scope hscope => c.slot_eq_ownFields scopes options ?_
    exact fun heq => hbefore (heq ▸ hscope)
  have hnone : ∀ scope ∈ [RepositoryScope.milestones, .issues, .all],
      (if scopes.contains scope then (scopes.window? scope).elim [] (scope.ownFields options)
        else []) = [] := by
    intro scope hscope
    have hown : scope.ownFields options = fun _ => [] := by
      simp only [List.mem_cons, List.not_mem_nil, or_false] at hscope
      rcases hscope with rfl | rfl | rfl <;> rfl
    rw [hown]
    cases scopes.window? scope <;> simp
  have hlast : [RepositoryScope.milestones, .issues, .all].flatMap (c.slot scopes options) =
      c.milestoneFields scopes options := by
    have hall := c.slot_eq_ownFields scopes options (by decide : RepositoryScope.all ≠ .milestones)
    rw [hnone .all (by decide)] at hall
    rw [List.flatMap_cons, List.flatMap_cons, List.flatMap_singleton, hall]
    exact List.append_nil _
  rw [bodyFields_eq_slots, scopeFields, ResolvedScopes.flatMap_tags, hcatalogue,
    List.flatMap_append, List.flatMap_append, hslots, hlast, List.flatMap_eq_nil_iff.2 hnone,
    List.append_nil, List.cons_append]

/-- The milestone level is there if the milestones or the issues are. -/
theorem isSome_milestoneLevel? : (c.milestoneLevel? scopes).isSome =
    (scopes.contains .milestones || scopes.contains .issues) := by
  unfold milestoneLevel? ResolvedScopes.contains
  cases scopes.window? .milestones <;> cases scopes.window? .issues <;> rfl

end RepositoryConfig

/-! ## Texts -/

namespace Graphql

theorem blankLinesEmpty_headed {h : Head} {text : String}
    (hhead : h.isNamed = true ∧ h.text = text) (body : String) :
    BlankLinesEmpty (block text body).toList := by
  obtain ⟨hnamed, rfl⟩ := hhead
  exact blankLinesEmpty_block (lexesTo_head hnamed).one_line.2 body

theorem blankLinesEmpty_scopedCollection (name : String) (h : isName name = true) (w : PageWindow)
    (options : DocumentOptions) (fields : List Field) :
    BlankLinesEmpty (scopedCollection name w options fields).toList :=
  blankLinesEmpty_headed ⟨isNamed_windowHead name h w, text_windowHead rfl w⟩ _

end Graphql

theorem MilestoneConfig.blankLinesEmpty_text (c : MilestoneConfig) (options : DocumentOptions) :
    BlankLinesEmpty (c.text options).toList := by
  unfold text
  cases c.address with
  | single number => exact blankLinesEmpty_headed (singleHead_named number) _
  | list => exact blankLinesEmpty_headed (listHead_named c.window) _

namespace RepositoryConfig

variable (c : RepositoryConfig) (scopes : ResolvedScopes RepositoryScope)
  (options : DocumentOptions)

theorem blankLinesEmpty_parts (scope : RepositoryScope) :
    ∀ p ∈ c.parts scopes options scope, BlankLinesEmpty p.toList := by
  have hone : ∀ {part : String}, BlankLinesEmpty part.toList →
      ∀ p ∈ [part], BlankLinesEmpty p.toList := by simp
  have hnone : ∀ p ∈ ([] : List String), BlankLinesEmpty p.toList := by simp
  have hscoped := fun name h fields =>
    hone (blankLinesEmpty_scopedCollection name h (scopes.windowOf scope) options fields)
  have hmilestones : ∀ p ∈ c.milestoneText scopes options, BlankLinesEmpty p.toList := by
    intro p hp
    obtain ⟨level, -, rfl⟩ := List.mem_map.1 hp
    exact level.blankLinesEmpty_text options
  cases scope with
  | count => exact hnone
  | info => exact hone (blankLinesEmpty_layout (by decide) 1)
  | license => exact hone (blankLinesEmpty_layout (by decide) 0)
  | vulnerabilities => exact hscoped _ (by decide) _
  | topics => exact hscoped _ (by decide) _
  | labels => exact hscoped _ (by decide) _
  | releases => exact hscoped _ (by decide) _
  | deployments => exact hscoped _ (by decide) _
  | languages =>
    have hprimary := blankLinesEmpty_headed ⟨isNamed_plain (by decide : isName "primaryLanguage"),
      String.ext (text_plain _)⟩ (layout 1 languageFields)
    exact hone (blankLinesEmpty_join hprimary
      (blankLinesEmpty_scopedCollection "languages" (by decide) _ options _))
  | milestones => exact hmilestones
  | issues =>
    unfold parts
    dsimp only
    split
    · exact hnone
    · exact hmilestones
  | all => exact hnone

/-- The text of a repository node is read as the fields of the node. -/
theorem fields?_selection :
    fields? (c.selection options) = some (c.bodyFields (.resolve c.scopes) options) := by
  have hname : BlankLinesEmpty "name".toList :=
    blankLinesEmpty_of_line (by decide) (by decide)
  refine (c.reads_body (.resolve c.scopes) options).fields?_eq (blankLinesEmpty_stack ?_)
  intro p hp
  rcases List.mem_cons.1 hp with rfl | hp
  · exact hname
  · obtain ⟨scope, -, hp⟩ := List.mem_flatMap.1 hp
    exact c.blankLinesEmpty_parts (.resolve c.scopes) options scope p hp

end RepositoryConfig

/-! ## Nodes -/

end ScopeComposer
