import ScopeComposer.Proofs.Compose.Determinacy
import ScopeComposer.Proofs.Compose.OrderIndependence

/-!
# Requests with the same effect

Requests that agree in everything that is in effect give the same text at every level. Together with
the converse, that a document determines the request behind it, this says that what is in effect is
exactly what can be seen of a request: a part of it that never takes effect may be anything.
-/

namespace ScopeComposer

namespace ResolvedScopes

variable {S : Type}

theorem windowOf_eq_of_window? {set set' : ResolvedScopes S} {t : S}
    (h : set.window? t = set'.window? t) : set.windowOf t = set'.windowOf t := by
  unfold windowOf
  rw [h]

theorem contains_eq_of_tags [DecidableEq S] [Tag S] {set set' : ResolvedScopes S}
    (h : set.tags = set'.tags) (t : S) : set.contains t = set'.contains t := by
  rw [Bool.eq_iff_iff, ← mem_tags, ← mem_tags, h]

end ResolvedScopes

/-! ## Repositories -/

namespace RepositoryConfig

theorem milestoneText_congr_effect {c c' : RepositoryConfig} (h : c.SameMilestones c')
    (htags : (ResolvedScopes.resolve c.scopes).tags = (ResolvedScopes.resolve c'.scopes).tags)
    (options : DocumentOptions) : c.milestoneText (.resolve c.scopes) options =
      c'.milestoneText (.resolve c'.scopes) options := by
  have hcontains := ResolvedScopes.contains_eq_of_tags htags
  have hnone : c.milestoneLevel? (.resolve c.scopes) = none ↔
      c'.milestoneLevel? (.resolve c'.scopes) = none := by
    rw [milestoneLevel?_eq_none, milestoneLevel?_eq_none, hcontains, hcontains]
  unfold milestoneText
  cases hlevel : c.milestoneLevel? (.resolve c.scopes) with
  | none => rw [hnone.1 hlevel]
  | some level =>
    cases hlevel' : c'.milestoneLevel? (.resolve c'.scopes) with
    | none => simp [hnone.2 hlevel'] at hlevel
    | some level' =>
      obtain ⟨haddress, hwindow, hinfo, hdepth, hissues⟩ := milestoneLevel?_eq_some hlevel
      obtain ⟨haddress', hwindow', hinfo', hdepth', hissues'⟩ := milestoneLevel?_eq_some hlevel'
      have htext : level.text options = level'.text options := by
        apply MilestoneConfig.text_congr
        · rw [haddress, haddress', h.address]
        · intro hlist
          rw [hwindow, hwindow']
          exact h.window (haddress ▸ hlist)
        · intro depth
          cases depth with
          | info => rw [hinfo, hinfo', hcontains]
          | issues => rw [hdepth, hdepth', hcontains]
        · intro hreached
          have hpresent := hdepth.1 hreached
          rw [hissues, hissues']
          exact ⟨ResolvedScopes.windowOf_eq_of_window? (h.issuesWindow hpresent),
            ResolvedScopes.ofTags_congr (h.states hpresent)⟩
      exact congrArg (fun text => [text]) htext

/-- Where a scope besides the number of repositories is present, the number is not all that is asked
for. -/
theorem tags_ne_count_of_mem {set : ResolvedScopes RepositoryScope} {scope : RepositoryScope}
    (hne : scope ≠ .count) (hscope : scope ∈ set.tags) : set.tags ≠ [.count] := by
  intro honly
  rw [honly, List.mem_singleton] at hscope
  exact hne hscope

/-- A repository node shows nothing but what is in effect, also where that is the number of
repositories alone: then the node has nothing but its name. -/
theorem body_congr_effect {c c' : RepositoryConfig} (h : c.SameEffect c')
    (options : DocumentOptions) :
    c.body (.resolve c.scopes) options = c'.body (.resolve c'.scopes) options := by
  have hcontains := ResolvedScopes.contains_eq_of_tags h.tags
  have hwindowOf : ∀ scope ∈ pagedScopes, scope ≠ .count →
      scope ∈ (ResolvedScopes.resolve c.scopes).tags →
        (ResolvedScopes.resolve c.scopes).windowOf scope =
          (ResolvedScopes.resolve c'.scopes).windowOf scope :=
    fun scope hpaged hne hscope => ResolvedScopes.windowOf_eq_of_window?
      (h.windows (tags_ne_count_of_mem hne hscope) scope hpaged)
  have hmilestones : ∀ scope ∈ (ResolvedScopes.resolve c.scopes).tags,
      scope = .milestones ∨ scope = .issues →
        c.milestoneText (.resolve c.scopes) options =
          c'.milestoneText (.resolve c'.scopes) options := by
    rintro scope hscope (rfl | rfl)
    · have hlevel := h.milestones (tags_ne_count_of_mem (by decide) hscope)
        (Or.inl (ResolvedScopes.mem_tags.1 hscope))
      exact milestoneText_congr_effect hlevel h.tags options
    · have hlevel := h.milestones (tags_ne_count_of_mem (by decide) hscope)
        (Or.inr (ResolvedScopes.mem_tags.1 hscope))
      exact milestoneText_congr_effect hlevel h.tags options
  unfold body
  rw [← h.tags]
  refine congrArg (fun parts => Graphql.stack ("name" :: parts)) ?_
  refine List.flatMap_congr fun scope hscope => ?_
  unfold parts
  cases scope with
  | count => rfl
  | info => rfl
  | license => rfl
  | milestones => exact hmilestones .milestones hscope (Or.inl rfl)
  | issues =>
    dsimp only
    rw [hcontains, hmilestones .issues hscope (Or.inr rfl)]
  | all => rfl
  | _ =>
    dsimp only
    rw [hwindowOf _ (by decide) (by decide) hscope]

theorem linkedSelection_congr_effect {c c' : RepositoryConfig} (h : c.SameEffect c')
    (w : PageWindow) (options : DocumentOptions) :
    c.linkedSelection w options = c'.linkedSelection w options := by
  unfold linkedSelection ResolvedScopes.asksOnlyNumber ResolvedScopes.asksNumber
  dsimp only
  rw [← h.tags, body_congr_effect h]

end RepositoryConfig

/-- The document for a repository shows nothing but what is in effect. -/
theorem repositoryDocument_congr_effect (repository : RepositoryAddress) {c c' : RepositoryConfig}
    (h : c.SameEffect c') (options : DocumentOptions) :
    repositoryDocument repository c options = repositoryDocument repository c' options := by
  unfold repositoryDocument RepositoryConfig.selection
  rw [RepositoryConfig.body_congr_effect h]

/-! ## Projects and accounts -/

theorem ProjectConfig.selection_congr_effect {c c' : ProjectConfig} (h : c.SameEffect c')
    (address : ProjectAddress) (options : DocumentOptions) :
    c.selection address options = c'.selection address options := by
  have hbody : c.body options = c'.body options := by
    unfold body
    dsimp only
    rw [← h.tags]
    refine congrArg (fun parts => Graphql.stack ("number" :: "title" :: parts)) ?_
    refine List.map_congr_left fun scope hscope => ?_
    cases scope with
    | info => rfl
    | repositories =>
      unfold part
      dsimp only
      rw [ResolvedScopes.windowOf_eq_of_window? h.window,
        RepositoryConfig.linkedSelection_congr_effect
          (h.repositories (ResolvedScopes.mem_tags.1 hscope))]
  unfold selection
  rw [hbody]

theorem AccountConfig.selection_congr_effect {c c' : AccountConfig} {options : DocumentOptions}
    (h : c.SameEffect c' options) (kind : AccountKind) :
    c.selection kind options = c'.selection kind options := by
  unfold selection
  dsimp only
  rw [← h.tags]
  refine congrArg Graphql.stack (List.flatMap_congr fun scope hscope => ?_)
  unfold parts
  dsimp only
  cases scope with
  | essential => rfl
  | info => rfl
  | packages => rw [ResolvedScopes.windowOf_eq_of_window? h.packagesWindow]
  | projects =>
    rw [ResolvedScopes.windowOf_eq_of_window? h.projectsWindow,
      ProjectConfig.selection_congr_effect (h.projects (ResolvedScopes.mem_tags.1 hscope))]
  | all => rfl

/-- The document for an account shows nothing but what is in effect. -/
theorem accountDocument_congr_effect (account : Account) {c c' : AccountConfig}
    {options : DocumentOptions} (h : c.SameEffect c' options) :
    accountDocument account c options = accountDocument account c' options := by
  unfold accountDocument
  rw [AccountConfig.selection_congr_effect h]

end ScopeComposer
