import ScopeComposer.Proofs.Compose.InertInputs

/-!
# The implied essential scope

Where the essential scope of an account is implied, it joins the scopes that were requested. That is
the same as requesting it, with any window and at any place among the requests: its fields are
fixed, so that its window is not seen, and nothing below the account knows whether it was implied.
-/

namespace ScopeComposer

/-! ## Below the account -/

section Below

variable {options options' : DocumentOptions} (htotals : options.withTotals = options'.withTotals)

include htotals

theorem Graphql.scopedCollection_congr_totals (field : String) (w : PageWindow)
    (fields : List Graphql.Field) : Graphql.scopedCollection field w options fields =
      Graphql.scopedCollection field w options' fields := by
  unfold scopedCollection
  rw [htotals]

theorem MilestoneConfig.text_congr_totals (c : MilestoneConfig) :
    c.text options = c.text options' := by
  have hpart : ∀ depth, c.part options depth = c.part options' depth := by
    intro depth
    cases depth with
    | info => rfl
    | issues =>
      show c.issues.text options = c.issues.text options'
      unfold MilestoneIssues.text
      rw [htotals]
  unfold text body
  rw [htotals, funext hpart]

theorem RepositoryConfig.body_congr_totals (c : RepositoryConfig)
    (scopes : ResolvedScopes RepositoryScope) : c.body scopes options = c.body scopes options' := by
  have hmilestones : c.milestoneText scopes options = c.milestoneText scopes options' := by
    unfold milestoneText
    exact List.map_congr_left fun level _ => level.text_congr_totals htotals
  have hscoped := Graphql.scopedCollection_congr_totals htotals
  have hparts : ∀ scope, c.parts scopes options scope = c.parts scopes options' scope := by
    intro scope
    unfold parts
    dsimp only
    cases scope with
    | count | info | license | all => rfl
    | vulnerabilities => rw [Graphql.vulnerabilities, hscoped, Graphql.vulnerabilities]
    | topics => rw [Graphql.topics, hscoped, Graphql.topics]
    | labels => rw [Graphql.labels, hscoped, Graphql.labels]
    | releases => rw [Graphql.releases, hscoped, Graphql.releases]
    | deployments => rw [Graphql.deployments, hscoped, Graphql.deployments]
    | languages => rw [Graphql.languages, hscoped, Graphql.languages]
    | milestones => exact hmilestones
    | issues => rw [hmilestones]
  unfold body
  rw [funext hparts]

theorem ProjectConfig.selection_congr_totals (c : ProjectConfig) (address : ProjectAddress) :
    c.selection address options = c.selection address options' := by
  have hpart : ∀ scopes scope, c.part scopes options scope = c.part scopes options' scope := by
    intro scopes scope
    cases scope with
    | info => rfl
    | repositories =>
      unfold part RepositoryConfig.linkedSelection
      dsimp only
      rw [htotals, RepositoryConfig.body_congr_totals htotals]
  have hbody : c.body options = c.body options' := by
    unfold body
    dsimp only
    rw [funext (hpart _)]
  unfold selection
  rw [htotals, hbody]

end Below

namespace AccountConfig

variable (c : AccountConfig)

/-- What an account selects depends on the scopes in effect, however they came to be. -/
theorem selection_congr_resolved {options options' : DocumentOptions}
    (hresolved : c.resolved options = c.resolved options')
    (htotals : options.withTotals = options'.withTotals) (kind : AccountKind) :
    c.selection kind options = c.selection kind options' := by
  have hparts : ∀ scopes scope,
      c.parts kind scopes options scope = c.parts kind scopes options' scope := by
    intro scopes scope
    unfold parts
    dsimp only
    cases scope with
    | essential | info | all => rfl
    | packages =>
      rw [Graphql.packages, Graphql.scopedCollection_congr_totals htotals, Graphql.packages]
    | projects => rw [ProjectConfig.selection_congr_totals htotals]
  unfold selection
  dsimp only
  rw [hresolved, funext (hparts _)]

/-! ## With and without the implied scope -/

/-- Where the essential scope is present, or no scope at all, nothing is implied. -/
theorem resolved_of_essential (withTotals : Bool)
    (h : (ResolvedScopes.resolve c.scopes).contains .essential = true ∨
      (ResolvedScopes.resolve c.scopes).isEmpty = true) :
    c.resolved ⟨withTotals, true⟩ = c.resolved ⟨withTotals, false⟩ := by
  unfold resolved
  dsimp only
  rcases h with hpresent | hempty
  · obtain ⟨w, hw⟩ := Option.isSome_iff_exists.1 hpresent
    rw [Bool.false_and, if_neg Bool.false_ne_true]
    split
    · apply ResolvedScopes.ext_window?
      intro scope
      by_cases hscope : scope = .essential
      · subst hscope
        simp [ResolvedScopes.addIfAbsent, hw]
      · exact if_neg hscope
    · rfl
  · simp [hempty]

/-- Any request at all makes some scope present. -/
theorem isEmpty_resolve {requests : List (ScopeRequest AccountScope)} (h : requests ≠ []) :
    (ResolvedScopes.resolve requests).isEmpty = false := by
  obtain ⟨r, hr⟩ := List.exists_mem_of_ne_nil requests h
  obtain ⟨scope, hscope⟩ : ∃ scope, (ResolvedScopes.resolve requests).contains scope = true := by
    by_cases hall : r.scope = .all
    · exact ⟨.info, ResolvedScopes.contains_resolve.2 ⟨rfl, r, hr, Or.inr (isAll_iff.2 hall)⟩⟩
    · refine ⟨r.scope, ResolvedScopes.contains_resolve.2 ⟨?_, r, hr, Or.inl rfl⟩⟩
      rw [Bool.eq_false_iff, ne_eq, isAll_iff]
      exact hall
  rw [ResolvedScopes.isEmpty, List.isEmpty_eq_false_iff]
  exact List.ne_nil_of_mem (ResolvedScopes.mem_tags.2 hscope)

variable (before after : List (ScopeRequest AccountScope)) (w : PageWindow)

/-- One more request for the essential scope is not seen in the other scopes. -/
theorem window?_resolve_insert {scope : AccountScope} (hscope : scope ≠ .essential) :
    (ResolvedScopes.resolve (before ++ .ofWindow .essential w :: after)).window? scope =
      (ResolvedScopes.resolve (before ++ after)).window? scope := by
  have hwindows : ∀ p : AccountScope → Bool, p .essential = false →
      ResolvedScopes.windowsFor (before ++ .ofWindow .essential w :: after) p =
        ResolvedScopes.windowsFor (before ++ after) p := by
    intro p hp
    have hrequest : p (ScopeRequest.ofWindow .essential w).scope = false := hp
    unfold ResolvedScopes.windowsFor
    rw [List.filter_append, List.filter_append, List.filter_cons_of_neg (by simp [hrequest])]
  have hother : (AccountScope.essential == scope) = false :=
    beq_eq_false_iff_ne.2 fun heq => hscope heq.symm
  rw [ResolvedScopes.resolve_window?, ResolvedScopes.resolve_window?, hwindows _ hother,
    hwindows _ rfl]

/-- Among other requests, one for the essential scope changes nothing where the scope is implied. -/
theorem sameEffect_insert (projects : ProjectConfig) (withTotals : Bool)
    (h : before ++ after ≠ []) :
    (AccountConfig.mk (before ++ after) projects).SameEffect
      ⟨before ++ .ofWindow .essential w :: after, projects⟩ ⟨withTotals, true⟩ := by
  have hwindow : ∀ scope, scope ≠ .essential →
      ((AccountConfig.mk (before ++ after) projects).resolved ⟨withTotals, true⟩).window? scope =
        ((AccountConfig.mk (before ++ .ofWindow .essential w :: after) projects).resolved
          ⟨withTotals, true⟩).window? scope := by
    intro scope hscope
    rw [window?_resolved _ _ hscope, window?_resolved _ _ hscope]
    exact (window?_resolve_insert before after w hscope).symm
  refine ⟨ResolvedScopes.tags_eq_of_contains fun scope => ?_, hwindow .packages (by decide),
    hwindow .projects (by decide), fun _ => .refl projects⟩
  by_cases hscope : scope = .essential
  · have hmore : before ++ ScopeRequest.ofWindow .essential w :: after ≠ [] := by simp
    rw [hscope, contains_resolved_essential, contains_resolved_essential, isEmpty_resolve h,
      isEmpty_resolve hmore]
    rfl
  · unfold ResolvedScopes.contains
    rw [hwindow scope hscope]

end AccountConfig

/-! ## Documents -/

/-- Implying the essential scope is requesting it besides what else is requested, with any window
and at any place; where nothing is requested, nothing is implied. -/
theorem accountDocument_withEssential (account : Account) (projects : ProjectConfig)
    (withTotals : Bool) :
    (∀ (before after : List (ScopeRequest AccountScope)) (w : PageWindow), before ++ after ≠ [] →
      accountDocument account ⟨before ++ after, projects⟩ ⟨withTotals, true⟩ =
        accountDocument account ⟨before ++ .ofWindow .essential w :: after, projects⟩
          ⟨withTotals, false⟩) ∧
    accountDocument account ⟨[], projects⟩ ⟨withTotals, true⟩ =
      accountDocument account ⟨[], projects⟩ ⟨withTotals, false⟩ := by
  have hflag : ∀ c : AccountConfig, (ResolvedScopes.resolve c.scopes).contains .essential = true ∨
      (ResolvedScopes.resolve c.scopes).isEmpty = true →
      accountDocument account c ⟨withTotals, true⟩ =
        accountDocument account c ⟨withTotals, false⟩ := by
    intro c h
    unfold accountDocument
    rw [AccountConfig.selection_congr_resolved c (c.resolved_of_essential withTotals h) rfl]
  constructor
  · intro before after w h
    have hessential : (ResolvedScopes.resolve
        (before ++ ScopeRequest.ofWindow .essential w :: after)).contains .essential = true :=
      ResolvedScopes.contains_resolve.2 ⟨rfl, _, List.mem_append_right _ List.mem_cons_self,
        Or.inl rfl⟩
    calc accountDocument account ⟨before ++ after, projects⟩ ⟨withTotals, true⟩
        = accountDocument account ⟨before ++ .ofWindow .essential w :: after, projects⟩
            ⟨withTotals, true⟩ := accountDocument_congr_effect account
              (AccountConfig.sameEffect_insert before after w projects withTotals h)
      _ = accountDocument account ⟨before ++ .ofWindow .essential w :: after, projects⟩
            ⟨withTotals, false⟩ := hflag _ (Or.inl hessential)
  · exact hflag _ (Or.inr rfl)

/-- All scopes and the essential one by name, with the essential one once more in between; and twice
the same scope, with the essential one before both. -/
theorem accountDocument_withEssential_of_repeated :
    let all : ScopeRequest AccountScope := .first .nested .all
    let named : ScopeRequest AccountScope := ⟨.essential, .nested, .ofString "cursor"⟩
    let info : ScopeRequest AccountScope := .plain .info
    let w : PageWindow := ⟨.one, .ofString "other"⟩
    let account : Account := ⟨"login", .organization⟩
    [all] ++ [named] ≠ [] ∧ [] ++ [info, info] ≠ [] ∧
    accountDocument account ⟨[all] ++ [named], default⟩ ⟨true, true⟩ =
      accountDocument account ⟨[all] ++ .ofWindow .essential w :: [named], default⟩
        ⟨true, false⟩ ∧
    accountDocument account ⟨[] ++ [info, info], default⟩ ⟨true, true⟩ =
      accountDocument account ⟨[] ++ .ofWindow .essential w :: [info, info], default⟩
        ⟨true, false⟩ := by
  intro all named info w account
  have hnamed : [all] ++ [named] ≠ [] := by simp
  have hinfo : [] ++ [info, info] ≠ [] := by simp
  obtain ⟨htheorem, -⟩ := accountDocument_withEssential account default true
  exact ⟨hnamed, hinfo, htheorem [all] [named] w hnamed, htheorem [] [info, info] w hinfo⟩

end ScopeComposer
