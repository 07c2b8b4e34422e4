import Mathlib.Logic.Relation
import ScopeComposer.Proofs.Compose.Effect
import ScopeComposer.Proofs.Scope.Repaged

/-!
# Inputs that are without effect

A part of a configuration whose level is not reached, a window that nothing is paged by, and a
setting that another one overrules may be anything: the document for the account stays the same,
letter by letter. Every kind of such a change is listed for its level; it keeps what is in effect, so
any number of changes one after the other keeps the document.
-/

namespace ScopeComposer

open ScopeRequest (Repaged)

/-! ## Changes without effect -/

/-- A change to what is selected of linked repositories that is without effect. -/
inductive RepositoryConfig.InertChange : RepositoryConfig → RepositoryConfig → Prop
  /-- Nothing reaches the milestones. -/
  | unreached {c : RepositoryConfig}
    (h : ∀ r ∈ c.scopes, r.scope ∉ [.milestones, .issues, RepositoryScope.all])
    (milestone : MilestoneAddress) (milestoneWindow : Option PageWindow)
    (issueStates : List IssueState) :
    InertChange c ⟨c.scopes, milestone, milestoneWindow, issueStates⟩
  /-- Nothing but the number of repositories is asked for. -/
  | onlyNumber {c : RepositoryConfig} (hsome : c.scopes ≠ [])
    (h : ∀ r ∈ c.scopes, r.scope = .count) (milestone : MilestoneAddress)
    (milestoneWindow : Option PageWindow) (issueStates : List IssueState) :
    InertChange c ⟨c.scopes, milestone, milestoneWindow, issueStates⟩
  /-- No issues are selected whose states could matter. -/
  | issueStates {c : RepositoryConfig}
    (h : ∀ r ∈ c.scopes, r.scope ∉ [.issues, RepositoryScope.all])
    (issueStates : List IssueState) : InertChange c { c with issueStates }
  /-- There is no list of milestones, or it has the window of its own request. -/
  | milestoneWindow {c : RepositoryConfig}
    (h : (∃ number, c.milestone = .single number) ∨
      ∃ r ∈ c.scopes, r.scope ∈ [.milestones, RepositoryScope.all])
    (milestoneWindow : Option PageWindow) : InertChange c { c with milestoneWindow }
  /-- A single milestone is not paged. -/
  | singleMilestone {c : RepositoryConfig} {number : UInt64} (h : c.milestone = .single number)
    {scopes : List (ScopeRequest RepositoryScope)} (hscopes : Repaged [.milestones] c.scopes scopes) :
    InertChange c { c with scopes }
  /-- Fields that are no collections are not paged. -/
  | fixedFields {c : RepositoryConfig} {scopes : List (ScopeRequest RepositoryScope)}
    (hscopes : Repaged [.count, .info, .license] c.scopes scopes) : InertChange c { c with scopes }

/-- A change to what is selected of projects that is without effect. -/
inductive ProjectConfig.InertChange : ProjectConfig → ProjectConfig → Prop
  /-- Nothing reaches the linked repositories. -/
  | unreached {c : ProjectConfig} (h : ∀ r ∈ c.scopes, r.scope ≠ .repositories)
    (repositories : RepositoryConfig) : InertChange c { c with repositories }
  /-- Fields that are no collections are not paged. -/
  | fixedFields {c : ProjectConfig} {scopes : List (ScopeRequest ProjectScope)}
    (hscopes : Repaged [.info] c.scopes scopes) : InertChange c { c with scopes }
  /-- A change to the level below. -/
  | repositories {c : ProjectConfig} {repositories : RepositoryConfig}
    (h : c.repositories.InertChange repositories) : InertChange c { c with repositories }

/-- A change to what is selected of an account that is without effect. -/
inductive AccountConfig.InertChange : AccountConfig → AccountConfig → Prop
  /-- Nothing reaches the projects. -/
  | unreached {c : AccountConfig} (h : ∀ r ∈ c.scopes, r.scope ∉ [.projects, AccountScope.all])
    (projects : ProjectConfig) : InertChange c { c with projects }
  /-- Fields that are no collections are not paged. -/
  | fixedFields {c : AccountConfig} {scopes : List (ScopeRequest AccountScope)}
    (hscopes : Repaged [.essential, .info] c.scopes scopes) : InertChange c { c with scopes }
  /-- A change to the level below. -/
  | projects {c : AccountConfig} {projects : ProjectConfig}
    (h : c.projects.InertChange projects) : InertChange c { c with projects }

/-! ## Repositories -/

namespace RepositoryConfig

theorem isAll_iff {scope : RepositoryScope} : Tag.isAll scope = true ↔ scope = .all := by
  cases scope <;> decide

/-- A scope is present because it was named or because all were. -/
theorem exists_request_of_contains {requests : List (ScopeRequest RepositoryScope)}
    {scope : RepositoryScope} (h : (ResolvedScopes.resolve requests).contains scope = true) :
    ∃ r ∈ requests, r.scope = scope ∨ r.scope = .all := by
  simpa only [isAll_iff] using (ResolvedScopes.contains_resolve.1 h).2

theorem SameMilestones.refl (c : RepositoryConfig) : c.SameMilestones c :=
  ⟨rfl, fun _ => rfl, fun _ => rfl, fun _ _ => Iff.rfl⟩

theorem SameEffect.refl (c : RepositoryConfig) : c.SameEffect c :=
  ⟨rfl, fun _ _ _ => rfl, fun _ _ => .refl c⟩

/-- With the scopes unchanged, only the milestone level can differ, and only where it is reached. -/
theorem sameEffect_of_scopes {c c' : RepositoryConfig} (hscopes : c'.scopes = c.scopes)
    (h : ((ResolvedScopes.resolve c.scopes).contains .milestones = true ∨
      (ResolvedScopes.resolve c.scopes).contains .issues = true) → c.SameMilestones c') :
    c.SameEffect c' where
  tags := by rw [hscopes]
  windows _ scope _ := by rw [hscopes]
  milestones _ hreached := h hreached

/-- With nothing that reaches them, milestones and issues are not in effect. -/
theorem sameEffect_of_unreached {c c' : RepositoryConfig} (hscopes : c'.scopes = c.scopes)
    (h : ∀ r ∈ c.scopes, r.scope ∉ [.milestones, .issues, RepositoryScope.all]) :
    c.SameEffect c' := by
  refine sameEffect_of_scopes hscopes fun hreached => ?_
  rcases hreached with hpresent | hpresent <;>
    obtain ⟨r, hr, hscope | hscope⟩ := exists_request_of_contains hpresent <;>
      exact absurd (by simp [hscope]) (h r hr)

/-- Other windows for scopes that have no use for one keep the effect; milestones are among these
scopes only where a single milestone is selected. -/
theorem sameEffect_of_repaged {c : RepositoryConfig} {idle : List RepositoryScope}
    {scopes : List (ScopeRequest RepositoryScope)} (hscopes : Repaged idle c.scopes scopes)
    (hidle : ∀ scope ∈ idle, scope ∈ [.count, .info, .license] ∨
      (scope = .milestones ∧ c.milestone ≠ .list)) : c.SameEffect { c with scopes } := by
  have hfixed : ∀ scope ∈ [RepositoryScope.count, .info, .license],
      Tag.isAll scope = false ∧ scope ∉ pagedScopes ∧ scope ≠ .issues ∧ scope ≠ .milestones := by
    decide
  have hused : ∀ scope ∈ idle, Tag.isAll scope = false ∧ scope ∉ pagedScopes ∧ scope ≠ .issues := by
    intro scope hscope
    rcases hidle scope hscope with hmem | ⟨rfl, -⟩
    · obtain ⟨hall, hpaged, hissues, -⟩ := hfixed scope hmem
      exact ⟨hall, hpaged, hissues⟩
    · decide
  have hwindow := fun scope hscope =>
    hscopes.window?_eq (fun scope hscope => (hused scope hscope).1) (t := scope) hscope
  have hlist : c.milestone = .list → (ResolvedScopes.resolve c.scopes).window? .milestones =
      (ResolvedScopes.resolve scopes).window? .milestones := by
    intro hlist
    refine hwindow .milestones fun hmem => ?_
    rcases hidle .milestones hmem with hmilestones | ⟨-, hsingle⟩
    · exact (hfixed _ hmilestones).2.2.2 rfl
    · exact hsingle hlist
  refine ⟨ResolvedScopes.tags_eq_of_contains hscopes.contains_eq, fun _ scope hpaged => ?_,
    fun _ _ => ⟨rfl, fun haddress => ?_, fun _ => ?_, fun _ _ => Iff.rfl⟩⟩
  · exact hwindow scope fun hmem => (hused scope hmem).2.1 hpaged
  · unfold listWindow
    rw [hlist haddress]
  · exact hwindow .issues fun hmem => (hused .issues hmem).2.2 rfl

/-- No change without effect has an effect. -/
theorem InertChange.sameEffect {c c' : RepositoryConfig} (h : c.InertChange c') :
    c.SameEffect c' := by
  cases h with
  | unreached h => exact sameEffect_of_unreached rfl h
  | onlyNumber _ h =>
    refine sameEffect_of_unreached rfl fun r hr => ?_
    rw [h r hr]
    decide
  | issueStates h =>
    -- the milestones may be reached, but then without their issues
    refine sameEffect_of_scopes rfl fun _ => ⟨rfl, fun _ => rfl, fun _ => rfl, fun hissues => ?_⟩
    obtain ⟨r, hr, hscope | hscope⟩ := exists_request_of_contains hissues
    · exact absurd (by simp [hscope]) (h r hr)
    · exact absurd (by simp [hscope]) (h r hr)
  | milestoneWindow h milestoneWindow =>
    refine sameEffect_of_scopes rfl fun _ => ⟨rfl, fun hlist => ?_, fun _ => rfl,
      fun _ _ => Iff.rfl⟩
    rcases h with ⟨number, hsingle⟩ | ⟨r, hr, hscope⟩
    · cases hsingle.symm.trans hlist
    · -- the list has a window of its own, which comes first
      have hpresent : (ResolvedScopes.resolve c.scopes).contains .milestones = true := by
        refine ResolvedScopes.contains_resolve.2 ⟨rfl, r, hr, ?_⟩
        simpa [isAll_iff] using hscope
      obtain ⟨w, hw⟩ := Option.isSome_iff_exists.1 hpresent
      unfold listWindow
      rw [hw]
      rfl
  | singleMilestone h hscopes =>
    refine sameEffect_of_repaged hscopes fun scope hscope => Or.inr ?_
    rw [h]
    exact ⟨List.mem_singleton.1 hscope, nofun⟩
  | fixedFields hscopes => exact sameEffect_of_repaged hscopes fun scope hscope => Or.inl hscope

end RepositoryConfig

/-! ## Projects and accounts -/

theorem ProjectConfig.SameEffect.refl (c : ProjectConfig) : c.SameEffect c :=
  ⟨rfl, rfl, fun _ => .refl c.repositories⟩

theorem ProjectConfig.InertChange.sameEffect {c c' : ProjectConfig} (h : c.InertChange c') :
    c.SameEffect c' := by
  cases h with
  | unreached h =>
    refine ⟨rfl, rfl, fun hpresent => ?_⟩
    obtain ⟨-, r, hr, hscope | hall⟩ := ResolvedScopes.contains_resolve.1 hpresent
    · exact absurd hscope (h r hr)
    · cases hall
  | fixedFields hscopes =>
    exact ⟨ResolvedScopes.tags_eq_of_contains hscopes.contains_eq,
      hscopes.window?_eq (fun _ _ => rfl) (by decide), fun _ => .refl _⟩
  | repositories h => exact ⟨rfl, rfl, fun _ => h.sameEffect⟩

namespace AccountConfig

theorem isAll_iff {scope : AccountScope} : Tag.isAll scope = true ↔ scope = .all := by
  cases scope <;> decide

theorem window?_resolved (c : AccountConfig) (options : DocumentOptions) {scope : AccountScope}
    (hscope : scope ≠ .essential) : (c.resolved options).window? scope =
      (ResolvedScopes.resolve c.scopes).window? scope := by
  unfold resolved
  dsimp only
  split
  · exact if_neg hscope
  · rfl

/-- The essential scope is implied by any other scope. -/
theorem contains_resolved_essential (c : AccountConfig) (options : DocumentOptions) :
    (c.resolved options).contains .essential =
      ((options.withEssential && !(ResolvedScopes.resolve c.scopes).isEmpty) ||
        (ResolvedScopes.resolve c.scopes).contains .essential) := by
  unfold resolved
  dsimp only
  split
  · next himplied =>
    rw [himplied, Bool.true_or]
    rfl
  · next himplied => rw [Bool.eq_false_iff.2 himplied, Bool.false_or]

/-- The projects are present because they were named or because all scopes were. -/
theorem exists_request_of_contains_projects {c : AccountConfig} {options : DocumentOptions}
    (h : (c.resolved options).contains .projects = true) :
    ∃ r ∈ c.scopes, r.scope ∈ [.projects, AccountScope.all] := by
  unfold ResolvedScopes.contains at h
  rw [window?_resolved c options (by decide)] at h
  obtain ⟨-, r, hr, hscope⟩ := ResolvedScopes.contains_resolve.1 h
  exact ⟨r, hr, by simpa [isAll_iff] using hscope⟩

/-- Other windows for fixed fields keep the scopes that are in effect, and all other windows. -/
theorem resolved_of_repaged {c : AccountConfig} {scopes : List (ScopeRequest AccountScope)}
    (hscopes : Repaged [.essential, .info] c.scopes scopes) (options : DocumentOptions) :
    (∀ scope, (c.resolved options).contains scope =
      ({ c with scopes : AccountConfig }.resolved options).contains scope) ∧
    (∀ scope ∉ [.essential, AccountScope.info], (c.resolved options).window? scope =
      ({ c with scopes : AccountConfig }.resolved options).window? scope) := by
  have htags := ResolvedScopes.tags_eq_of_contains hscopes.contains_eq
  refine ⟨fun scope => ?_, fun scope hscope => ?_⟩
  · by_cases hessential : scope = .essential
    · rw [hessential, contains_resolved_essential, contains_resolved_essential,
        ← hscopes.contains_eq, ResolvedScopes.isEmpty, ResolvedScopes.isEmpty, htags]
    · have hcontains := hscopes.contains_eq scope
      unfold ResolvedScopes.contains at hcontains ⊢
      rw [window?_resolved _ _ hessential, window?_resolved _ _ hessential, hcontains]
  · have hessential : scope ≠ .essential := fun heq => hscope (heq ▸ List.mem_cons_self)
    rw [window?_resolved _ _ hessential, window?_resolved _ _ hessential,
      hscopes.window?_eq (by decide) hscope]

theorem InertChange.sameEffect {c c' : AccountConfig} (h : c.InertChange c')
    (options : DocumentOptions) : c.SameEffect c' options := by
  cases h with
  | unreached h =>
    refine ⟨rfl, rfl, rfl, fun hpresent => ?_⟩
    obtain ⟨r, hr, hscope⟩ := exists_request_of_contains_projects hpresent
    exact absurd hscope (h r hr)
  | fixedFields hscopes =>
    obtain ⟨hcontains, hwindow⟩ := resolved_of_repaged hscopes options
    exact ⟨ResolvedScopes.tags_eq_of_contains hcontains, hwindow .packages (by decide),
      hwindow .projects (by decide), fun _ => .refl _⟩
  | projects h => exact ⟨rfl, rfl, rfl, fun _ => h.sameEffect⟩

end AccountConfig

/-! ## Documents -/

/-- What is without effect may be anything: no chain of such changes, at whatever levels, is seen in
the document for the account. -/
theorem accountDocument_eq_of_inertChanges (account : Account) (options : DocumentOptions)
    {c c' : AccountConfig} (h : Relation.ReflTransGen AccountConfig.InertChange c c') :
    accountDocument account c options = accountDocument account c' options := by
  induction h with
  | refl => rfl
  | tail _ hchange ih => exact ih.trans (accountDocument_congr_effect account
      (hchange.sameEffect options))

/-- A single milestone has no use for the window of its request or for that of a list, a project
without linked repositories none for what is selected of them, and essential fields none for a page
size. -/
theorem accountDocument_eq_of_other_windows :
    let window : PageWindow := ⟨.nested, .ofString "cursor"⟩
    let linked : RepositoryConfig :=
      ⟨[.plain .milestones, .plain .license], .single 7, none, [.closed]⟩
    let linked' : RepositoryConfig :=
      ⟨[.ofWindow .milestones window, .plain .license], .single 7, some window, [.opened]⟩
    let c : AccountConfig :=
      ⟨[.plain .essential, .plain .projects], ⟨[.plain .repositories], linked⟩⟩
    let c' : AccountConfig :=
      ⟨[.ofWindow .essential window, .plain .projects], ⟨[.plain .repositories], linked'⟩⟩
    c ≠ c' ∧ Relation.ReflTransGen AccountConfig.InertChange c c' ∧
      accountDocument ⟨"login", .user⟩ c .plain = accountDocument ⟨"login", .user⟩ c' .plain := by
  intro window linked linked' c c'
  have hpages : Repaged [.milestones] linked.scopes linked'.scopes :=
    .cons ⟨rfl, fun h => absurd (by decide) h⟩ (.cons ⟨rfl, fun _ => rfl⟩ .nil)
  have hessential : Repaged [.essential, .info] c.scopes c'.scopes :=
    .cons ⟨rfl, fun h => absurd (by decide) h⟩ (.cons ⟨rfl, fun _ => rfl⟩ .nil)
  have hchain : Relation.ReflTransGen AccountConfig.InertChange c c' :=
    .tail (.tail (.tail (.tail .refl
      (.projects (.repositories (.singleMilestone rfl hpages))))
      (.projects (.repositories (.milestoneWindow (.inl ⟨7, rfl⟩) (some window)))))
      (.projects (.repositories (.issueStates (by decide) [.opened]))))
      (.fixedFields hessential)
  exact ⟨by decide, hchain, accountDocument_eq_of_inertChanges _ _ hchain⟩

end ScopeComposer
