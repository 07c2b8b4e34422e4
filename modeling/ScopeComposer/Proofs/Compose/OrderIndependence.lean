import ScopeComposer.Compose.Account
import ScopeComposer.Proofs.Scope.Resolved

/-!
# Order and repetition of requests

A document depends on the set of requests at every level and not on how they are listed. The lists
of a configuration reach the text only through the scopes that they resolve to, and these are the
same for lists with the same elements; so the texts agree level by level.
-/

namespace ScopeComposer

/-! ## The same requests -/

/-- Two configurations that make the same requests, in any order and with any repetitions. -/
structure RepositoryConfig.SameRequests (c c' : RepositoryConfig) : Prop where
  /-- The same requests for scopes. -/
  scopes : ∀ r, r ∈ c.scopes ↔ r ∈ c'.scopes
  /-- The same states of issues. -/
  issueStates : ∀ state, state ∈ c.issueStates ↔ state ∈ c'.issueStates
  /-- The same milestones. -/
  milestone : c.milestone = c'.milestone
  /-- The same window of milestones. -/
  milestoneWindow : c.milestoneWindow = c'.milestoneWindow

/-- Two configurations that make the same requests, in any order and with any repetitions. -/
structure ProjectConfig.SameRequests (c c' : ProjectConfig) : Prop where
  /-- The same requests for scopes. -/
  scopes : ∀ r, r ∈ c.scopes ↔ r ∈ c'.scopes
  /-- The same requests for the linked repositories. -/
  repositories : c.repositories.SameRequests c'.repositories

/-- Two configurations that make the same requests, in any order and with any repetitions. -/
structure AccountConfig.SameRequests (c c' : AccountConfig) : Prop where
  /-- The same requests for scopes. -/
  scopes : ∀ r, r ∈ c.scopes ↔ r ∈ c'.scopes
  /-- The same requests for the projects. -/
  projects : c.projects.SameRequests c'.projects

/-! ## Repositories -/

/-- The text of the milestone level depends on the window of the list only where there is a list,
and on the issues only where the selection reaches them; of their states only the set counts. -/
theorem MilestoneConfig.text_congr {c c' : MilestoneConfig} (haddress : c.address = c'.address)
    (hwindow : c.address = .list → c.window = c'.window)
    (hdepth : ∀ depth, depth ∈ c.depth ↔ depth ∈ c'.depth)
    (hissues : .issues ∈ c.depth → c.issues.window = c'.issues.window ∧
      ResolvedScopes.ofTags c.issues.states = ResolvedScopes.ofTags c'.issues.states)
    (options : DocumentOptions) : c.text options = c'.text options := by
  have hbody : c.body options = c'.body options := by
    unfold body
    rw [← ResolvedScopes.ofTags_congr hdepth]
    refine congrArg (fun parts => Graphql.stack ("number" :: parts)) ?_
    refine List.map_congr_left fun depth hmem => ?_
    cases depth with
    | info => rfl
    | issues =>
      have hreached : .issues ∈ c.depth :=
        (ResolvedScopes.contains_ofTags fun _ => rfl).1 (ResolvedScopes.mem_tags.1 hmem)
      obtain ⟨hpage, hstates⟩ := hissues hreached
      have hhead : c.issues.head = c'.issues.head := by
        funext state
        unfold MilestoneIssues.head
        rw [hpage]
      show c.issues.text options = c'.issues.text options
      unfold MilestoneIssues.text
      rw [hstates, hhead]
  unfold text
  rw [← haddress, hbody]
  cases haddressed : c.address with
  | single number => rfl
  | list => rw [hwindow haddressed]

namespace RepositoryConfig

/-- No state stands for the open ones, and that there is no state can be seen from the set. -/
theorem ofTags_statesInUse {c c' : RepositoryConfig} (h : c.SameRequests c') :
    ResolvedScopes.ofTags c.statesInUse = ResolvedScopes.ofTags c'.statesInUse := by
  have hempty : c.issueStates = [] ↔ c'.issueStates = [] := by
    rw [List.eq_nil_iff_forall_not_mem, List.eq_nil_iff_forall_not_mem]
    simp only [h.issueStates]
  unfold statesInUse
  by_cases hnil : c.issueStates = []
  · rw [hnil, hempty.1 hnil]
  · have hnil' : c'.issueStates ≠ [] := fun heq => hnil (hempty.2 heq)
    rw [if_neg (by simpa using hnil), if_neg (by simpa using hnil')]
    exact ResolvedScopes.ofTags_congr h.issueStates

theorem milestoneText_congr {c c' : RepositoryConfig} (h : c.SameRequests c')
    (scopes : ResolvedScopes RepositoryScope) (options : DocumentOptions) :
    c.milestoneText scopes options = c'.milestoneText scopes options := by
  have hlevel : c'.milestoneLevel? scopes = (c.milestoneLevel? scopes).map fun level =>
      { level with issues := ⟨level.issues.window, c'.statesInUse⟩ } := by
    unfold milestoneLevel?
    rw [h.milestone, h.milestoneWindow]
    dsimp only
    split <;> rfl
  have hstates : ∀ level ∈ c.milestoneLevel? scopes, level.issues.states = c.statesInUse := by
    intro level hmem
    unfold milestoneLevel? at hmem
    dsimp only at hmem
    split at hmem
    · cases hmem
    · obtain rfl := Option.some.inj hmem
      rfl
  unfold milestoneText
  rw [hlevel]
  cases hopt : c.milestoneLevel? scopes with
  | none => rfl
  | some level =>
    have hused : ResolvedScopes.ofTags level.issues.states =
        ResolvedScopes.ofTags c'.statesInUse := by
      rw [hstates level hopt, ofTags_statesInUse h]
    have htext : level.text options =
        { level with issues := ⟨level.issues.window, c'.statesInUse⟩ : MilestoneConfig }.text
          options := by
      apply MilestoneConfig.text_congr
      · rfl
      · exact fun _ => rfl
      · exact fun _ => Iff.rfl
      · exact fun _ => ⟨rfl, hused⟩
    exact congrArg (fun text => [text]) htext

theorem body_congr {c c' : RepositoryConfig} (h : c.SameRequests c')
    (scopes : ResolvedScopes RepositoryScope) (options : DocumentOptions) :
    c.body scopes options = c'.body scopes options := by
  unfold body
  refine congrArg (fun parts => Graphql.stack ("name" :: parts)) ?_
  refine List.flatMap_congr fun scope _ => ?_
  unfold parts
  rw [milestoneText_congr h]

theorem selection_congr {c c' : RepositoryConfig} (h : c.SameRequests c')
    (options : DocumentOptions) : c.selection options = c'.selection options := by
  unfold selection
  rw [ResolvedScopes.resolve_congr h.scopes, body_congr h]

theorem linkedSelection_congr {c c' : RepositoryConfig} (h : c.SameRequests c') (w : PageWindow)
    (options : DocumentOptions) :
    c.linkedSelection w options = c'.linkedSelection w options := by
  unfold linkedSelection
  rw [ResolvedScopes.resolve_congr h.scopes]
  dsimp only
  rw [body_congr h]

end RepositoryConfig

/-! ## Projects and accounts -/

theorem ProjectConfig.selection_congr {c c' : ProjectConfig} (h : c.SameRequests c')
    (address : ProjectAddress) (options : DocumentOptions) :
    c.selection address options = c'.selection address options := by
  have hbody : c.body options = c'.body options := by
    unfold body
    rw [ResolvedScopes.resolve_congr h.scopes]
    dsimp only
    refine congrArg (fun parts => Graphql.stack ("number" :: "title" :: parts)) ?_
    refine List.map_congr_left fun scope _ => ?_
    cases scope with
    | info => rfl
    | repositories => exact RepositoryConfig.linkedSelection_congr h.repositories _ options
  unfold selection
  rw [hbody]

theorem AccountConfig.selection_congr {c c' : AccountConfig} (h : c.SameRequests c')
    (kind : AccountKind) (options : DocumentOptions) :
    c.selection kind options = c'.selection kind options := by
  have hresolved : c.resolved options = c'.resolved options := by
    unfold resolved
    rw [ResolvedScopes.resolve_congr h.scopes]
  unfold selection
  rw [hresolved]
  dsimp only
  refine congrArg Graphql.stack (List.flatMap_congr fun scope _ => ?_)
  unfold parts
  dsimp only
  rw [ProjectConfig.selection_congr h.projects]

/-! ## Documents -/

/-- All three documents depend on the requests of a configuration as sets: listing them in another
order or several times gives the same text. -/
theorem documents_congr_requests (options : DocumentOptions) :
    (∀ (account : Account) (c c' : AccountConfig), c.SameRequests c' →
      accountDocument account c options = accountDocument account c' options) ∧
    (∀ (account : Account) (identity : ProjectIdentity) (c c' : ProjectConfig),
      c.SameRequests c' →
        projectDocument account identity c options = projectDocument account identity c' options) ∧
    (∀ (repository : RepositoryAddress) (c c' : RepositoryConfig), c.SameRequests c' →
      repositoryDocument repository c options = repositoryDocument repository c' options) := by
  refine ⟨?_, ?_, ?_⟩
  · intro account c c' h
    rw [accountDocument, AccountConfig.selection_congr h, accountDocument]
  · intro account identity c c' h
    rw [projectDocument, ProjectConfig.selection_congr h, projectDocument]
  · intro repository c c' h
    unfold repositoryDocument
    rw [RepositoryConfig.selection_congr h]

/-- Conflicting requests for one scope, requests for all scopes, and states of issues, in two orders
and with repetitions at every level. -/
theorem documents_congr_reversed :
    let account : Account := ⟨"login", .user⟩
    let small := ScopeRequest.first .one RepositoryScope.issues
    let large := ScopeRequest.mk RepositoryScope.issues .nested (.ofString "cursor")
    let forth : RepositoryConfig :=
      ⟨[small, large, .plain .all], .list, none, [.opened, .closed]⟩
    let back : RepositoryConfig :=
      ⟨[.plain .all, large, small, large], .list, none, [.closed, .opened, .closed]⟩
    let projects : ProjectConfig := ⟨[.plain .info, .plain .repositories], forth⟩
    let projects' : ProjectConfig := ⟨[.plain .repositories, .plain .info, .plain .info], back⟩
    let c : AccountConfig := ⟨[.plain .all, .plain .info], projects⟩
    let c' : AccountConfig := ⟨[.plain .info, .plain .all, .plain .info], projects'⟩
    accountDocument account c .plain = accountDocument account c' .plain ∧
    projectDocument account (.name "name") projects .plain =
      projectDocument account (.name "name") projects' .plain ∧
    repositoryDocument ⟨"owner", "name"⟩ forth .plain =
      repositoryDocument ⟨"owner", "name"⟩ back .plain := by
  intro account small large forth back projects projects' c c'
  have hscopes : ∀ r, r ∈ forth.scopes ↔ r ∈ back.scopes := by
    intro r
    simp only [forth, back, List.mem_cons, List.not_mem_nil, or_false]
    tauto
  have hstates : ∀ state, state ∈ forth.issueStates ↔ state ∈ back.issueStates := by
    intro state
    cases state <;> decide
  have hproject : ∀ r, r ∈ projects.scopes ↔ r ∈ projects'.scopes := by
    intro r
    simp only [projects, projects', List.mem_cons, List.not_mem_nil, or_false]
    tauto
  have haccount : ∀ r, r ∈ c.scopes ↔ r ∈ c'.scopes := by
    intro r
    simp only [c, c', List.mem_cons, List.not_mem_nil, or_false]
    tauto
  have hrepositories : forth.SameRequests back := ⟨hscopes, hstates, rfl, rfl⟩
  have hprojects : projects.SameRequests projects' := ⟨hproject, hrepositories⟩
  have htheorem := documents_congr_requests .plain
  exact ⟨htheorem.1 account c c' ⟨haccount, hprojects⟩,
    htheorem.2.1 account _ projects projects' hprojects, htheorem.2.2 _ forth back hrepositories⟩

end ScopeComposer
