import ScopeComposer.CommandLine.Compose
import ScopeComposer.Proofs.Compose.InertInputs
import ScopeComposer.Proofs.Scope.Compact

/-!
# Milestones as scopes of a repository

A command about milestones that reach down to the issues selects what a command about the repository
selects with two scopes, the milestones and the issues, each with its page size and its cursor. The
two configurations are not the same: the first one also has a window for a list of milestones that
nobody asked for, which is without effect where the milestones are asked for.
-/

namespace ScopeComposer.CommandLine

namespace MilestoneFlags

/-- The two scopes in compact form. -/
def scopesText (f : MilestoneFlags) : String :=
  "milestones:" ++ toString f.pageSize ++ ":" ++ f.after.getD "" ++
    ",issues:" ++ toString f.issuesPageSize ++ ":" ++ f.issuesAfter.getD ""

/-- The flags for the repository that say the same. -/
def repositoryFlags (f : MilestoneFlags) : RepositoryFlags where
  scopes := some f.scopesText
  issueStates := f.issueStates
  milestone := f.number

/-- The two scopes as requests. -/
def requests (f : MilestoneFlags) : List ReceivedRequest :=
  [⟨Tag.name RepositoryScope.milestones, some (.int f.pageSize), f.after⟩,
    ⟨Tag.name RepositoryScope.issues, some (.int f.issuesPageSize), f.issuesAfter⟩]

open ReceivedRequest (CompactCursor)

variable {f : MilestoneFlags}

theorem scopesText_eq_compactList (f : MilestoneFlags) :
    f.scopesText = ReceivedRequest.compactList f.requests := by
  have hmilestones : "milestones:" = Tag.name RepositoryScope.milestones ++ ":" := rfl
  have hissues : ",issues:" = "," ++ Tag.name RepositoryScope.issues ++ ":" := rfl
  have hlist : ReceivedRequest.compactList f.requests =
      (Tag.name RepositoryScope.milestones ++ ":" ++ toString f.pageSize ++ ":" ++
        f.after.getD "") ++ "," ++
      (Tag.name RepositoryScope.issues ++ ":" ++ toString f.issuesPageSize ++ ":" ++
        f.issuesAfter.getD "") := rfl
  unfold scopesText
  rw [hlist, hmilestones, hissues]
  simp only [String.append_assoc]

theorem hasCompactForm_of_mem_requests (hafter : CompactCursor f.after)
    (hissuesAfter : CompactCursor f.issuesAfter) : ∀ r ∈ f.requests, r.HasCompactForm := by
  have hname : ∀ scope : RepositoryScope, ReceivedRequest.Unseparated (Tag.name scope) :=
    ReceivedRequest.unseparated_name
  unfold requests
  simp only [List.forall_mem_cons, List.not_mem_nil, false_imp_iff, implies_true, and_true]
  exact ⟨⟨hname _, .integer _, hafter⟩, ⟨hname _, .integer _, hissuesAfter⟩⟩

/-! ## The two configurations -/

/-- What is selected of the repository, with any window for a list of milestones that nobody asks
for. -/
def selected (f : MilestoneFlags) (settings : Settings)
    (milestoneWindow : PageWindow → Option PageWindow) : Validated RepositoryConfig := do
  let pageSize ← PageSize.ofJson (.int f.pageSize)
  let issuesPageSize ← PageSize.ofJson (.int f.issuesPageSize)
  let states ← requestedStates settings f.issueStates
  let window : PageWindow := ⟨pageSize, .ofOption f.after⟩
  .ok ⟨[.ofWindow .milestones window, .ofWindow .issues ⟨issuesPageSize, .ofOption f.issuesAfter⟩],
    milestoneAddress f.number, milestoneWindow window, states⟩

theorem checkAll_requests (f : MilestoneFlags) (fallback : List RepositoryScope)
    (defaultSize : PageSize) :
    ReceivedRequest.checkAll f.requests fallback defaultSize = (do
      let pageSize ← PageSize.ofJson (.int f.pageSize)
      let issuesPageSize ← PageSize.ofJson (.int f.issuesPageSize)
      .ok [.ofWindow .milestones ⟨pageSize, .ofOption f.after⟩,
        .ofWindow .issues ⟨issuesPageSize, .ofOption f.issuesAfter⟩]) := by
  have hchecks : ReceivedRequest.checkAll f.requests fallback defaultSize =
      [(⟨Tag.name RepositoryScope.milestones, some (.int f.pageSize), f.after⟩ : ReceivedRequest),
        ⟨Tag.name RepositoryScope.issues, some (.int f.issuesPageSize), f.issuesAfter⟩].mapM
        (ReceivedRequest.check defaultSize) := rfl
  rw [hchecks, List.mapM_cons, List.mapM_cons, List.mapM_nil, ReceivedRequest.check_name,
    ReceivedRequest.check_name]
  simp only [bind_assoc, pure_bind]
  rfl

theorem validate_repositoryFlags (hafter : CompactCursor f.after)
    (hissuesAfter : CompactCursor f.issuesAfter) (settings : Settings) :
    f.repositoryFlags.validate settings = f.selected settings fun _ => none := by
  have hscopes : scopeRequests settings f.repositoryFlags.scopes RepositoryScope.fallback =
      ReceivedRequest.checkAll f.requests RepositoryScope.fallback settings.defaultPageSize := by
    have hlist := ScopeRequest.ofCompactList_compactList
      (hasCompactForm_of_mem_requests hafter hissuesAfter) RepositoryScope.fallback
      settings.defaultPageSize
    rwa [← scopesText_eq_compactList] at hlist
  unfold RepositoryFlags.validate selected
  rw [hscopes, checkAll_requests]
  simp only [bind_assoc]
  rfl

/-- A depth that reaches the issues asks for the milestones and for the issues, in this order. -/
theorem ofMilestones_of_mem {depth : List MilestoneDepth} (hinfo : .info ∈ depth)
    (hissues : .issues ∈ depth) (address : MilestoneAddress) (milestones issues : PageWindow)
    (states : List IssueState) :
    RepositoryConfig.ofMilestones address depth milestones issues states =
      ⟨[.ofWindow .milestones milestones, .ofWindow .issues issues], address, some milestones,
        states⟩ := by
  have hall : ∀ t : MilestoneDepth, (ResolvedScopes.ofTags depth).contains t = true := by
    intro t
    rw [ResolvedScopes.contains_ofTags fun t => by cases t <;> rfl]
    cases t with
    | info => exact hinfo
    | issues => exact hissues
  have htags : (ResolvedScopes.ofTags depth).tags = [.info, .issues] :=
    List.filter_eq_self.2 fun t _ => hall t
  unfold RepositoryConfig.ofMilestones
  rw [htags]
  rfl

theorem validate_of_depth {depth : List MilestoneDepth}
    (hdepth : NameList.tags (f.depth.map .joined) MilestoneDepth.fallback = .ok depth)
    (hinfo : .info ∈ depth) (hissues : .issues ∈ depth) (settings : Settings) :
    f.validate settings = f.selected settings some := by
  have hconfig := ofMilestones_of_mem hinfo hissues (milestoneAddress f.number)
  unfold validate selected
  rw [hdepth]
  simp only [bind, Except.bind, hconfig]

/-- A window for a list of milestones that nobody asks for is not seen in the document. -/
theorem document_selected (f : MilestoneFlags) (settings : Settings)
    (milestoneWindow : PageWindow → Option PageWindow) (repository : RepositoryAddress)
    (options : DocumentOptions) :
    (f.selected settings milestoneWindow).map (repositoryDocument repository · options) =
      (f.selected settings fun _ => none).map (repositoryDocument repository · options) := by
  unfold selected
  cases PageSize.ofJson (.int f.pageSize) with
  | error e => rfl
  | ok pageSize =>
    cases PageSize.ofJson (.int f.issuesPageSize) with
    | error e => rfl
    | ok issuesPageSize =>
      cases requestedStates settings f.issueStates with
      | error e => rfl
      | ok states =>
        -- the milestones are requested, and the window of their request overrules the other one
        have hchange : RepositoryConfig.InertChange _ _ :=
          .milestoneWindow (c := ⟨[.ofWindow .milestones ⟨pageSize, .ofOption f.after⟩,
            .ofWindow .issues ⟨issuesPageSize, .ofOption f.issuesAfter⟩],
            milestoneAddress f.number, milestoneWindow ⟨pageSize, .ofOption f.after⟩, states⟩)
            (Or.inr ⟨_, List.mem_cons_self, List.mem_cons_self⟩) none
        exact congrArg Except.ok
          (repositoryDocument_congr_effect repository hchange.sameEffect options)

/-- With the name of its call left out, a command about a repository gives a document if what it
selects passes the checks, and fails for what the checks find otherwise. -/
theorem map_document (name : String) (repository : RepositoryAddress) (options : DocumentOptions)
    (config : Validated RepositoryConfig) :
    (do let c ← config.mapError ComposeError.scope
        Except.ok (Composed.mk name (repositoryDocument repository c options))).map
          Composed.document =
      (config.map (repositoryDocument repository · options)).mapError ComposeError.scope := by
  cases config with
  | error e => rfl
  | ok c => rfl

/-- The command about milestones composes the same document as the command about the repository with
the two scopes, or fails for the same reason. -/
theorem document_milestones_eq_repository {depth : List MilestoneDepth}
    (hdepth : NameList.tags (f.depth.map .joined) MilestoneDepth.fallback = .ok depth)
    (hinfo : .info ∈ depth) (hissues : .issues ∈ depth) (hafter : CompactCursor f.after)
    (hissuesAfter : CompactCursor f.issuesAfter) (shorthand : String) (settings : Settings)
    (bodyText : String → Option String) :
    ((Command.milestones shorthand f).compose settings bodyText).map Composed.document =
      ((Command.repository shorthand f.repositoryFlags).compose settings bodyText).map
        Composed.document := by
  unfold Command.compose
  dsimp only
  rw [validate_of_depth hdepth hinfo hissues, validate_repositoryFlags hafter hissuesAfter]
  cases readRepository shorthand with
  | error e => rfl
  | ok repository =>
    have hdocument := document_selected f settings some repository settings.documentOptions
    exact (map_document "milestones" repository _ _).trans
      ((congrArg (Except.mapError ComposeError.scope) hdocument).trans
        (map_document "repository" repository _ _).symm)

/-- Two pages of milestones and their issues, one after a cursor with a colon in it. -/
theorem document_milestones_of_colon_in_cursor :
    let flags : MilestoneFlags := ⟨none, some "issues, info", some "closed", 5, some "a:b", 20, none⟩
    ((Command.milestones "owner/name" flags).compose .standard fun _ => none).map
        Composed.document =
      ((Command.repository "owner/name"
        ⟨some "milestones:5:a:b,issues:20:", some "closed", none⟩).compose .standard
          fun _ => none).map Composed.document := by
  intro flags
  have hdepth : NameList.tags (flags.depth.map .joined) MilestoneDepth.fallback =
      .ok [.issues, .info] := by decide
  exact document_milestones_eq_repository hdepth (by decide) (by decide) (by decide) (by decide)
    "owner/name" .standard fun _ => none

end MilestoneFlags

end ScopeComposer.CommandLine
