import ScopeComposer.Proofs.Compose.OrderIndependence
import ScopeComposer.Proofs.Compose.RepositoryNode

/-!
# The milestone level of a repository

Two scopes of a repository lead to one milestone level, which is written out here with everything
that it takes from the configuration: its address, its window, how deep it reaches, and the states
of its issues. A request for milestones goes the other way, from a depth to the two scopes; the
level that these lead to is the one that was asked for.
-/

namespace ScopeComposer

open Graphql Text

/-! ## What a milestone selects -/

namespace ResolvedScopes

variable {S : Type} [DecidableEq S] [Tag S]

theorem flatMap_ofTags {α : Type} (hall : ∀ t : S, Tag.isAll t = false) (ts : List S)
    (f : S → List α) : (ofTags ts).tags.flatMap f =
      (Tag.catalogue : List S).flatMap fun t => if t ∈ ts then f t else [] := by
  rw [flatMap_tags]
  simp only [contains_ofTags hall]

end ResolvedScopes

theorem MilestoneIssues.fields_eq (s : MilestoneIssues) (options : DocumentOptions) :
    s.fields options = (if .opened ∈ s.states then [s.field options .opened] else []) ++
      (if .closed ∈ s.states then [s.field options .closed] else []) := by
  unfold fields
  rw [List.map_eq_flatMap, ResolvedScopes.flatMap_ofTags fun _ => rfl]
  simp [Tag.catalogue]

theorem MilestoneConfig.fields_eq (c : MilestoneConfig) (options : DocumentOptions) :
    c.fields options = .leaf (.plain "number") ::
      (if .info ∈ c.depth then fieldSelections milestoneInfo else []) ++
      (if .issues ∈ c.depth then c.issues.fields options else []) := by
  unfold fields
  rw [ResolvedScopes.flatMap_ofTags fun _ => rfl]
  simp [Tag.catalogue, partFields]

namespace RepositoryConfig

/-! ## The level written out -/

/-- The block of the issues in one state, under an alias of its own. -/
def issueBlock (label state : String) (w : PageWindow) (options : DocumentOptions) : Selection :=
  .node ⟨some label, "issues", w.argumentList ++ [⟨"states", .list [.name state]⟩]⟩
    (collectionFields options.withTotals (fieldSelections issueFields))

/-- The blocks of the issues of a milestone. If no state is named, the open issues are meant. -/
def issueBlocks (c : RepositoryConfig) (options : DocumentOptions) (w : PageWindow) :
    List Selection :=
  (if c.issueStates = [] ∨ .opened ∈ c.issueStates then
    [issueBlock "open_issues" "OPEN" w options] else []) ++
  (if .closed ∈ c.issueStates then [issueBlock "closed_issues" "CLOSED" w options] else [])

/-- What the milestone level selects of a milestone. -/
def levelNode (c : RepositoryConfig) (scopes : ResolvedScopes RepositoryScope)
    (options : DocumentOptions) : List Selection :=
  .leaf (.plain "number") ::
    (if scopes.contains .milestones then fieldSelections milestoneInfo else []) ++
    (scopes.window? .issues).elim [] (c.issueBlocks options)

/-- The window of a list of milestones as arguments: that of the milestones, else that for a list
nobody asked for, else ten milestones from the beginning. -/
def levelArguments (c : RepositoryConfig) (scopes : ResolvedScopes RepositoryScope) :
    List Argument :=
  match scopes.window? .milestones, c.milestoneWindow with
  | some w, _ => w.argumentList
  | none, some w => w.argumentList
  | none, none => [⟨"first", .scalar (.int 10)⟩, ⟨"after", .scalar (.name "null")⟩]

/-- The milestone level: one milestone by its number, or a page of the list. -/
def levelField (c : RepositoryConfig) (scopes : ResolvedScopes RepositoryScope)
    (options : DocumentOptions) : Selection :=
  match c.milestone with
  | .single number => .node ⟨none, "milestone", [⟨"number", .scalar (.int number.toNat)⟩]⟩
      (c.levelNode scopes options)
  | .list => .node ⟨none, "milestones", c.levelArguments scopes⟩
      (collectionFields options.withTotals (c.levelNode scopes options))

variable {c : RepositoryConfig} {scopes : ResolvedScopes RepositoryScope}
  {options : DocumentOptions}

/-- The states in use always call for a block. -/
theorem issueBlocks_ne_nil (c : RepositoryConfig) (options : DocumentOptions) (w : PageWindow) :
    c.issueBlocks options w ≠ [] := by
  unfold issueBlocks
  cases hstates : c.issueStates with
  | nil => simp
  | cons state states => cases state <;> simp

theorem fields_statesInUse (c : RepositoryConfig) (options : DocumentOptions) (w : PageWindow) :
    MilestoneIssues.fields ⟨w, c.statesInUse⟩ options = c.issueBlocks options w := by
  have hopened : .opened ∈ c.statesInUse ↔ c.issueStates = [] ∨ .opened ∈ c.issueStates := by
    unfold statesInUse
    cases c.issueStates <;> simp
  have hclosed : .closed ∈ c.statesInUse ↔ .closed ∈ c.issueStates := by
    unfold statesInUse
    cases c.issueStates <;> simp
  rw [MilestoneIssues.fields_eq]
  simp only [hopened, hclosed]
  rfl

theorem windowHead_eq (c : RepositoryConfig) (scopes : ResolvedScopes RepositoryScope) :
    windowHead "milestones" (((scopes.window? .milestones).or c.milestoneWindow).getD .nested) =
      ⟨none, "milestones", c.levelArguments scopes⟩ := by
  unfold levelArguments
  cases scopes.window? .milestones with
  | some w => rfl
  | none => cases c.milestoneWindow <;> rfl

theorem field_eq_levelField {level : MilestoneConfig}
    (h : c.milestoneLevel? scopes = some level) :
    level.field options = c.levelField scopes options := by
  obtain ⟨haddress, hwindow, hinfo, hdepth, hissues⟩ := milestoneLevel?_eq_some h
  have hnode : level.fields options = c.levelNode scopes options := by
    rw [MilestoneConfig.fields_eq, hissues, fields_statesInUse]
    unfold levelNode
    simp only [hinfo, hdepth]
    unfold ResolvedScopes.contains ResolvedScopes.windowOf
    cases scopes.window? .issues <;> simp
  unfold MilestoneConfig.field levelField
  rw [haddress, hwindow, hnode, windowHead_eq]
  rfl

theorem milestoneFields_eq_levelField (c : RepositoryConfig)
    (scopes : ResolvedScopes RepositoryScope) (options : DocumentOptions) :
    c.milestoneFields scopes options =
      if scopes.contains .milestones || scopes.contains .issues then
        [c.levelField scopes options] else [] := by
  rw [← isSome_milestoneLevel? c]
  unfold milestoneFields
  cases hlevel : c.milestoneLevel? scopes with
  | none => rfl
  | some level => simp [field_eq_levelField hlevel]

end RepositoryConfig

/-! ## Its place in the node -/

/-- Whether a field of a repository is a milestone level, with one milestone or many. -/
def Graphql.Selection.isMilestoneLevel (s : Selection) : Bool :=
  s.head.name == "milestone" || s.head.name == "milestones"

theorem RepositoryScope.ownFields_not_milestoneLevel (scope : RepositoryScope)
    (options : DocumentOptions) (w : PageWindow) :
    ∀ s ∈ scope.ownFields options w, s.isMilestoneLevel = false := by
  have hone : ∀ {s : Selection}, s.isMilestoneLevel = false →
      ∀ s' ∈ [s], s'.isMilestoneLevel = false := by simp
  have hnone : ∀ s ∈ ([] : List Selection), s.isMilestoneLevel = false := by simp
  cases scope with
  | count | milestones | issues | all => exact hnone
  | info =>
    show ∀ s ∈ fieldSelections repositoryInfo, s.isMilestoneLevel = false
    decide
  | license =>
    show ∀ s ∈ fieldSelections Graphql.license, s.isMilestoneLevel = false
    decide
  | vulnerabilities | topics | labels | releases | deployments => exact hone rfl
  | languages => exact List.forall_mem_cons.2 ⟨rfl, hone rfl⟩

namespace RepositoryConfig

variable (c : RepositoryConfig) (options : DocumentOptions)

/-- No scope but the milestones and the issues brings a milestone level with it, and these two
bring one and the same. -/
theorem filter_bodyFields (scopes : ResolvedScopes RepositoryScope) :
    (c.bodyFields scopes options).filter Selection.isMilestoneLevel =
      if scopes.contains .milestones || scopes.contains .issues then
        [c.levelField scopes options] else [] := by
  have hname : Selection.isMilestoneLevel (.leaf (.plain "name")) = false := rfl
  have hothers : (scopeFields scopes options).filter Selection.isMilestoneLevel = [] := by
    refine List.filter_eq_nil_iff.2 fun s hs => ?_
    obtain ⟨scope, -, hs⟩ := List.mem_flatMap.1 hs
    cases hwindow : scopes.window? scope with
    | none => simp [hwindow] at hs
    | some w =>
      rw [hwindow] at hs
      simp [scope.ownFields_not_milestoneLevel options w s hs]
  have hlevel : (c.levelField scopes options).isMilestoneLevel = true := by
    unfold levelField
    cases c.milestone <;> rfl
  rw [bodyFields_eq_scopeFields, milestoneFields_eq_levelField, List.cons_append,
    List.filter_cons_of_neg (by simp [hname]), List.filter_append, hothers, List.nil_append]
  split
  · exact List.filter_cons_of_pos hlevel
  · rfl

theorem fields?_linkedSelection (w : PageWindow) :
    fields? (c.linkedSelection w options) = some [.node (windowHead "repositories" w)
      (if (ResolvedScopes.resolve c.scopes).tags = [.count] then [.leaf (.plain "totalCount")]
      else collectionFields
        (options.withTotals || (ResolvedScopes.resolve c.scopes).contains .count)
        (c.bodyFields (.resolve c.scopes) options))] := by
  have hempty : BlankLinesEmpty (c.linkedSelection w options).toList := by
    unfold linkedSelection
    dsimp only
    split
    · exact blankLinesEmpty_headed (linkedHead_named w) _
    · exact blankLinesEmpty_headed (linkedHead_named w) _
  rw [(c.reads_linked w options).fields?_eq hempty, linkedField]
  simp only [asksOnlyNumber_iff, asksNumber_eq_contains]

end RepositoryConfig

/-- However the milestones and the issues are asked for, a repository node has one milestone level,
and without either of them it has none. The level is what the configuration says of it, with a block
of issues for every state in use, of which there is always one. This is so for the node by itself,
in the document for the repository and among the nodes of linked repositories. -/
theorem milestoneLevel_spliced_once (c : RepositoryConfig) (options : DocumentOptions) :
    let scopes := ResolvedScopes.resolve c.scopes
    ∃ fields, fields? (c.selection options) = some fields ∧
      fields.filter Selection.isMilestoneLevel =
        (if scopes.contains .milestones || scopes.contains .issues then
          [c.levelField scopes options] else []) ∧
      (∀ w, c.issueBlocks options w ≠ []) ∧
      (∀ repository : RepositoryAddress, parse? (repositoryDocument repository c options) =
        some [.node repository.head fields]) ∧
      (∀ w, fields? (c.linkedSelection w options) = some [.node (windowHead "repositories" w)
        (if scopes.tags = [.count] then [.leaf (.plain "totalCount")]
        else collectionFields (options.withTotals || scopes.contains .count) fields)]) :=
  ⟨_, c.fields?_selection options, c.filter_bodyFields options _, c.issueBlocks_ne_nil options,
    fun repository => parse?_of_tokens (tokens?_repositoryDocument repository c options),
    c.fields?_linkedSelection options⟩

/-! ## Requests for milestones -/

/-- The text of a milestone level is a block, and a block is not blank. -/
theorem MilestoneConfig.isBlankText_text (c : MilestoneConfig) (options : DocumentOptions) :
    isBlankText (c.text options) = false := by
  have hblock : ∀ head body : String, isBlankText (block head body) = false := by
    intro head body
    have hbrace : isBlank '\x7b' = false := by decide
    simp [isBlankText, toList_block, hbrace]
  unfold text
  cases c.address with
  | single number => exact hblock _ _
  | list => exact hblock _ _

namespace RepositoryConfig

variable (address : MilestoneAddress) (depth : List MilestoneDepth)
  (milestones issues : PageWindow) (states : List IssueState)

/-- A depth leads to two scopes, each with the window of its own level. -/
theorem window?_ofMilestones (scope : RepositoryScope) :
    (ResolvedScopes.resolve
      (ofMilestones address depth milestones issues states).scopes).window? scope =
      match scope with
      | .milestones => if .info ∈ depth then some milestones else none
      | .issues => if .issues ∈ depth then some issues else none
      | _ => none := by
  have htags : (ResolvedScopes.ofTags depth).tags =
      (if .info ∈ depth then [.info] else []) ++ (if .issues ∈ depth then [.issues] else []) := by
    have hmap := ResolvedScopes.flatMap_ofTags (fun _ => rfl) depth fun t => [t]
    rw [List.flatMap_singleton'] at hmap
    simpa [Tag.catalogue] using hmap
  unfold ofMilestones
  rw [htags]
  by_cases hinfo : .info ∈ depth <;> by_cases hissues : .issues ∈ depth <;>
    simp only [hinfo, hissues] <;> cases scope <;> rfl

theorem contains_ofMilestones :
    let scopes := ResolvedScopes.resolve
      (ofMilestones address depth milestones issues states).scopes
    (scopes.contains .milestones = true ↔ .info ∈ depth) ∧
      (scopes.contains .issues = true ↔ .issues ∈ depth) := by
  intro scopes
  unfold ResolvedScopes.contains
  rw [window?_ofMilestones, window?_ofMilestones]
  by_cases hinfo : .info ∈ depth <;> by_cases hissues : .issues ∈ depth <;> simp [hinfo, hissues]

/-- Where no other scope is present, a node has nothing but its milestone level after the name. -/
theorem selection_of_milestones {c : RepositoryConfig} {options : DocumentOptions}
    (h : ∀ scope, scope ≠ .milestones → scope ≠ .issues →
      (ResolvedScopes.resolve c.scopes).contains scope = false) :
    c.selection options = stack ("name" :: c.milestoneText (.resolve c.scopes) options) := by
  have hparts : ∀ scopes : ResolvedScopes RepositoryScope,
      (∀ scope, scope ≠ .milestones → scope ≠ .issues → scopes.contains scope = false) →
      scopes.tags.flatMap (c.parts scopes options) = c.milestoneText scopes options := by
    intro scopes habsent
    rw [ResolvedScopes.flatMap_tags]
    cases hmilestones : scopes.contains .milestones with
    | true => simp [Tag.catalogue, parts, habsent, hmilestones]
    | false =>
      cases hissues : scopes.contains .issues with
      | true => simp [Tag.catalogue, parts, habsent, hmilestones, hissues]
      | false =>
        have hnone := milestoneLevel?_eq_none (c := c).2 ⟨hmilestones, hissues⟩
        simp [Tag.catalogue, habsent, hmilestones, hissues, milestoneText, hnone]
  rw [selection, body, hparts _ h]

/-- The milestone level that a depth leads to is the one of that depth. -/
theorem milestoneText_ofMilestones (options : DocumentOptions) :
    let c := ofMilestones address depth milestones issues states
    c.milestoneText (.resolve c.scopes) options = if depth = [] then []
      else [(MilestoneConfig.mk address milestones depth
        ⟨issues, if states = [] then [.opened] else states⟩).text options] := by
  intro c
  obtain ⟨hmilestones, hissues⟩ :=
    contains_ofMilestones address depth milestones issues states
  have hdepth : depth = [] ↔ c.milestoneLevel? (.resolve c.scopes) = none := by
    rw [milestoneLevel?_eq_none, ← Bool.not_eq_true, ← Bool.not_eq_true, hmilestones, hissues,
      List.eq_nil_iff_forall_not_mem]
    exact ⟨fun h => ⟨h _, h _⟩, fun h t => by cases t; exacts [h.1, h.2]⟩
  unfold milestoneText
  cases hlevel : c.milestoneLevel? (.resolve c.scopes) with
  | none => rw [if_pos (hdepth.2 hlevel)]; rfl
  | some level =>
    have hne : depth ≠ [] := fun hnil => by simp [hdepth.1 hnil] at hlevel
    obtain ⟨haddress, hwindow, hinfo, hreach, hblocks⟩ := milestoneLevel?_eq_some hlevel
    rw [if_neg hne]
    refine congrArg (fun text => [text]) (MilestoneConfig.text_congr haddress ?_ ?_ ?_ options)
    · intro _
      rw [hwindow, window?_ofMilestones]
      by_cases hmem : .info ∈ depth <;> simp [hmem, c, ofMilestones]
    · intro t
      cases t with
      | info => rw [hinfo, hmilestones]
      | issues => rw [hreach, hissues]
    · intro hmem
      have hmem' : .issues ∈ depth := hissues.1 (hreach.1 hmem)
      have hpage : (ResolvedScopes.resolve c.scopes).windowOf .issues = issues := by
        rw [ResolvedScopes.windowOf, window?_ofMilestones]
        simp [hmem']
      rw [hblocks, hpage]
      refine ⟨rfl, congrArg ResolvedScopes.ofTags ?_⟩
      simp [statesInUse, c, ofMilestones]

/-- A request for milestones selects the name of the repository and, with a depth, the milestone
level of just this address, window, depth, issues and states. -/
theorem selection_ofMilestones (options : DocumentOptions) :
    (ofMilestones address depth milestones issues states).selection options =
      if depth = [] then "name"
      else "name\n" ++ (MilestoneConfig.mk address milestones depth
        ⟨issues, if states = [] then [.opened] else states⟩).text options := by
  have habsent : ∀ scope, scope ≠ .milestones → scope ≠ .issues → (ResolvedScopes.resolve
      (ofMilestones address depth milestones issues states).scopes).contains scope = false := by
    intro scope hmilestones hissues
    rw [ResolvedScopes.contains, window?_ofMilestones]
    split
    · exact absurd rfl hmilestones
    · exact absurd rfl hissues
    · rfl
  have hname : isBlankText "name" = false := by decide
  rw [selection_of_milestones habsent, milestoneText_ofMilestones]
  split
  · decide
  · apply String.ext
    simp [stack, unlines, hname, MilestoneConfig.isBlankText_text]

end RepositoryConfig

end ScopeComposer
