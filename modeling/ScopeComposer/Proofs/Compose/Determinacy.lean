import ScopeComposer.Proofs.Compose.Slots

/-!
# Documents determine requests

Everything about a request that is in effect can be read off the document for it. A document has one
tree of fields, and at every level the keys of the fields tell what stands in which place; so two
equal documents agree place by place, from the root inwards. What is not in effect (the window of a
scope that is no collection, the configuration of a level that is not reached) leaves no trace.
-/

namespace ScopeComposer

open Graphql

/-! ## What is in effect -/

namespace RepositoryConfig

/-- The scopes of a repository with a window of their own. -/
def pagedScopes : List RepositoryScope :=
  [.vulnerabilities, .topics, .labels, .releases, .deployments, .languages]

/-- The window of the milestone list: that of the request for milestones, else the one that is set
aside for it, else that of a nested collection. -/
def listWindow (c : RepositoryConfig) : PageWindow :=
  (((ResolvedScopes.resolve c.scopes).window? .milestones).or c.milestoneWindow).getD .nested

/-- Two configurations with the same milestone level in effect. -/
structure SameMilestones (c c' : RepositoryConfig) : Prop where
  /-- All milestones, or the one with a number. -/
  address : c.milestone = c'.milestone
  /-- The window of the list, if it is a list. -/
  window : c.milestone = .list → c.listWindow = c'.listWindow
  /-- The window of the issues, if there are issues. -/
  issuesWindow : (ResolvedScopes.resolve c.scopes).contains .issues = true →
    (ResolvedScopes.resolve c.scopes).window? .issues =
      (ResolvedScopes.resolve c'.scopes).window? .issues
  /-- The states of the issues, if there are issues. -/
  states : (ResolvedScopes.resolve c.scopes).contains .issues = true →
    ∀ state, state ∈ c.statesInUse ↔ state ∈ c'.statesInUse

/-- Two configurations with the same effect on linked repositories. Where nothing but the number of
repositories is asked for, nothing else is in effect. -/
structure SameEffect (c c' : RepositoryConfig) : Prop where
  /-- The scopes that are present. -/
  tags : (ResolvedScopes.resolve c.scopes).tags = (ResolvedScopes.resolve c'.scopes).tags
  /-- The windows of the collections. -/
  windows : (ResolvedScopes.resolve c.scopes).tags ≠ [.count] → ∀ scope ∈ pagedScopes,
    (ResolvedScopes.resolve c.scopes).window? scope =
      (ResolvedScopes.resolve c'.scopes).window? scope
  /-- The milestone level, if milestones or issues are present. -/
  milestones : (ResolvedScopes.resolve c.scopes).tags ≠ [.count] →
    ((ResolvedScopes.resolve c.scopes).contains .milestones = true ∨
      (ResolvedScopes.resolve c.scopes).contains .issues = true) → c.SameMilestones c'

end RepositoryConfig

/-- Two configurations with the same effect on projects. -/
structure ProjectConfig.SameEffect (c c' : ProjectConfig) : Prop where
  /-- The scopes that are present. -/
  tags : (ResolvedScopes.resolve c.scopes).tags = (ResolvedScopes.resolve c'.scopes).tags
  /-- The window of the linked repositories. -/
  window : (ResolvedScopes.resolve c.scopes).window? .repositories =
    (ResolvedScopes.resolve c'.scopes).window? .repositories
  /-- What is selected of the linked repositories, if they are present. -/
  repositories : (ResolvedScopes.resolve c.scopes).contains .repositories = true →
    c.repositories.SameEffect c'.repositories

/-- Two configurations with the same effect on accounts. -/
structure AccountConfig.SameEffect (c c' : AccountConfig) (options : DocumentOptions) : Prop where
  /-- The scopes that are present, implied ones included. -/
  tags : (c.resolved options).tags = (c'.resolved options).tags
  /-- The window of the packages. -/
  packagesWindow : (c.resolved options).window? .packages = (c'.resolved options).window? .packages
  /-- The window of the projects. -/
  projectsWindow : (c.resolved options).window? .projects = (c'.resolved options).window? .projects
  /-- What is selected of the projects, if they are present. -/
  projects : (c.resolved options).contains .projects = true → c.projects.SameEffect c'.projects

/-! ## Places -/

/-- Two lists of fields that are made of places with keys of their own are equal place by place. -/
theorem slots_inj {α : Type} {items : List α} {fields fields' : α → List Selection}
    {allowed : α → List String} (hdistinct : (items.flatMap allowed).Nodup)
    (hkeys : ∀ a ∈ items, (keys (fields a)).Sublist (allowed a))
    (hkeys' : ∀ a ∈ items, (keys (fields' a)).Sublist (allowed a))
    (h : items.flatMap fields = items.flatMap fields') : ∀ a ∈ items, fields a = fields' a := by
  induction items with
  | nil => simp
  | cons a items ih =>
    rw [List.flatMap_cons] at hdistinct
    obtain ⟨-, hrest, hdisjoint⟩ := List.nodup_append.1 hdistinct
    -- the fields of the first place are those with one of its keys
    have hfilter : ∀ fields : α → List Selection,
        (∀ b ∈ a :: items, (keys (fields b)).Sublist (allowed b)) →
          ((a :: items).flatMap fields).filter (fun s => s.key ∈ allowed a) = fields a := by
      intro fields hkeys
      have hfirst : ∀ s ∈ fields a, s.key ∈ allowed a := fun s hs =>
        (hkeys a List.mem_cons_self).subset (List.mem_map_of_mem hs)
      have hothers : ∀ s ∈ items.flatMap fields, s.key ∉ allowed a := by
        intro s hs hkey
        obtain ⟨b, hb, hs⟩ := List.mem_flatMap.1 hs
        have hother := (hkeys b (List.mem_cons_of_mem _ hb)).subset (List.mem_map_of_mem hs)
        exact hdisjoint _ hkey _ (List.mem_flatMap.2 ⟨b, hb, hother⟩) rfl
      rw [List.flatMap_cons, List.filter_append,
        List.filter_eq_self.2 (by simpa using hfirst),
        List.filter_eq_nil_iff.2 (by simpa using hothers), List.append_nil]
    have heq : fields a = fields' a := by
      rw [← hfilter fields hkeys, h, hfilter fields' hkeys']
    rw [List.flatMap_cons, List.flatMap_cons, heq] at h
    have htail := ih hrest (fun b hb => hkeys b (List.mem_cons_of_mem _ hb))
      (fun b hb => hkeys' b (List.mem_cons_of_mem _ hb)) (List.append_cancel_left h)
    intro b hb
    rcases List.mem_cons.1 hb with rfl | hb
    · exact heq
    · exact htail b hb

namespace ResolvedScopes

variable {S : Type}

/-- A tag that contributes something is present in two sets alike if its place holds the same in
both. -/
theorem contains_eq_of_slot {set set' : ResolvedScopes S} {fields fields' : S → List Selection}
    {t : S} (hne : fields t ≠ []) (hne' : fields' t ≠ [])
    (h : set.slot fields t = set'.slot fields' t) :
    set.contains t = set'.contains t ∧ (set.contains t = true → fields t = fields' t) := by
  unfold slot at h
  cases hc : set.contains t <;> cases hc' : set'.contains t <;> simp_all

/-- Sets that hold a tag alike have the same window for it if they agree where it is present. -/
theorem window?_eq_of_windowOf {set set' : ResolvedScopes S} {t : S}
    (hcontains : set.contains t = set'.contains t)
    (h : set.contains t = true → set.windowOf t = set'.windowOf t) :
    set.window? t = set'.window? t := by
  unfold contains at hcontains h
  unfold windowOf at h
  cases hw : set.window? t <;> cases hw' : set'.window? t <;> simp_all

/-- The window of a tag can be read off its place if the tag contributes something there that tells
windows apart. -/
theorem window?_eq_of_slot {set set' : ResolvedScopes S} {fields fields' : S → List Selection}
    {t : S} {paged : PageWindow → List Selection} (hne : ∀ w, paged w ≠ [])
    (hinj : ∀ {w w'}, paged w = paged w' → w = w') (hfields : fields t = paged (set.windowOf t))
    (hfields' : fields' t = paged (set'.windowOf t))
    (h : set.slot fields t = set'.slot fields' t) :
    set.contains t = set'.contains t ∧ set.window? t = set'.window? t := by
  obtain ⟨hcontains, hpart⟩ := contains_eq_of_slot (hfields ▸ hne _) (hfields' ▸ hne _) h
  rw [hfields, hfields'] at hpart
  exact ⟨hcontains, window?_eq_of_windowOf hcontains fun hc => hinj (hpart hc)⟩

end ResolvedScopes

/-! ## Collections -/

theorem PageWindow.argumentList_inj {w w' : PageWindow} (h : w.argumentList = w'.argumentList) :
    w = w' := by
  simp only [argumentList, List.cons.injEq, Argument.mk.injEq, Value.scalar.injEq,
    Scalar.int.injEq, true_and, and_true] at h
  obtain ⟨hsize, hcursor⟩ := h
  refine ext_parts (by exact_mod_cast hsize) (Cursor.ext_value ?_)
  unfold Cursor.scalar at hcursor
  cases hv : w.continueAfter.value <;> cases hv' : w'.continueAfter.value <;>
    simp_all

theorem windowHead_inj {name : String} {w w' : PageWindow}
    (h : windowHead name w = windowHead name w') : w = w' :=
  PageWindow.argumentList_inj (congrArg Head.arguments h)

theorem numberHead_inj {name : String} {number number' : UInt64}
    (h : numberHead name number = numberHead name number') : number = number' := by
  simp only [numberHead, Head.mk.injEq, List.cons.injEq, Argument.mk.injEq, Value.scalar.injEq,
    Scalar.int.injEq, true_and, and_true] at h
  exact UInt64.toNat_inj.1 (by exact_mod_cast h)

theorem collectionFields_inj {withTotal withTotal' : Bool} {nodes nodes' : List Selection}
    (h : collectionFields withTotal nodes = collectionFields withTotal' nodes') :
    withTotal = withTotal' ∧ nodes = nodes' := by
  cases withTotal <;> cases withTotal' <;> simp_all [collectionFields]

/-- A collection is never the bare number of its elements. -/
theorem collectionFields_ne_totalCount (withTotal : Bool) (nodes : List Selection) :
    collectionFields withTotal nodes ≠ [.leaf (.plain "totalCount")] := by
  intro h
  have hlength := congrArg List.length h
  cases withTotal <;> simp [collectionFields] at hlength

theorem scopedField_inj {name : String} {w w' : PageWindow} {options : DocumentOptions}
    {fields : List Field} (h : [scopedField name w options fields] =
      [scopedField name w' options fields]) : w = w' := by
  simp only [scopedField, List.cons.injEq, Selection.node.injEq, and_true] at h
  exact windowHead_inj h

theorem languageSelections_inj {w w' : PageWindow} {options : DocumentOptions}
    (h : languageSelections w options = languageSelections w' options) : w = w' :=
  scopedField_inj (List.cons.inj h).2

/-! ## Milestones -/

theorem MilestoneIssues.fields_ne_nil {s : MilestoneIssues} (hne : s.states ≠ [])
    (options : DocumentOptions) : s.fields options ≠ [] := by
  obtain ⟨state, hstate⟩ := List.exists_mem_of_ne_nil _ hne
  have htag := ResolvedScopes.mem_tags.2 ((ResolvedScopes.contains_ofTags (fun _ => rfl)).2 hstate)
  exact List.ne_nil_of_mem (List.mem_map_of_mem htag)

theorem MilestoneIssues.fields_inj {s s' : MilestoneIssues} {options : DocumentOptions}
    (hne : s.states ≠ []) (h : s.fields options = s'.fields options) :
    s.window = s'.window ∧ ∀ state, state ∈ s.states ↔ state ∈ s'.states := by
  have hmem : ∀ (states : List IssueState) (state : IssueState),
      state ∈ (ResolvedScopes.ofTags states).tags ↔ state ∈ states := fun states state => by
    rw [ResolvedScopes.mem_tags, ResolvedScopes.contains_ofTags (fun _ => rfl)]
  have hinj : Function.Injective IssueState.responseKey := by
    intro a b
    cases a <;> cases b <;> decide
  have hkeys := congrArg keys h
  simp only [keys, fields, List.map_map] at hkeys
  have htags : (ResolvedScopes.ofTags s.states).tags = (ResolvedScopes.ofTags s'.states).tags :=
    List.map_injective_iff.2 hinj hkeys
  refine ⟨?_, fun state => by rw [← hmem s.states, htags, hmem]⟩
  obtain ⟨state, hstate⟩ := List.exists_mem_of_ne_nil _ hne
  rw [fields, fields, ← htags] at h
  have hfield := List.map_inj_left.1 h state ((hmem _ _).2 hstate)
  simp only [field, Selection.node.injEq, and_true] at hfield
  exact PageWindow.argumentList_inj (List.append_cancel_right (congrArg Head.arguments hfield))

/-- What can be read off a milestone node: how deep the selection reaches, and which issues are
selected if it reaches them. -/
theorem MilestoneConfig.fields_inj {c c' : MilestoneConfig} {options : DocumentOptions}
    (hne : c.issues.states ≠ []) (hne' : c'.issues.states ≠ [])
    (h : c.fields options = c'.fields options) : (∀ depth, depth ∈ c.depth ↔ depth ∈ c'.depth) ∧
      (.issues ∈ c.depth → c.issues.window = c'.issues.window ∧
        ∀ state, state ∈ c.issues.states ↔ state ∈ c'.issues.states) := by
  have hmem : ∀ (depths : List MilestoneDepth) (depth : MilestoneDepth),
      (ResolvedScopes.ofTags depths).contains depth = true ↔ depth ∈ depths := fun depths depth =>
    ResolvedScopes.contains_ofTags (fun _ => rfl)
  rw [fields_eq_slots, fields_eq_slots] at h
  have hslots := slots_inj nodup_milestoneKeys.of_cons
    (fun depth _ => c.keys_slot options depth) (fun depth _ => c'.keys_slot options depth)
    (List.cons.inj h).2
  have hinfoFields : ∀ c : MilestoneConfig, c.partFields options .info ≠ [] := fun _ =>
    fieldSelections_ne_nil rfl
  have hissueFields : c.partFields options .issues ≠ [] := MilestoneIssues.fields_ne_nil hne options
  have hissueFields' : c'.partFields options .issues ≠ [] :=
    MilestoneIssues.fields_ne_nil hne' options
  have hinfo := ResolvedScopes.contains_eq_of_slot (hinfoFields c) (hinfoFields c')
    (hslots .info (Tag.mem_catalogue _))
  have hissues := ResolvedScopes.contains_eq_of_slot hissueFields hissueFields'
    (hslots .issues (Tag.mem_catalogue _))
  refine ⟨fun depth => ?_, fun hdepth => ?_⟩
  · rw [← hmem, ← hmem]
    cases depth with
    | info => rw [hinfo.1]
    | issues => rw [hissues.1]
  · exact MilestoneIssues.fields_inj hne (hissues.2 ((hmem _ _).2 hdepth))

/-- What can be read off the milestone level: which milestones, and the window of a list of them. -/
theorem MilestoneConfig.field_inj {c c' : MilestoneConfig} {options : DocumentOptions}
    (h : c.field options = c'.field options) : c.address = c'.address ∧
      (c.address = .list → c.window = c'.window) ∧ c.fields options = c'.fields options := by
  unfold field at h
  cases haddress : c.address with
  | single number =>
    cases haddress' : c'.address with
    | single number' =>
      simp only [haddress, haddress', Selection.node.injEq] at h
      refine ⟨by rw [numberHead_inj h.1], fun hlist => ?_, h.2⟩
      cases hlist
    | list => simp [haddress, haddress', numberHead, windowHead] at h
  | list =>
    cases haddress' : c'.address with
    | single number' => simp [haddress, haddress', numberHead, windowHead] at h
    | list =>
      simp only [haddress, haddress', Selection.node.injEq] at h
      exact ⟨rfl, fun _ => windowHead_inj h.1, (collectionFields_inj h.2).2⟩

/-! ## Repositories -/

namespace RepositoryConfig

theorem statesInUse_ne_nil (c : RepositoryConfig) : c.statesInUse ≠ [] := by
  unfold statesInUse
  split
  · simp
  · next h => simpa using h

theorem milestoneLevel?_eq_none {c : RepositoryConfig} {scopes : ResolvedScopes RepositoryScope} :
    c.milestoneLevel? scopes = none ↔
      scopes.contains .milestones = false ∧ scopes.contains .issues = false := by
  unfold milestoneLevel? ResolvedScopes.contains
  cases scopes.window? .milestones <;> cases scopes.window? .issues <;> simp

/-- What the milestone level is made of. -/
theorem milestoneLevel?_eq_some {c : RepositoryConfig} {scopes : ResolvedScopes RepositoryScope}
    {level : MilestoneConfig} (h : c.milestoneLevel? scopes = some level) :
    level.address = c.milestone ∧
      level.window = ((scopes.window? .milestones).or c.milestoneWindow).getD .nested ∧
      (.info ∈ level.depth ↔ scopes.contains .milestones = true) ∧
      (.issues ∈ level.depth ↔ scopes.contains .issues = true) ∧
      level.issues = ⟨scopes.windowOf .issues, c.statesInUse⟩ := by
  unfold milestoneLevel? at h
  dsimp only at h
  split at h
  · cases h
  · obtain rfl := Option.some.inj h
    have hdepth : ∀ milestones issues : Bool,
        (MilestoneDepth.info ∈ (if milestones then [.info] else []) ++
          (if issues then [.issues] else []) ↔ milestones = true) ∧
        (MilestoneDepth.issues ∈ (if milestones then [.info] else []) ++
          (if issues then [.issues] else []) ↔ issues = true) := by decide
    exact ⟨rfl, rfl, (hdepth _ _).1, (hdepth _ _).2, rfl⟩

/-- What can be read off the place of the milestone level. -/
theorem milestoneFields_inj {c c' : RepositoryConfig}
    {scopes scopes' : ResolvedScopes RepositoryScope} {options : DocumentOptions}
    (h : c.milestoneFields scopes options = c'.milestoneFields scopes' options) :
    scopes.contains .milestones = scopes'.contains .milestones ∧
      scopes.contains .issues = scopes'.contains .issues ∧
      ((scopes.contains .milestones = true ∨ scopes.contains .issues = true) →
        c.milestone = c'.milestone ∧
        (c.milestone = .list → ((scopes.window? .milestones).or c.milestoneWindow).getD .nested =
          ((scopes'.window? .milestones).or c'.milestoneWindow).getD .nested) ∧
        (scopes.contains .issues = true → scopes.windowOf .issues = scopes'.windowOf .issues ∧
          ∀ state, state ∈ c.statesInUse ↔ state ∈ c'.statesInUse)) := by
  unfold milestoneFields at h
  cases hlevel : c.milestoneLevel? scopes with
  | none =>
    cases hlevel' : c'.milestoneLevel? scopes' with
    | none =>
      obtain ⟨hmilestones, hissues⟩ := milestoneLevel?_eq_none.1 hlevel
      obtain ⟨hmilestones', hissues'⟩ := milestoneLevel?_eq_none.1 hlevel'
      simp [hmilestones, hissues, hmilestones', hissues']
    | some level' => simp [hlevel, hlevel'] at h
  | some level =>
    cases hlevel' : c'.milestoneLevel? scopes' with
    | none => simp [hlevel, hlevel'] at h
    | some level' =>
      have hfield : level.field options = level'.field options := by
        simpa [hlevel, hlevel'] using h
      obtain ⟨haddress, hwindow, hinfo, hdepth, hissues⟩ := milestoneLevel?_eq_some hlevel
      obtain ⟨haddress', hwindow', hinfo', hdepth', hissues'⟩ := milestoneLevel?_eq_some hlevel'
      obtain ⟨heq, hlist, hfields⟩ := MilestoneConfig.field_inj hfield
      obtain ⟨hdepths, hread⟩ := MilestoneConfig.fields_inj
        (by rw [hissues]; exact c.statesInUse_ne_nil)
        (by rw [hissues']; exact c'.statesInUse_ne_nil) hfields
      rw [haddress, haddress'] at heq
      rw [haddress, hwindow, hwindow'] at hlist
      rw [hdepth, hissues, hissues'] at hread
      refine ⟨?_, ?_, fun _ => ⟨heq, hlist, hread⟩⟩
      · rw [Bool.eq_iff_iff, ← hinfo, ← hinfo', hdepths]
      · rw [Bool.eq_iff_iff, ← hdepth, ← hdepth', hdepths]

/-- What can be read off the place of a collection. -/
theorem pagedScope_inj {c c' : RepositoryConfig} {scopes scopes' : ResolvedScopes RepositoryScope}
    {options : DocumentOptions} {scope : RepositoryScope} (hscope : scope ∈ pagedScopes)
    (h : c.slot scopes options scope = c'.slot scopes' options scope) :
    scopes.contains scope = scopes'.contains scope ∧
      scopes.window? scope = scopes'.window? scope := by
  have hscoped : ∀ (scope : RepositoryScope) (name : String) (fields : List Field),
      (∀ (c : RepositoryConfig) (scopes : ResolvedScopes RepositoryScope),
        c.partFields scopes options scope =
          [scopedField name (scopes.windowOf scope) options fields]) →
      scopes.slot (c.partFields scopes options) scope =
        scopes'.slot (c'.partFields scopes' options) scope →
      scopes.contains scope = scopes'.contains scope ∧
        scopes.window? scope = scopes'.window? scope := by
    intro scope name fields hpart hslot
    exact ResolvedScopes.window?_eq_of_slot (fun w => List.cons_ne_nil _ _) scopedField_inj
      (hpart c scopes) (hpart c' scopes') hslot
  cases scope with
  | vulnerabilities => exact hscoped _ _ _ (fun _ _ => rfl) h
  | topics => exact hscoped _ _ _ (fun _ _ => rfl) h
  | labels => exact hscoped _ _ _ (fun _ _ => rfl) h
  | releases => exact hscoped _ _ _ (fun _ _ => rfl) h
  | deployments => exact hscoped _ _ _ (fun _ _ => rfl) h
  | languages =>
    exact ResolvedScopes.window?_eq_of_slot (fun w => List.cons_ne_nil _ _) languageSelections_inj
      rfl rfl h
  | _ => simp [pagedScopes] at hscope

/-- What can be read off a repository node: everything but the number of repositories. -/
theorem bodyFields_inj {c c' : RepositoryConfig} {options : DocumentOptions}
    (h : c.bodyFields (.resolve c.scopes) options = c'.bodyFields (.resolve c'.scopes) options) :
    (∀ scope, scope ≠ .count → (ResolvedScopes.resolve c.scopes).contains scope =
      (ResolvedScopes.resolve c'.scopes).contains scope) ∧
    (∀ scope ∈ pagedScopes, (ResolvedScopes.resolve c.scopes).window? scope =
      (ResolvedScopes.resolve c'.scopes).window? scope) ∧
    (((ResolvedScopes.resolve c.scopes).contains .milestones = true ∨
      (ResolvedScopes.resolve c.scopes).contains .issues = true) → c.SameMilestones c') := by
  rw [bodyFields_eq_slots, bodyFields_eq_slots] at h
  have hslots := slots_inj nodup_repositoryKeys.of_cons
    (fun scope _ => c.keys_slot (.resolve c.scopes) options scope)
    (fun scope _ => c'.keys_slot (.resolve c'.scopes) options scope) (List.cons.inj h).2
  have hslot := fun scope => hslots scope (Tag.mem_catalogue scope)
  have hpaged := fun scope hscope => pagedScope_inj hscope (hslot scope)
  obtain ⟨hmilestones, hissues, hlevel⟩ := milestoneFields_inj (hslot .milestones)
  refine ⟨fun scope hcount => ?_, fun scope hscope => (hpaged scope hscope).2, fun hpresent => ?_⟩
  · cases scope with
    | count => exact absurd rfl hcount
    | info =>
      have hne : ∀ c : RepositoryConfig, c.partFields (.resolve c.scopes) options .info ≠ [] :=
        fun _ => fieldSelections_ne_nil rfl
      exact (ResolvedScopes.contains_eq_of_slot (hne c) (hne c') (hslot .info)).1
    | license =>
      have hne : ∀ c : RepositoryConfig, c.partFields (.resolve c.scopes) options .license ≠ [] :=
        fun _ => fieldSelections_ne_nil rfl
      exact (ResolvedScopes.contains_eq_of_slot (hne c) (hne c') (hslot .license)).1
    | milestones => exact hmilestones
    | issues => exact hissues
    | all => rw [ResolvedScopes.contains_all _ rfl, ResolvedScopes.contains_all _ rfl]
    | _ => exact (hpaged _ (by decide)).1
  · obtain ⟨haddress, hwindow, hread⟩ := hlevel hpresent
    exact ⟨haddress, hwindow,
      fun _ => ResolvedScopes.window?_eq_of_windowOf hissues fun hc => (hread hc).1,
      fun hc => (hread hc).2⟩

theorem isCount_iff {scope : RepositoryScope} : Tag.isCount scope = true ↔ scope = .count := by
  cases scope <;> decide

theorem asksOnlyNumber_iff {set : ResolvedScopes RepositoryScope} :
    set.asksOnlyNumber = true ↔ set.tags = [.count] := by
  unfold ResolvedScopes.asksOnlyNumber
  rw [Bool.and_eq_true, beq_iff_eq, List.length_eq_one_iff]
  constructor
  · rintro ⟨⟨scope, htags⟩, hall⟩
    rw [htags, List.all_cons, Bool.and_eq_true, isCount_iff] at hall
    rw [htags, hall.1]
  · intro htags
    rw [htags]
    exact ⟨⟨.count, rfl⟩, rfl⟩

theorem asksNumber_eq_contains (set : ResolvedScopes RepositoryScope) :
    set.asksNumber = set.contains .count := by
  rw [Bool.eq_iff_iff, ResolvedScopes.asksNumber, List.any_eq_true]
  simp only [isCount_iff, exists_eq_right, ResolvedScopes.mem_tags]

/-- What can be read off the field of the linked repositories. -/
theorem linkedField_inj {c c' : RepositoryConfig} {w w' : PageWindow} {options : DocumentOptions}
    (htotals : options.withTotals = false)
    (h : c.linkedField w options = c'.linkedField w' options) : w = w' ∧ c.SameEffect c' := by
  unfold linkedField at h
  dsimp only at h
  rw [htotals, Bool.false_or, Bool.false_or] at h
  obtain ⟨hhead, hset⟩ := Selection.node.inj h
  refine ⟨windowHead_inj hhead, ?_⟩
  cases honly : (ResolvedScopes.resolve c.scopes).asksOnlyNumber <;>
    cases honly' : (ResolvedScopes.resolve c'.scopes).asksOnlyNumber
  · -- neither asks for the number alone, so that the nodes can be compared
    rw [honly, honly'] at hset
    obtain ⟨hnumber, hnodes⟩ := collectionFields_inj hset
    rw [asksNumber_eq_contains, asksNumber_eq_contains] at hnumber
    obtain ⟨hcontains, hwindows, hmilestones⟩ := bodyFields_inj hnodes
    refine ⟨ResolvedScopes.tags_eq_of_contains fun scope => ?_, fun _ => hwindows,
      fun _ => hmilestones⟩
    by_cases hcount : scope = .count
    · rw [hcount]
      exact hnumber
    · exact hcontains scope hcount
  · rw [honly, honly'] at hset
    exact absurd hset (collectionFields_ne_totalCount _ _)
  · rw [honly, honly'] at hset
    exact absurd hset.symm (collectionFields_ne_totalCount _ _)
  · have htags := asksOnlyNumber_iff.1 honly
    have htags' := asksOnlyNumber_iff.1 honly'
    exact ⟨htags.trans htags'.symm, fun hne => absurd htags hne, fun hne => absurd htags hne⟩

end RepositoryConfig

/-! ## Projects and accounts -/

/-- What can be read off a project node. -/
theorem ProjectConfig.fields_inj {c c' : ProjectConfig} {options : DocumentOptions}
    (htotals : options.withTotals = false) (h : c.fields options = c'.fields options) :
    c.SameEffect c' := by
  rw [fields_eq_slots, fields_eq_slots] at h
  have hslots := slots_inj nodup_projectKeys.of_cons.of_cons
    (fun scope _ => c.keys_slot (.resolve c.scopes) options scope)
    (fun scope _ => c'.keys_slot (.resolve c'.scopes) options scope)
    (List.cons.inj (List.cons.inj h).2).2
  have hslot := fun scope => hslots scope (Tag.mem_catalogue scope)
  have hne : ∀ (c : ProjectConfig) (scope : ProjectScope),
      c.partFields (.resolve c.scopes) options scope ≠ [] := by
    intro c scope
    cases scope with
    | info => exact fieldSelections_ne_nil rfl
    | repositories => exact List.cons_ne_nil _ _
  have hcontains := fun scope =>
    (ResolvedScopes.contains_eq_of_slot (hne c scope) (hne c' scope) (hslot scope)).1
  have hlinked := fun hc => RepositoryConfig.linkedField_inj htotals (List.cons.inj
    ((ResolvedScopes.contains_eq_of_slot (hne c .repositories) (hne c' .repositories)
      (hslot .repositories)).2 hc)).1
  exact ⟨ResolvedScopes.tags_eq_of_contains hcontains,
    ResolvedScopes.window?_eq_of_windowOf (hcontains .repositories) fun hc => (hlinked hc).1,
    fun hc => (hlinked hc).2⟩

/-- What can be read off the page of projects of an account. -/
theorem ProjectConfig.listField_inj {c c' : ProjectConfig} {w w' : PageWindow}
    {options : DocumentOptions} (htotals : options.withTotals = false)
    (h : c.field (.list w) options = c'.field (.list w') options) : w = w' ∧ c.SameEffect c' := by
  obtain ⟨hhead, hset⟩ := Selection.node.inj h
  exact ⟨windowHead_inj hhead, fields_inj htotals (collectionFields_inj hset).2⟩

theorem AccountConfig.contains_all (c : AccountConfig) (options : DocumentOptions) :
    (c.resolved options).contains .all = false := by
  have hall := ResolvedScopes.contains_all c.scopes (t := .all) rfl
  unfold resolved
  dsimp only
  split
  · simpa [ResolvedScopes.contains, ResolvedScopes.addIfAbsent] using hall
  · exact hall

/-- What can be read off an account node. -/
theorem AccountConfig.fields_inj {c c' : AccountConfig} {kind : AccountKind}
    {options : DocumentOptions} (htotals : options.withTotals = false)
    (h : c.fields kind options = c'.fields kind options) : c.SameEffect c' options := by
  rw [fields_eq_slots, fields_eq_slots] at h
  have hslots := slots_inj (nodup_accountKeys kind).of_cons
    (fun scope _ => c.keys_slot kind (c.resolved options) options scope)
    (fun scope _ => c'.keys_slot kind (c'.resolved options) options scope) h
  have hslot := fun scope => hslots scope (Tag.mem_catalogue scope)
  have hne : ∀ (c : AccountConfig) (scope : AccountScope), scope ≠ .all →
      c.partFields kind (c.resolved options) options scope ≠ [] := by
    intro c scope hscope
    cases scope with
    | essential => exact fieldSelections_ne_nil (by cases kind <;> rfl)
    | info => exact fieldSelections_ne_nil (by cases kind <;> rfl)
    | packages => exact List.cons_ne_nil _ _
    | projects => exact List.cons_ne_nil _ _
    | all => exact absurd rfl hscope
  have hpart := fun scope hscope =>
    ResolvedScopes.contains_eq_of_slot (hne c scope hscope) (hne c' scope hscope) (hslot scope)
  have hprojects := fun hc => ProjectConfig.listField_inj htotals
    (List.cons.inj ((hpart .projects nofun).2 hc)).1
  refine ⟨ResolvedScopes.tags_eq_of_contains fun scope => ?_, ?_,
    ResolvedScopes.window?_eq_of_windowOf (hpart .projects nofun).1 fun hc => (hprojects hc).1,
    fun hc => (hprojects hc).2⟩
  · by_cases hscope : scope = .all
    · rw [hscope, c.contains_all, c'.contains_all]
    · exact (hpart scope hscope).1
  · exact ResolvedScopes.window?_eq_of_windowOf (hpart .packages nofun).1 fun hc =>
      scopedField_inj ((hpart .packages nofun).2 hc)

/-! ## Documents -/

/-- Unless totals are added everywhere, the document for an account determines whose it is and
everything that is in effect of the request for it. -/
theorem accountDocument_determines_request {account account' : Account} {c c' : AccountConfig}
    {options : DocumentOptions} (htotals : options.withTotals = false)
    (h : accountDocument account c options = accountDocument account' c' options) :
    account.kind = account'.kind ∧ account.login = account'.login ∧ c.SameEffect c' options := by
  have hparse := parse?_of_tokens (tokens?_accountDocument account c options)
  rw [h, parse?_of_tokens (tokens?_accountDocument account' c' options)] at hparse
  obtain ⟨hhead, hset⟩ := Selection.node.inj (List.cons.inj (Option.some.inj hparse)).1
  obtain ⟨login, kind⟩ := account
  obtain ⟨login', kind'⟩ := account'
  have hkind : kind' = kind := by
    have hname : kind'.text = kind.text := congrArg Head.name hhead
    revert hname
    cases kind <;> cases kind' <;> decide
  have hlogin : login' = login := by simpa [Account.head] using congrArg Head.arguments hhead
  subst hkind
  exact ⟨rfl, hlogin.symm, AccountConfig.fields_inj htotals (List.cons.inj hset).2.symm⟩

/-- Two lists of the same states give one document, from which the states are read off. -/
theorem sameEffect_of_repeated_states :
    let account : Account := ⟨"login", .user⟩
    let linked := fun states : List IssueState =>
      (⟨[.plain .issues, .plain .count], .list, none, states⟩ : RepositoryConfig)
    let c : AccountConfig :=
      ⟨[.plain .projects], ⟨[.plain .repositories], linked [.opened, .closed]⟩⟩
    let c' : AccountConfig :=
      ⟨[.plain .projects], ⟨[.plain .repositories], linked [.closed, .opened, .closed]⟩⟩
    accountDocument account c .plain = accountDocument account c' .plain ∧
      account.kind = account.kind ∧ account.login = account.login ∧ c.SameEffect c' .plain := by
  intro account linked c c'
  have hdocument : accountDocument account c .plain = accountDocument account c' .plain := rfl
  exact ⟨hdocument, accountDocument_determines_request rfl hdocument⟩

end ScopeComposer
