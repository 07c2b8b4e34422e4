import ScopeComposer.Proofs.Compose.InertInputs
import ScopeComposer.Proofs.Compose.TotalLines
import ScopeComposer.Proofs.Graphql.SelectionSets

/-!
# The places of totals

Where totals are selected in a document. With totals, every set that says something of pages asks
for one right before that. Without, there is at most one in the whole document: that of the linked
repositories whose number was requested by itself. The repositories are reduced to their number
where nothing else is requested of them.
-/

namespace ScopeComposer

open Graphql

namespace Graphql

namespace SelectionSet

/-- Whether a set is that of linked repositories. -/
def isLinked (s : SelectionSet) : Bool := s.owner.name == "repositories"

/-- Whether a set has nothing in it but the number of all elements. -/
def IsReduced (s : SelectionSet) : Prop := s.fields = [.leaf (.plain "totalCount")]

end SelectionSet

/-- How totals stand in the selection sets of a document: whether totals are selected, whether the
linked repositories are reached, and what is requested of them. -/
structure TotalsInPlace (withTotals : Bool) (reached : Prop)
    (requests : List (ScopeRequest RepositoryScope)) (sets : List SelectionSet) : Prop where
  /-- The linked repositories are in the document if they are reached. -/
  linked_iff : (∃ s ∈ sets, s.isLinked = true) ↔ reached
  /-- With totals, every set that says something of pages has one total, right before that. -/
  before_pageInfo : withTotals = true → ∀ s ∈ sets, "pageInfo" ∈ s.names →
    s.names.count "totalCount" = 1 ∧ s.names.count "pageInfo" = 1 ∧
      ["totalCount", "pageInfo"] <:+: s.names
  /-- With totals, there is no other one but that of repositories reduced to their number. -/
  nowhere_else : withTotals = true → ∀ s ∈ sets, "totalCount" ∈ s.names → "pageInfo" ∉ s.names →
    s.isLinked = true ∧ s.IsReduced
  /-- Without totals, there is at most one in the document. -/
  at_most_once : withTotals = false → occurrences "totalCount" sets ≤ 1
  /-- Without totals, it stands among the linked repositories. -/
  in_linked : withTotals = false → ∀ s ∈ sets, "totalCount" ∈ s.names → s.isLinked = true
  /-- Without totals, it is there if the number of linked repositories is requested. -/
  occurs_iff : withTotals = false → (0 < occurrences "totalCount" sets ↔
    reached ∧ ∃ r ∈ requests, r.scope = .count ∨ r.scope = .all)
  /-- Linked repositories are reduced to their number if nothing else is requested of them. -/
  reduced_iff : ∀ s ∈ sets, s.isLinked = true →
    (s.IsReduced ↔ requests ≠ [] ∧ ∀ r ∈ requests, r.scope = .count)

/-! ## Sets in order -/

theorem names_collectionFields (withTotal : Bool) (nodes : List Selection) :
    (collectionFields withTotal nodes).map (·.head.name) =
      (if withTotal then ["totalCount"] else []) ++ ["pageInfo", "nodes"] := by
  cases withTotal <;> rfl

/-- Whether fields neither ask for a total nor say anything of pages. -/
def IsPlain (fields : List Selection) : Prop :=
  ∀ f ∈ fields, f.head.name ∉ ["totalCount", "pageInfo"]

instance (fields : List Selection) : Decidable (IsPlain fields) :=
  inferInstanceAs (Decidable (∀ f ∈ fields, f.head.name ∉ ["totalCount", "pageInfo"]))

/-- Selection sets of which some are those of linked repositories, and every other one is either
without totals and pages or that of a collection. -/
structure InOrder (withTotals : Bool) (linked sets : List SelectionSet) : Prop where
  /-- The sets of linked repositories. -/
  linked_eq : sets.filter SelectionSet.isLinked = linked
  /-- All other sets. -/
  others : ∀ s ∈ sets, s.isLinked = false →
    IsPlain s.fields ∨ ∃ nodes, s.fields = collectionFields withTotals nodes

/-- Plain fields with selection sets in order inside. -/
structure Laid (withTotals : Bool) (linked : List SelectionSet) (fields : List Selection) :
    Prop where
  /-- The fields themselves. -/
  plain : IsPlain fields
  /-- The sets inside. -/
  below : InOrder withTotals linked (setsBelow fields)

namespace InOrder

variable {withTotals : Bool} {linked linked' sets sets' : List SelectionSet}

theorem append (h : InOrder withTotals linked sets) (h' : InOrder withTotals linked' sets') :
    InOrder withTotals (linked ++ linked') (sets ++ sets') where
  linked_eq := by rw [List.filter_append, h.linked_eq, h'.linked_eq]
  others s hs := (List.mem_append.1 hs).elim (h.others s) (h'.others s)

theorem cons {s : SelectionSet} (hs : s.isLinked = false)
    (hfields : IsPlain s.fields ∨ ∃ nodes, s.fields = collectionFields withTotals nodes)
    (h : InOrder withTotals linked sets) : InOrder withTotals linked (s :: sets) where
  linked_eq := by rw [List.filter_cons_of_neg (by simp [hs]), h.linked_eq]
  others s' hs' hlinked := by
    rcases List.mem_cons.1 hs' with rfl | hs'
    · exact hfields
    · exact h.others s' hs' hlinked

theorem cons_linked {s : SelectionSet} (hs : s.isLinked = true)
    (h : InOrder withTotals linked sets) : InOrder withTotals (s :: linked) (s :: sets) where
  linked_eq := by rw [List.filter_cons_of_pos hs, h.linked_eq]
  others s' hs' hlinked := by
    rcases List.mem_cons.1 hs' with rfl | hs'
    · rw [hs] at hlinked
      cases hlinked
    · exact h.others s' hs' hlinked

/-- The fields of any other set than that of linked repositories, as far as totals matter. -/
theorem names_of_unlinked (h : InOrder withTotals linked sets) {s : SelectionSet} (hs : s ∈ sets)
    (hunlinked : s.isLinked = false) : ("totalCount" ∉ s.names ∧ "pageInfo" ∉ s.names) ∨
      s.names = (if withTotals then ["totalCount"] else []) ++ ["pageInfo", "nodes"] := by
  rcases h.others s hs hunlinked with hplain | ⟨nodes, hfields⟩
  · refine Or.inl ⟨?_, ?_⟩ <;>
    · intro hname
      obtain ⟨f, hf, hname⟩ := List.mem_map.1 hname
      exact hplain f hf (by simp [hname])
  · refine Or.inr ?_
    rw [SelectionSet.names, hfields, names_collectionFields]

/-- The sets of a collection, apart from that of the collection itself. -/
theorem collection {nodes : List Selection} (h : InOrder withTotals linked (setsBelow nodes))
    (hplain : IsPlain nodes) (withTotal : Bool) :
    InOrder withTotals linked (setsBelow (collectionFields withTotal nodes)) := by
  have hsets : setsBelow (collectionFields withTotal nodes) =
      ⟨.plain "pageInfo", [.leaf (.plain "endCursor"), .leaf (.plain "hasNextPage")]⟩ ::
        ⟨.plain "nodes", nodes⟩ :: setsBelow nodes := by
    cases withTotal <;> simp [collectionFields, pageInfoField, setsBelow, Selection.sets]
  rw [hsets]
  exact cons rfl (Or.inl (by decide)) (cons rfl (Or.inl hplain) h)

end InOrder

namespace Laid

variable {withTotals : Bool} {linked linked' : List SelectionSet} {fields more : List Selection}

theorem nil : Laid withTotals [] [] := ⟨by simp [IsPlain], ⟨rfl, by simp [setsBelow]⟩⟩

theorem append (h : Laid withTotals linked fields) (h' : Laid withTotals linked' more) :
    Laid withTotals (linked ++ linked') (fields ++ more) where
  plain f hf := (List.mem_append.1 hf).elim (h.plain f) (h'.plain f)
  below := by
    rw [setsBelow_append]
    exact h.below.append h'.below

theorem cons {s : Selection} (h : Laid withTotals [] [s]) (h' : Laid withTotals linked more) :
    Laid withTotals linked (s :: more) := h.append h'

theorem flatMap {α : Type} {sets : α → List SelectionSet} {part : α → List Selection}
    {items : List α} (h : ∀ a ∈ items, Laid withTotals (sets a) (part a)) :
    Laid withTotals (items.flatMap sets) (items.flatMap part) := by
  induction items with
  | nil => exact nil
  | cons a items ih =>
    rw [List.flatMap_cons, List.flatMap_cons]
    exact append (h a List.mem_cons_self) (ih fun b hb => h b (List.mem_cons_of_mem _ hb))

/-- Parts without linked repositories. -/
theorem flatMap_unlinked {α : Type} {part : α → List Selection} {items : List α}
    (h : ∀ a ∈ items, Laid withTotals [] (part a)) :
    Laid withTotals [] (items.flatMap part) := by
  have hall : Laid withTotals (items.flatMap fun _ => []) (items.flatMap part) := flatMap h
  rwa [List.flatMap_eq_nil_iff.2 fun _ _ => rfl] at hall

theorem leaf {h : Head} (hname : h.name ∉ ["totalCount", "pageInfo"]) :
    Laid withTotals [] [.leaf h] := ⟨by simpa [IsPlain, Selection.head] using hname, ⟨rfl, by simp⟩⟩

theorem fixed {fields : List Field} (hplain : IsPlain (fieldSelections fields))
    (hbelow : ∀ s ∈ setsBelow (fieldSelections fields), s.isLinked = false ∧ IsPlain s.fields) :
    Laid withTotals [] (fieldSelections fields) where
  plain := hplain
  below := by
    refine ⟨List.filter_eq_nil_iff.2 fun s hs => ?_, fun s hs _ => Or.inl (hbelow s hs).2⟩
    simp [(hbelow s hs).1]

/-- A field with a set of plain fields. -/
theorem node {h : Head} (hname : h.name ∉ ["totalCount", "pageInfo", "repositories"])
    (hfields : Laid withTotals linked fields) : Laid withTotals linked [.node h fields] := by
  simp only [List.mem_cons, List.not_mem_nil, or_false, not_or] at hname
  refine ⟨by simp [IsPlain, Selection.head, hname], ?_⟩
  rw [setsBelow_node]
  exact InOrder.cons (by simp [SelectionSet.isLinked, hname]) (Or.inl hfields.plain) hfields.below

/-- The field of a collection of nodes with plain fields. -/
theorem collection {h : Head} (hname : h.name ∉ ["totalCount", "pageInfo", "repositories"])
    (hfields : Laid withTotals linked fields) :
    Laid withTotals linked [.node h (collectionFields withTotals fields)] := by
  simp only [List.mem_cons, List.not_mem_nil, or_false, not_or] at hname
  refine ⟨by simp [IsPlain, Selection.head, hname], ?_⟩
  rw [setsBelow_node]
  exact InOrder.cons (by simp [SelectionSet.isLinked, hname]) (Or.inr ⟨fields, rfl⟩)
    (hfields.below.collection hfields.plain withTotals)

/-- The sets of a document with laid-out root fields. -/
theorem documentSets (h : Laid withTotals linked fields) :
    InOrder withTotals linked (⟨.plain "query", fields⟩ :: setsBelow fields) :=
  InOrder.cons rfl (Or.inl h.plain) h.below

theorem scopedField {name : String} (hname : name ∉ ["totalCount", "pageInfo", "repositories"])
    (w : PageWindow) (options : DocumentOptions) {fields : List Field}
    (hfields : Laid options.withTotals [] (fieldSelections fields)) :
    Laid options.withTotals [] [scopedField name w options fields] := collection hname hfields

end Laid

end Graphql

/-! ## Repositories -/

variable (options : DocumentOptions)

theorem MilestoneIssues.fields_laid (s : MilestoneIssues) :
    Laid options.withTotals [] (s.fields options) := by
  rw [fields, List.map_eq_flatMap]
  refine Laid.flatMap_unlinked fun state _ => ?_
  exact Laid.collection (by simp [fieldHead]) (Laid.fixed (by decide) (by decide))

theorem MilestoneConfig.fields_laid (c : MilestoneConfig) :
    Laid options.withTotals [] (c.fields options) := by
  refine Laid.cons (Laid.leaf (by decide)) (Laid.flatMap_unlinked fun depth _ => ?_)
  cases depth with
  | info => exact Laid.fixed (by decide) (by decide)
  | issues => exact c.issues.fields_laid options

theorem MilestoneConfig.field_laid (c : MilestoneConfig) :
    Laid options.withTotals [] [c.field options] := by
  have hfields := c.fields_laid options
  unfold field
  split
  · exact Laid.node (by simp [numberHead]) hfields
  · exact Laid.collection (by simp [windowHead]) hfields

namespace RepositoryConfig

theorem milestoneFields_laid (c : RepositoryConfig) (scopes : ResolvedScopes RepositoryScope) :
    Laid options.withTotals [] (c.milestoneFields scopes options) := by
  rw [milestoneFields, List.map_eq_flatMap]
  exact Laid.flatMap_unlinked fun level _ => level.field_laid options

theorem partFields_laid (c : RepositoryConfig) (scopes : ResolvedScopes RepositoryScope)
    (scope : RepositoryScope) : Laid options.withTotals [] (c.partFields scopes options scope) := by
  have hscoped : ∀ name, name ∉ ["totalCount", "pageInfo", "repositories"] → ∀ fields,
      Laid options.withTotals [] (fieldSelections fields) → Laid options.withTotals []
        [scopedField name (scopes.windowOf scope) options fields] :=
    fun _ hname _ hfields => Laid.scopedField hname _ options hfields
  have hmilestones := c.milestoneFields_laid options scopes
  cases scope with
  | count => exact Laid.nil
  | info => exact Laid.fixed (by decide) (by decide)
  | license => exact Laid.fixed (by decide) (by decide)
  | vulnerabilities => exact hscoped _ (by decide) _ (Laid.fixed (by decide) (by decide))
  | topics => exact hscoped _ (by decide) _ (Laid.fixed (by decide) (by decide))
  | labels => exact hscoped _ (by decide) _ (Laid.fixed (by decide) (by decide))
  | releases => exact hscoped _ (by decide) _ (Laid.fixed (by decide) (by decide))
  | deployments => exact hscoped _ (by decide) _ (Laid.fixed (by decide) (by decide))
  | languages =>
    have hfields : Laid options.withTotals [] (fieldSelections languageFields) :=
      Laid.fixed (by decide) (by decide)
    exact Laid.cons (Laid.node (by decide) hfields) (hscoped _ (by decide) _ hfields)
  | milestones => exact hmilestones
  | issues =>
    cases hcontains : scopes.contains .milestones with
    | true => simpa [partFields, hcontains] using Laid.nil
    | false => simpa [partFields, hcontains] using hmilestones
  | all => exact Laid.nil

theorem bodyFields_laid (c : RepositoryConfig) (scopes : ResolvedScopes RepositoryScope) :
    Laid options.withTotals [] (c.bodyFields scopes options) :=
  Laid.cons (Laid.leaf (by decide))
    (Laid.flatMap_unlinked fun scope _ => c.partFields_laid options scopes scope)

/-- The selection set of the repositories linked to a project. -/
def linkedSet (c : RepositoryConfig) (w : PageWindow) (options : DocumentOptions) : SelectionSet :=
  let scopes := ResolvedScopes.resolve c.scopes
  ⟨windowHead "repositories" w,
    if scopes.asksOnlyNumber then [.leaf (.plain "totalCount")]
    else collectionFields (options.withTotals || scopes.asksNumber) (c.bodyFields scopes options)⟩

theorem linkedField_laid (c : RepositoryConfig) (w : PageWindow) :
    Laid options.withTotals [c.linkedSet w options] [c.linkedField w options] := by
  refine ⟨by simp [IsPlain, linkedField, Selection.head, windowHead], ?_⟩
  unfold linkedField
  rw [setsBelow_node]
  refine InOrder.cons_linked rfl ?_
  cases (ResolvedScopes.resolve c.scopes).asksOnlyNumber with
  | true => exact ⟨rfl, by simp⟩
  | false =>
    have hbody := c.bodyFields_laid options (.resolve c.scopes)
    exact hbody.below.collection hbody.plain _

end RepositoryConfig

/-! ## Projects and accounts -/

namespace ProjectConfig

/-- The selection sets of linked repositories in a project. -/
def linkedSets (c : ProjectConfig) (options : DocumentOptions) : List SelectionSet :=
  let scopes := ResolvedScopes.resolve c.scopes
  if scopes.contains .repositories then
    [c.repositories.linkedSet (scopes.windowOf .repositories) options]
  else []

theorem fields_laid (c : ProjectConfig) :
    Laid options.withTotals (c.linkedSets options) (c.fields options) := by
  have hpart : ∀ scope ∈ (ResolvedScopes.resolve c.scopes).tags, Laid options.withTotals
      (if scope = .repositories then [c.repositories.linkedSet
        ((ResolvedScopes.resolve c.scopes).windowOf .repositories) options] else [])
      (c.partFields (.resolve c.scopes) options scope) := by
    intro scope _
    cases scope with
    | info => exact Laid.fixed (by decide) (by decide)
    | repositories => exact c.repositories.linkedField_laid options _
  have hall := Laid.cons (Laid.leaf (h := .plain "number") (by decide))
    (Laid.cons (Laid.leaf (h := .plain "title") (by decide)) (Laid.flatMap hpart))
  rw [ResolvedScopes.flatMap_tags] at hall
  simpa [Tag.catalogue, linkedSets, fields] using hall

theorem field_laid (c : ProjectConfig) (address : ProjectAddress) :
    Laid options.withTotals (c.linkedSets options) [c.field address options] := by
  have hfields := c.fields_laid options
  match address with
  | .single (.name name) =>
    exact Laid.node (by simp [nameHead]) (Laid.node (by decide) hfields)
  | .single (.number number) => exact Laid.node (by simp [numberHead]) hfields
  | .list w => exact Laid.collection (by simp [windowHead]) hfields

end ProjectConfig

namespace AccountConfig

/-- The selection sets of linked repositories in an account. -/
def linkedSets (c : AccountConfig) (options : DocumentOptions) : List SelectionSet :=
  if (c.resolved options).contains .projects then c.projects.linkedSets options else []

theorem fields_laid (c : AccountConfig) (kind : AccountKind) :
    Laid options.withTotals (c.linkedSets options) (c.fields kind options) := by
  have hpart : ∀ scope ∈ (c.resolved options).tags, Laid options.withTotals
      (if scope = .projects then c.projects.linkedSets options else [])
      (c.partFields kind (c.resolved options) options scope) := by
    intro scope _
    cases scope with
    | essential => cases kind <;> exact Laid.fixed (by decide) (by decide)
    | info => cases kind <;> exact Laid.fixed (by decide) (by decide)
    | packages =>
      exact Laid.scopedField (by decide) _ options (Laid.fixed (by decide) (by decide))
    | projects => exact c.projects.field_laid options _
    | all => exact Laid.nil
  have hall := Laid.flatMap hpart
  rw [ResolvedScopes.flatMap_tags] at hall
  simpa [Tag.catalogue, linkedSets, fields] using hall

end AccountConfig

theorem Account.rootField_laid (account : Account) {withTotals : Bool}
    {linked : List SelectionSet} {fields : List Selection}
    (h : Laid withTotals linked fields) : Laid withTotals linked [account.rootField fields] := by
  have hname : ∀ kind : AccountKind,
      kind.text ∉ ["totalCount", "pageInfo", "repositories"] := by
    intro kind
    cases kind <;> decide
  exact Laid.node (hname account.kind) (Laid.cons (Laid.leaf (by decide)) h)

/-! ## Requests for the number of repositories -/

namespace RepositoryConfig

theorem asksNumber_resolve {requests : List (ScopeRequest RepositoryScope)} :
    (ResolvedScopes.resolve requests).asksNumber = true ↔
      ∃ r ∈ requests, r.scope = .count ∨ r.scope = .all := by
  have hcount : Tag.isAll RepositoryScope.count = false := rfl
  rw [asksNumber_eq_contains, ResolvedScopes.contains_resolve]
  simp only [hcount, true_and, isAll_iff]

/-- Any request but one for the number of repositories makes another scope present. -/
theorem asksOnlyNumber_resolve {requests : List (ScopeRequest RepositoryScope)} :
    (ResolvedScopes.resolve requests).asksOnlyNumber = true ↔
      requests ≠ [] ∧ ∀ r ∈ requests, r.scope = .count := by
  rw [asksOnlyNumber_iff]
  constructor
  · intro htags
    have honly : ∀ scope, (ResolvedScopes.resolve requests).contains scope = true →
        scope = .count := by
      intro scope hscope
      simpa [htags] using ResolvedScopes.mem_tags.2 hscope
    have hcount : (ResolvedScopes.resolve requests).contains .count = true :=
      ResolvedScopes.mem_tags.1 (by simp [htags])
    refine ⟨?_, fun r hr => ?_⟩
    · rintro rfl
      obtain ⟨r, hr, -⟩ := exists_request_of_contains hcount
      exact absurd hr List.not_mem_nil
    · by_cases hall : Tag.isAll r.scope = true
      · have hinfo := honly .info (ResolvedScopes.contains_resolve.2 ⟨rfl, r, hr, Or.inr hall⟩)
        cases hinfo
      · exact honly r.scope
          (ResolvedScopes.contains_resolve.2 ⟨by simpa using hall, r, hr, Or.inl rfl⟩)
  · rintro ⟨hne, hcount⟩
    have hcontains : ∀ scope,
        (ResolvedScopes.resolve requests).contains scope = (scope == .count) := by
      intro scope
      rw [Bool.eq_iff_iff, ResolvedScopes.contains_resolve, beq_iff_eq]
      constructor
      · rintro ⟨-, r, hr, rfl | hall⟩
        · exact hcount r hr
        · rw [hcount r hr] at hall
          cases hall
      · rintro rfl
        obtain ⟨r, hr⟩ := List.exists_mem_of_ne_nil _ hne
        exact ⟨rfl, r, hr, Or.inl (hcount r hr)⟩
    unfold ResolvedScopes.tags
    rw [funext hcontains]
    rfl

theorem linkedSet_isReduced (c : RepositoryConfig) (w : PageWindow) (options : DocumentOptions) :
    (c.linkedSet w options).IsReduced ↔ c.scopes ≠ [] ∧ ∀ r ∈ c.scopes, r.scope = .count := by
  rw [← asksOnlyNumber_resolve]
  unfold SelectionSet.IsReduced linkedSet
  cases honly : (ResolvedScopes.resolve c.scopes).asksOnlyNumber with
  | true => simp [honly]
  | false => simp [honly, collectionFields_ne_totalCount]

theorem names_linkedSet (c : RepositoryConfig) (w : PageWindow) (options : DocumentOptions) :
    (c.linkedSet w options).names =
      if (ResolvedScopes.resolve c.scopes).asksOnlyNumber then ["totalCount"]
      else (if options.withTotals || (ResolvedScopes.resolve c.scopes).asksNumber
        then ["totalCount"] else []) ++ ["pageInfo", "nodes"] := by
  unfold linkedSet SelectionSet.names
  cases honly : (ResolvedScopes.resolve c.scopes).asksOnlyNumber with
  | true => simp [honly, Selection.head, Head.plain]
  | false =>
    simp only [honly, Bool.false_eq_true, if_false]
    exact names_collectionFields _ _

/-- Where the number of repositories is all that is asked for, it is asked for. -/
theorem asksNumber_of_asksOnlyNumber {set : ResolvedScopes RepositoryScope}
    (h : set.asksOnlyNumber = true) : set.asksNumber = true := by
  have htags := asksOnlyNumber_iff.1 h
  rw [ResolvedScopes.asksNumber, htags]
  rfl

/-- Without totals, the linked repositories have their number once if it was requested. -/
theorem count_names_linkedSet (c : RepositoryConfig) (w : PageWindow) {options : DocumentOptions}
    (h : options.withTotals = false) : (c.linkedSet w options).names.count "totalCount" =
      if (ResolvedScopes.resolve c.scopes).asksNumber then 1 else 0 := by
  rw [names_linkedSet, h]
  cases honly : (ResolvedScopes.resolve c.scopes).asksOnlyNumber with
  | true =>
    rw [asksNumber_of_asksOnlyNumber honly]
    rfl
  | false => cases (ResolvedScopes.resolve c.scopes).asksNumber <;> rfl

end RepositoryConfig

/-! ## Documents -/

namespace Graphql

variable {options} {reached : Prop} {c : RepositoryConfig} {w : PageWindow}
  {linked sets : List SelectionSet}

/-- With totals, a set with pages has its total right before them, and a total without pages is that
of linked repositories reduced to it. -/
theorem InOrder.names_of_withTotals (h : InOrder true linked sets)
    (htotals : options.withTotals = true)
    (hlinked : ∀ s ∈ sets, s.isLinked = true → s = c.linkedSet w options) {s : SelectionSet}
    (hs : s ∈ sets) : ("totalCount" ∉ s.names ∧ "pageInfo" ∉ s.names) ∨
      s.names = ["totalCount", "pageInfo", "nodes"] ∨
      s.names = ["totalCount"] ∧ s.isLinked = true ∧ s.IsReduced := by
  cases hislinked : s.isLinked with
  | false =>
    rcases h.names_of_unlinked hs hislinked with hplain | hnames
    · exact Or.inl hplain
    · exact Or.inr (Or.inl hnames)
  | true =>
    obtain rfl := hlinked s hs hislinked
    rw [RepositoryConfig.names_linkedSet, htotals]
    cases honly : (ResolvedScopes.resolve c.scopes).asksOnlyNumber with
    | false => exact Or.inr (Or.inl rfl)
    | true =>
      refine Or.inr (Or.inr ⟨rfl, hislinked, ?_⟩)
      rw [RepositoryConfig.linkedSet_isReduced]
      exact RepositoryConfig.asksOnlyNumber_resolve.1 honly

/-- Without totals, only linked repositories have one. -/
theorem InOrder.isLinked_of_withoutTotals (h : InOrder false linked sets) {s : SelectionSet}
    (hs : s ∈ sets) (htotal : "totalCount" ∈ s.names) : s.isLinked = true := by
  by_contra hunlinked
  rcases h.names_of_unlinked hs (by simpa using hunlinked) with ⟨hplain, -⟩ | hnames
  · exact hplain htotal
  · rw [hnames] at htotal
    exact absurd htotal (by decide)

theorem InOrder.occurrences_eq (h : InOrder false linked sets) :
    occurrences "totalCount" sets = occurrences "totalCount" linked := by
  rw [← h.linked_eq]
  refine (occurrences_filter fun s hs hunlinked htotal => ?_).symm
  rw [h.isLinked_of_withoutTotals hs htotal] at hunlinked
  cases hunlinked

/-- Sets among which the linked repositories stand once, if they are reached, have their totals in
place. -/
theorem InOrder.totalsInPlace (h : InOrder options.withTotals linked sets)
    (hlinked : reached ∧ linked = [c.linkedSet w options] ∨ ¬ reached ∧ linked = []) :
    TotalsInPlace options.withTotals reached c.scopes sets := by
  have hmem : ∀ s, (s ∈ sets ∧ s.isLinked = true) ↔ reached ∧ s = c.linkedSet w options := by
    intro s
    rw [← List.mem_filter, h.linked_eq]
    rcases hlinked with ⟨hreached, rfl⟩ | ⟨hreached, rfl⟩ <;> simp [hreached]
  have hlinkedSet : ∀ s ∈ sets, s.isLinked = true → s = c.linkedSet w options :=
    fun s hs hislinked => ((hmem s).1 ⟨hs, hislinked⟩).2
  have hnames : options.withTotals = true → ∀ s ∈ sets,
      ("totalCount" ∉ s.names ∧ "pageInfo" ∉ s.names) ∨
        s.names = ["totalCount", "pageInfo", "nodes"] ∨
        s.names = ["totalCount"] ∧ s.isLinked = true ∧ s.IsReduced :=
    fun htotals s hs => (htotals ▸ h).names_of_withTotals htotals hlinkedSet hs
  have hcount : options.withTotals = false → occurrences "totalCount" sets ≤ 1 ∧
      (0 < occurrences "totalCount" sets ↔
        reached ∧ (ResolvedScopes.resolve c.scopes).asksNumber = true) := by
    intro htotals
    rw [(htotals ▸ h : InOrder false linked sets).occurrences_eq]
    rcases hlinked with ⟨hreached, rfl⟩ | ⟨hunreached, rfl⟩
    · rw [occurrences, List.flatMap_singleton, c.count_names_linkedSet w htotals]
      cases (ResolvedScopes.resolve c.scopes).asksNumber <;> simp [hreached]
    · simp [occurrences, hunreached]
  refine ⟨?_, ?_, ?_, ?_, ?_, ?_, ?_⟩
  · constructor
    · rintro ⟨s, hs, hislinked⟩
      exact ((hmem s).1 ⟨hs, hislinked⟩).1
    · intro hreached
      exact ⟨_, (hmem _).2 ⟨hreached, rfl⟩⟩
  · intro htotals s hs hpages
    rcases hnames htotals s hs with ⟨-, hnone⟩ | hall | ⟨hreduced, -⟩
    · exact absurd hpages hnone
    · rw [hall]
      decide
    · rw [hreduced] at hpages
      exact absurd hpages (by decide)
  · intro htotals s hs htotal hpages
    rcases hnames htotals s hs with ⟨hnone, -⟩ | hall | ⟨-, hreduced⟩
    · exact absurd htotal hnone
    · rw [hall] at hpages
      exact absurd (by decide) hpages
    · exact hreduced
  · exact fun htotals => (hcount htotals).1
  · exact fun htotals s hs htotal => (htotals ▸ h).isLinked_of_withoutTotals hs htotal
  · intro htotals
    rw [← RepositoryConfig.asksNumber_resolve]
    exact (hcount htotals).2
  · intro s hs hislinked
    obtain rfl := hlinkedSet s hs hislinked
    exact c.linkedSet_isReduced w options

end Graphql

/-- Whether a project is selected with its linked repositories. -/
def ProjectConfig.ReachesRepositories (c : ProjectConfig) : Prop :=
  ∃ r ∈ c.scopes, r.scope = .repositories

/-- Whether an account is selected with the repositories linked to its projects. -/
def AccountConfig.ReachesRepositories (c : AccountConfig) : Prop :=
  (∃ r ∈ c.scopes, r.scope = .projects ∨ r.scope = .all) ∧ c.projects.ReachesRepositories

theorem ProjectConfig.linkedSets_eq (c : ProjectConfig) (options : DocumentOptions) :
    ∃ w, c.ReachesRepositories ∧ c.linkedSets options = [c.repositories.linkedSet w options] ∨
      ¬ c.ReachesRepositories ∧ c.linkedSets options = [] := by
  have hreaches : (ResolvedScopes.resolve c.scopes).contains .repositories = true ↔
      c.ReachesRepositories := by
    have hall : ∀ scope : ProjectScope, Tag.isAll scope = false := fun _ => rfl
    rw [ResolvedScopes.contains_resolve]
    simp [ReachesRepositories, hall]
  refine ⟨(ResolvedScopes.resolve c.scopes).windowOf .repositories, ?_⟩
  rw [← hreaches]
  unfold linkedSets
  cases hcontains : (ResolvedScopes.resolve c.scopes).contains .repositories <;> simp [hcontains]

theorem AccountConfig.linkedSets_eq (c : AccountConfig) (options : DocumentOptions) :
    ∃ w, c.ReachesRepositories ∧
        c.linkedSets options = [c.projects.repositories.linkedSet w options] ∨
      ¬ c.ReachesRepositories ∧ c.linkedSets options = [] := by
  have hreaches : (c.resolved options).contains .projects = true ↔
      ∃ r ∈ c.scopes, r.scope = .projects ∨ r.scope = .all := by
    have hprojects : Tag.isAll AccountScope.projects = false := rfl
    rw [ResolvedScopes.contains, window?_resolved c options (by decide), ← ResolvedScopes.contains,
      ResolvedScopes.contains_resolve]
    simp only [hprojects, true_and, isAll_iff]
  obtain ⟨w, hprojects⟩ := c.projects.linkedSets_eq options
  refine ⟨w, ?_⟩
  unfold ReachesRepositories linkedSets
  rw [← hreaches]
  cases (c.resolved options).contains .projects with
  | true => simpa using hprojects
  | false => simp

/-- Totals stand where they should in every document for an account or for one of its projects, and
nothing but their lines depends on whether they are selected. -/
theorem documents_totals_in_place (account : Account) (withEssential : Bool) :
    (∀ c : AccountConfig,
      (Text.lines (accountDocument account c ⟨true, withEssential⟩)).filter (· ≠ totalCount) =
        (Text.lines (accountDocument account c ⟨false, withEssential⟩)).filter (· ≠ totalCount) ∧
      ∀ withTotals, ∃ sets,
        documentSets? (accountDocument account c ⟨withTotals, withEssential⟩) = some sets ∧
          TotalsInPlace withTotals c.ReachesRepositories c.projects.repositories.scopes sets) ∧
    (∀ (identity : ProjectIdentity) (c : ProjectConfig),
      (Text.lines (projectDocument account identity c ⟨true, withEssential⟩)).filter
          (· ≠ totalCount) =
        (Text.lines (projectDocument account identity c ⟨false, withEssential⟩)).filter
          (· ≠ totalCount) ∧
      ∀ withTotals, ∃ sets,
        documentSets? (projectDocument account identity c ⟨withTotals, withEssential⟩) = some sets ∧
          TotalsInPlace withTotals c.ReachesRepositories c.repositories.scopes sets) := by
  refine ⟨fun c => ⟨filter_lines_accountDocument account c true false withEssential, ?_⟩,
    fun identity c => ⟨filter_lines_projectDocument account identity c _ _, ?_⟩⟩
  · intro withTotals
    have hparse := parse?_of_tokens
      (tokens?_accountDocument account c ⟨withTotals, withEssential⟩)
    have hlaid := account.rootField_laid
      (c.fields_laid ⟨withTotals, withEssential⟩ account.kind)
    obtain ⟨w, hlinked⟩ := c.linkedSets_eq ⟨withTotals, withEssential⟩
    rw [documentSets?, hparse]
    exact ⟨_, rfl, hlaid.documentSets.totalsInPlace hlinked⟩
  · intro withTotals
    have hparse := parse?_of_tokens
      (tokens?_projectDocument account identity c ⟨withTotals, withEssential⟩)
    have hlaid := account.rootField_laid
      (c.field_laid ⟨withTotals, withEssential⟩ (.single identity))
    obtain ⟨w, hlinked⟩ := c.linkedSets_eq ⟨withTotals, withEssential⟩
    rw [documentSets?, hparse]
    exact ⟨_, rfl, hlaid.documentSets.totalsInPlace hlinked⟩

end ScopeComposer
