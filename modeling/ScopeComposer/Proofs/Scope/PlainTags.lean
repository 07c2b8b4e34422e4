import ScopeComposer.Proofs.Scope.CompactGrammar

/-!
# Plain tags

Tags without page sizes and cursors can be given one by one, joined by commas, or as a list in
compact form. The three ways refuse the same names. They agree on the tags that they accept, too,
except that a tag that is named again stays in the compact form and counts once in the others.
-/

namespace ScopeComposer

open Text

/-! ## First occurrences -/

/-- A list has the first occurrence of each element of another, and no other occurrences. -/
structure KeepsFirst {α : Type} [DecidableEq α] (all kept : List α) : Prop where
  /-- Every element is kept, and nothing else. -/
  mem_iff : ∀ a, a ∈ kept ↔ a ∈ all
  /-- What occurs first comes first. -/
  inOrder : kept.Pairwise fun a b => all.idxOf a < all.idxOf b

namespace KeepsFirst

variable {α : Type} [DecidableEq α] {all kept : List α}

/-- No element has two first occurrences. -/
theorem nodup (h : KeepsFirst all kept) : kept.Nodup :=
  h.inOrder.imp fun hlt heq => absurd (heq ▸ hlt) (Nat.lt_irrefl _)

theorem eraseDups (all : List α) : KeepsFirst all all.eraseDups := by
  have hmem : ∀ (as : List α) (a : α), a ∈ as.eraseDups ↔ a ∈ as := fun _ _ => List.mem_eraseDups
  refine ⟨hmem all, ?_⟩
  -- a further element at the end is kept just if it is new
  induction all using List.reverseRecOn with
  | nil => exact List.Pairwise.nil
  | append_singleton all a ih =>
    have hbefore : all.eraseDups.Pairwise fun b c =>
        (all ++ [a]).idxOf b < (all ++ [a]).idxOf c := by
      refine ih.imp_of_mem fun {b c} hb hc hlt => ?_
      rwa [List.idxOf_append_of_mem ((hmem all b).1 hb),
        List.idxOf_append_of_mem ((hmem all c).1 hc)]
    by_cases ha : a ∈ all
    · have hold : (all ++ [a]).eraseDups = all.eraseDups := by
        simp [List.eraseDups_append, List.removeAll, ha]
      rw [hold]
      exact hbefore
    · have hnew : (all ++ [a]).eraseDups = all.eraseDups ++ [a] := by
        simp [List.eraseDups_append, List.removeAll, ha, List.eraseDups_cons]
      rw [hnew, List.pairwise_append]
      refine ⟨hbefore, List.pairwise_singleton _ _, fun b hb c hc => ?_⟩
      obtain rfl := List.mem_singleton.1 hc
      have hb' := (hmem all b).1 hb
      have hlt := List.idxOf_lt_length_of_mem hb'
      rw [List.idxOf_append_of_mem hb', List.idxOf_append_of_notMem ha]
      omega

end KeepsFirst

/-! ## Names in lists -/

open ReceivedRequest (Unseparated)

variable {S : Type} [DecidableEq S] [Tag S]

namespace NameList

theorem tags_eq (names : NameList) (fallback : List S) :
    tags (some names) fallback = if names.entries = [] then .ok fallback
      else (names.entries.mapM (Tag.parse S)).map List.eraseDups := by
  unfold tags
  simp only [Option.map_some, Option.getD_some]
  cases names.entries with
  | nil => rfl
  | cons entry entries =>
    rw [if_neg (List.cons_ne_nil _ _)]
    change (do .ok (← (entry :: entries).mapM (Tag.parse S)).eraseDups) = _
    cases (entry :: entries).mapM (Tag.parse S) <;> rfl

end NameList

/-- An entry without a colon is the name of a tag and nothing else. -/
theorem ReceivedRequest.check_ofCompact_name {entry : String} (h : ':' ∉ entry.toList)
    (defaultSize : PageSize) : (ofCompact entry).check defaultSize =
      (Tag.parse S (trim entry)).map (ScopeRequest.first defaultSize) := by
  rw [(CompactEntry.Parts.one h).ofCompact_eq]
  unfold check
  cases Tag.parse S (trim entry) <;> rfl

namespace ScopeRequest

/-- Texts without commas and colons are the entries of a list, and each is a name. -/
theorem ofCompactList_intercalate {items : List String} (h : ∀ x ∈ items, Unseparated x)
    (hne : significant items ≠ []) (fallback : List S) (defaultSize : PageSize) :
    ofCompactList (",".intercalate items) fallback defaultSize =
      ((significant items).mapM (Tag.parse S)).map (List.map (first defaultSize)) := by
  rw [ofCompactList_eq, entries_intercalate fun x hx => (h x hx).1, if_neg hne]
  refine mapM_congr_map fun entry hentry => ?_
  obtain ⟨x, hx, rfl⟩ := List.mem_map.1 (List.mem_filter.1 hentry).1
  have hcolon : ':' ∉ (trim x).toList := by
    rw [trim, String.toList_ofList]
    exact fun hmem => (h x hx).2 ((trimChars_spec x.toList).1 _ hmem)
  rw [ReceivedRequest.check_ofCompact_name hcolon, trim_trim]

end ScopeRequest

namespace NameList

theorem significant_eq_nil_iff {items : List String} :
    significant items = [] ↔ ∀ x ∈ items, trim x = "" := by
  unfold significant
  simp [List.filter_eq_nil_iff]

/-- The leftmost name that is unknown is that of the leftmost item with an unknown name in it. -/
theorem leftmost_significant {items : List String} {e : ValidationError} :
    Leftmost (Tag.Fault S) (significant items) e ↔
      Leftmost (fun x e => trim x ≠ "" ∧ Tag.Fault S (trim x) e) items e := by
  induction items with
  | nil => exact ⟨nofun, nofun⟩
  | cons x items ih =>
    by_cases hblank : trim x = ""
    · have hskip : significant (x :: items) = significant items := by
        simp [significant, hblank]
      rw [hskip, ih]
      constructor
      · exact .later fun _ h => h.1 hblank
      · rintro (h | ⟨-, h⟩)
        · exact absurd hblank h.1
        · exact h
    · have hkeep : significant (x :: items) = trim x :: significant items := by
        simp [significant, hblank]
      rw [hkeep]
      constructor
      · rintro (h | ⟨sound, h⟩)
        · exact .here ⟨hblank, h⟩
        · exact .later (fun e hx => sound e hx.2) (ih.1 h)
      · rintro (h | ⟨sound, h⟩)
        · exact .here h.2
        · exact .later (fun e hx => sound e ⟨hblank, hx⟩) (ih.2 h)

/-- Plain tags are the same to all three ways of giving them. If there are any, either all of them
are refused for the first one that names no tag of the level, or all are accepted; then a list of
names has each of the tags of the compact form once, in the order of their first mention. If there
are none, a list of names stands for the fallback. -/
theorem plainTags_agree {items : List String} (h : ∀ x ∈ items, Unseparated x)
    (fallback : List S) (defaultSize : PageSize) :
    let text := ",".intercalate items
    let separate := tags (some (.separate items)) fallback
    let joined := tags (some (.joined text)) fallback
    let compact := ScopeRequest.ofCompactList text fallback defaultSize
    ((∃ x ∈ items, trim x ≠ "") →
      (∃ before x after, items = before ++ x :: after ∧
        (∀ y ∈ before, trim y = "" ∨ ∃ t : S, Tag.name t = trim y) ∧
        (trim x ≠ "" ∧ ∀ t : S, Tag.name t ≠ trim x) ∧
        let e := .invalidScope (Tag.level S) (trim x) (Tag.allowed S)
        separate = .error e ∧ joined = .error e ∧ compact = .error e) ∨
      (∃ (requests : List (ScopeRequest S)) (kept : List S), compact = .ok requests ∧
        separate = .ok kept ∧ joined = .ok kept ∧ kept.Nodup ∧
        KeepsFirst (requests.map (·.scope)) kept)) ∧
    ((∀ x ∈ items, trim x = "") → separate = .ok fallback ∧ joined = .ok fallback) := by
  intro text separate joined compact
  have hentries : Text.entries text = significant items :=
    entries_intercalate fun x hx => (h x hx).1
  have hseparate : separate = if significant items = [] then .ok fallback
      else ((significant items).mapM (Tag.parse S)).map List.eraseDups := tags_eq _ fallback
  have hjoined : joined = separate := by
    rw [hseparate, ← hentries]
    exact tags_eq _ fallback
  rw [hjoined, and_self]
  -- what is left is the one check of the names, with two uses of its result
  refine ⟨fun ⟨x, hx, hsome⟩ => ?_, fun hblank => ?_⟩
  · have hne : significant items ≠ [] := fun hnil => hsome (significant_eq_nil_iff.1 hnil x hx)
    have hcompact : compact =
        ((significant items).mapM (Tag.parse S)).map (List.map (.first defaultSize)) :=
      ScopeRequest.ofCompactList_intercalate h hne fallback defaultSize
    rw [hseparate, if_neg hne, hcompact]
    cases hresult : (significant items).mapM (Tag.parse S) with
    | error e =>
      have hleftmost := (Reports.mapM (fun _ _ => Tag.parse_eq_error_iff) _ e).1 hresult
      obtain ⟨before, x, after, hitems, hbefore, hne, ⟨hunknown⟩⟩ :=
        leftmost_iff.1 (leftmost_significant.1 hleftmost)
      refine .inl ⟨before, x, after, hitems, fun y hy => ?_, ⟨hne, hunknown⟩, rfl, rfl, rfl⟩
      by_contra hfault
      rw [not_or, not_exists] at hfault
      exact hbefore y hy _ ⟨hfault.1, .unknown hfault.2⟩
    | ok named =>
      have hscopes : (named.map (ScopeRequest.first defaultSize)).map (·.scope) = named := by
        simp [List.map_map, Function.comp_def, ScopeRequest.first]
      have hkeeps := KeepsFirst.eraseDups named
      refine .inr ⟨_, _, rfl, rfl, rfl, hkeeps.nodup, ?_⟩
      rwa [hscopes]
  · rw [hseparate, if_pos (significant_eq_nil_iff.2 hblank)]

/-- A tag that is named again, and an item with nothing but a blank character that is no space. -/
theorem plainTags_agree_of_repeated :
    let items := [" topics", "\u2003", "license", "topics\t"]
    let text := ",".intercalate items
    (∀ x ∈ items, Unseparated x) ∧ (∃ x ∈ items, trim x ≠ "") ∧
    tags (some (.joined text)) [] = .ok [RepositoryScope.topics, .license] ∧
    ∃ requests, ScopeRequest.ofCompactList text [] .one = .ok requests ∧
      KeepsFirst (requests.map (·.scope)) [RepositoryScope.topics, .license] := by
  intro items text
  have hitems : ∀ x ∈ items, Unseparated x := by decide
  have hsome : ∃ x ∈ items, trim x ≠ "" := by decide
  have hjoined : tags (some (.joined text)) [] = .ok [RepositoryScope.topics, .license] := by
    decide
  refine ⟨hitems, hsome, hjoined, ?_⟩
  obtain ⟨hnames, -⟩ := plainTags_agree hitems ([] : List RepositoryScope) .one
  obtain ⟨_, x, _, -, -, -, -, hrefused, -⟩ | ⟨requests, kept, hcompact, -, hkept, -, hkeeps⟩ :=
    hnames hsome
  · cases hjoined.symm.trans hrefused
  · obtain rfl := Except.ok.inj (hjoined.symm.trans hkept)
    exact ⟨requests, hcompact, hkeeps⟩

end NameList

end ScopeComposer
