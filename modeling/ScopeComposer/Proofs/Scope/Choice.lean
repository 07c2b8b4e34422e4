import Mathlib.Data.Prod.Lex
import Mathlib.Data.String.Basic
import Mathlib.Order.WithBot
import ScopeComposer.Proofs.Scope.Resolved

/-!
# Which window a tag gets

The order of windows as ranks: the page size first, and among equal sizes the cursor, with none
below all others. Of the requests for a tag the one of the highest rank decides, and a tag that
nobody named goes by the requests for all tags, however small the windows are that other tags were
named with. A request for all tags is therefore shorthand for one request for each tag that was not
named.
-/

namespace ScopeComposer

/-- The place of a cursor among all cursors: none comes first, and texts follow the order of their
code points. -/
def Cursor.rank (c : Cursor) : WithBot String :=
  match c.value with
  | Option.none => ⊥
  | some s => s

/-- The place of a window among all windows: by page size, and among equal sizes by cursor. -/
def PageWindow.rank (w : PageWindow) : ℕ ×ₗ WithBot String :=
  toLex (w.pageSize.value, w.continueAfter.rank)

theorem Cursor.precedes_iff_rank_le (a b : Cursor) : a.precedes b = true ↔ a.rank ≤ b.rank := by
  unfold precedes rank
  cases a.value with
  | none => exact iff_of_true rfl bot_le
  | some s =>
    cases b.value with
    | none => exact iff_of_false Bool.false_ne_true (WithBot.not_coe_le_bot s)
    | some t => exact decide_eq_true_iff.trans WithBot.coe_le_coe.symm

theorem PageWindow.precedes_iff_rank_le (a b : PageWindow) :
    a.precedes b = true ↔ a.rank ≤ b.rank := by
  rw [precedes_iff, Cursor.precedes_iff_rank_le, rank, rank, Prod.Lex.toLex_le_toLex]

namespace ResolvedScopes

open PageWindow

variable {S : Type}

/-- A window is the greatest one that certain tags were requested with. -/
structure IsGreatestFor (requests : List (ScopeRequest S)) (p : S → Prop) (m : PageWindow) :
    Prop where
  /-- One of the tags was requested with it. -/
  requested : ∃ r ∈ requests, p r.scope ∧ r.window = m
  /-- None of the tags was requested with a greater one. -/
  le : ∀ r ∈ requests, p r.scope → r.window.rank ≤ m.rank

theorem greatest_windowsFor_eq_some_iff {requests : List (ScopeRequest S)} {p : S → Bool}
    {m : PageWindow} : greatest (windowsFor requests p) = some m ↔
      IsGreatestFor requests (p · = true) m := by
  rw [greatest_eq_some_iff, mem_windowsFor]
  constructor
  · rintro ⟨hmem, hall⟩
    refine ⟨hmem, fun r hr hp => (precedes_iff_rank_le _ _).1 (hall _ ?_)⟩
    exact mem_windowsFor.2 ⟨r, hr, hp, rfl⟩
  · rintro ⟨hmem, hall⟩
    refine ⟨hmem, fun u hu => (precedes_iff_rank_le _ _).2 ?_⟩
    obtain ⟨r, hr, hp, rfl⟩ := mem_windowsFor.1 hu
    exact hall r hr hp

/-- Where one of some tags was requested, one of the windows is the greatest. -/
theorem exists_greatest {requests : List (ScopeRequest S)} {p : S → Bool}
    (h : ∃ r ∈ requests, p r.scope = true) :
    ∃ m, greatest (windowsFor requests p) = some m := by
  cases hg : greatest (windowsFor requests p) with
  | some m => exact ⟨m, rfl⟩
  | none =>
    obtain ⟨r, hr, hp⟩ := h
    have hnone := greatest_windowsFor_eq_none_iff.1 hg r hr
    rw [hp] at hnone
    cases hnone

variable [DecidableEq S] [Tag S]

/-- What a list of requests asks for, tag by tag. -/
structure Answers (set : ResolvedScopes S) (requests : List (ScopeRequest S)) : Prop where
  /-- A tag that stands for all others is not present itself. -/
  all_absent : ∀ t, Tag.isAll t = true → set.window? t = none
  /-- A tag that was named has the greatest window that it was named with. -/
  of_named : ∀ t, Tag.isAll t = false → (∃ r ∈ requests, r.scope = t) →
    ∃ m, set.window? t = some m ∧ IsGreatestFor requests (· = t) m
  /-- A tag that was not named has the greatest window that all tags were requested with. -/
  of_all : ∀ t, Tag.isAll t = false → (∀ r ∈ requests, r.scope ≠ t) →
    (∃ r ∈ requests, Tag.isAll r.scope = true) →
      ∃ m, set.window? t = some m ∧ IsGreatestFor requests (Tag.isAll · = true) m
  /-- A tag that nobody requested, by name or with all others, is absent. -/
  absent : ∀ t, (∀ r ∈ requests, r.scope ≠ t ∧ Tag.isAll r.scope = false) → set.window? t = none
  /-- The tags that are listed are those that have a window. -/
  mem_tags : ∀ t, t ∈ set.tags ↔ ∃ w, set.window? t = some w
  /-- They are listed in the order of the catalogue, each once. -/
  tags_increasing : set.tags.Pairwise fun s t =>
    (Tag.catalogue : List S).idxOf s < (Tag.catalogue : List S).idxOf t

/-- Requests with those for all tags spelled out: each of them is left out, and every other tag that
was not named is requested with the given window. -/
def spelledOut (requests : List (ScopeRequest S)) (w : PageWindow) : List (ScopeRequest S) :=
  requests.filter (fun r => !Tag.isAll r.scope) ++
    ((Tag.catalogue : List S).filter fun t => !Tag.isAll t && requests.all (·.scope ≠ t)).map
      (.ofWindow · w)

theorem idxOf_lt_of_pairwise_tags (set : ResolvedScopes S) : set.tags.Pairwise fun s t =>
    (Tag.catalogue : List S).idxOf s < (Tag.catalogue : List S).idxOf t := by
  have hcatalogue : (Tag.catalogue : List S).Pairwise fun s t =>
      (Tag.catalogue : List S).idxOf s < (Tag.catalogue : List S).idxOf t := by
    rw [List.pairwise_iff_getElem]
    intro i j hi hj hij
    rw [Tag.nodup_catalogue.idxOf_getElem, Tag.nodup_catalogue.idxOf_getElem]
    exact hij
  exact hcatalogue.sublist List.filter_sublist

theorem resolve_answers (requests : List (ScopeRequest S)) :
    (resolve requests).Answers requests where
  all_absent t hall := by rw [resolve_window?, if_pos hall]
  of_named t hall hnamed := by
    have hname : ∃ r ∈ requests, (r.scope == t) = true := by simpa using hnamed
    obtain ⟨m, hm⟩ := exists_greatest (p := (· == t)) hname
    refine ⟨m, ?_, ?_⟩
    · rw [resolve_window?, if_neg (by simp [hall]), hm]
      rfl
    · simpa using greatest_windowsFor_eq_some_iff.1 hm
  of_all t hall hunnamed hrequested := by
    have hnone : greatest (windowsFor requests (· == t)) = none :=
      greatest_windowsFor_eq_none_iff.2 fun r hr => by simpa using hunnamed r hr
    obtain ⟨m, hm⟩ := exists_greatest hrequested
    refine ⟨m, ?_, greatest_windowsFor_eq_some_iff.1 hm⟩
    rw [resolve_window?, if_neg (by simp [hall]), hnone, hm]
    rfl
  absent t hnobody := by
    have hname : greatest (windowsFor requests (· == t)) = none :=
      greatest_windowsFor_eq_none_iff.2 fun r hr => by simpa using (hnobody r hr).1
    have hall : greatest (windowsFor requests Tag.isAll) = none :=
      greatest_windowsFor_eq_none_iff.2 fun r hr => (hnobody r hr).2
    rw [resolve_window?, hname, hall]
    simp
  mem_tags t := by rw [ResolvedScopes.mem_tags, contains, Option.isSome_iff_exists]
  tags_increasing := idxOf_lt_of_pairwise_tags _

/-! ## Requests for all tags -/

variable {requests : List (ScopeRequest S)} {w : PageWindow}

theorem mem_spelledOut {r : ScopeRequest S} : r ∈ spelledOut requests w ↔
    (r ∈ requests ∧ Tag.isAll r.scope = false) ∨
      (Tag.isAll r.scope = false ∧ (∀ r' ∈ requests, r'.scope ≠ r.scope) ∧ r.window = w) := by
  have hwindow : ∀ t : S, ScopeRequest.ofWindow t w = r ↔ t = r.scope ∧ r.window = w := by
    obtain ⟨scope, size, cursor⟩ := r
    obtain ⟨size', cursor'⟩ := w
    intro t
    simp [ScopeRequest.ofWindow, ScopeRequest.window, eq_comm]
  simp only [spelledOut, List.mem_append, List.mem_filter, List.mem_map, hwindow, Tag.mem_catalogue,
    Bool.not_eq_true', Bool.and_eq_true, List.all_eq_true, decide_eq_true_eq, true_and]
  constructor
  · rintro (h | ⟨t, ⟨hall, hunnamed⟩, rfl, hw⟩)
    · exact Or.inl h
    · exact Or.inr ⟨hall, hunnamed, hw⟩
  · rintro (h | ⟨hall, hunnamed, hw⟩)
    · exact Or.inl h
    · exact Or.inr ⟨r.scope, ⟨hall, hunnamed⟩, rfl, hw⟩

/-- A tag that was named keeps its requests, and any other one gets a single request. -/
theorem mem_windowsFor_spelledOut {t : S} (hall : Tag.isAll t = false) {u : PageWindow} :
    u ∈ windowsFor (spelledOut requests w) (· == t) ↔
      u ∈ windowsFor requests (· == t) ∨ ((∀ r ∈ requests, r.scope ≠ t) ∧ u = w) := by
  simp only [mem_windowsFor, mem_spelledOut, beq_iff_eq]
  constructor
  · rintro ⟨r, ⟨hr, -⟩ | ⟨-, hunnamed, hw⟩, rfl, rfl⟩
    · exact Or.inl ⟨r, hr, rfl, rfl⟩
    · exact Or.inr ⟨hunnamed, hw⟩
  · rintro (⟨r, hr, rfl, rfl⟩ | ⟨hunnamed, rfl⟩)
    · exact ⟨r, Or.inl ⟨hr, hall⟩, rfl, rfl⟩
    · exact ⟨.ofWindow t u, Or.inr ⟨hall, hunnamed, rfl⟩, rfl, rfl⟩

theorem resolve_spelledOut (h : IsGreatestFor requests (Tag.isAll · = true) w) :
    resolve (spelledOut requests w) = resolve requests := by
  have hall : greatest (windowsFor requests Tag.isAll) = some w :=
    greatest_windowsFor_eq_some_iff.2 h
  have hnoAll : greatest (windowsFor (spelledOut requests w) Tag.isAll) = none := by
    refine greatest_windowsFor_eq_none_iff.2 fun r hr => ?_
    rcases mem_spelledOut.1 hr with ⟨-, hr⟩ | ⟨hr, -⟩ <;> exact hr
  apply ext_window?
  intro t
  rw [resolve_window?, resolve_window?, hnoAll, hall, Option.or_none]
  split
  · rfl
  · next hother =>
    have hmem : ∀ u, u ∈ windowsFor (spelledOut requests w) (· == t) ↔
        u ∈ windowsFor requests (· == t) ∨ ((∀ r ∈ requests, r.scope ≠ t) ∧ u = w) := fun _ =>
      mem_windowsFor_spelledOut (Bool.eq_false_iff.2 hother)
    cases hname : greatest (windowsFor requests (· == t)) with
    | none =>
      -- nobody named the tag, so that its only request is the one that was added
      have hunnamed : ∀ r ∈ requests, r.scope ≠ t := fun r hr => by
        simpa using greatest_windowsFor_eq_none_iff.1 hname r hr
      have hwindows : windowsFor requests (· == t) = [] := greatest_eq_none_iff.1 hname
      have hcongr : greatest (windowsFor (spelledOut requests w) (· == t)) = greatest [w] :=
        greatest_congr fun u => (hmem u).trans (by simpa [hwindows] using fun _ => hunnamed)
      rw [hcongr]
      rfl
    | some m =>
      obtain ⟨r, hr, hscope, -⟩ := (greatest_windowsFor_eq_some_iff.1 hname).requested
      have hnamed : ¬ ∀ r ∈ requests, r.scope ≠ t := fun hno => hno r hr (by simpa using hscope)
      have hcongr : greatest (windowsFor (spelledOut requests w) (· == t)) =
          greatest (windowsFor requests (· == t)) :=
        greatest_congr fun u => (hmem u).trans (by simp [hnamed])
      rw [hcongr, hname]
      rfl

/-- Resolving gives every tag what the requests ask for, and requests for all tags can be spelled
out: any list that has the same requests for single tags, and instead of those for all tags one with
their greatest window for every tag that was not named, resolves to the same. -/
theorem resolve_chooses_greatest (requests : List (ScopeRequest S)) :
    (resolve requests).Answers requests ∧
    ∀ (w : PageWindow) (requests' : List (ScopeRequest S)),
      IsGreatestFor requests (Tag.isAll · = true) w →
      (∀ r, r ∈ requests' ↔ r ∈ spelledOut requests w) →
        resolve requests' = resolve requests := by
  refine ⟨resolve_answers requests, fun w requests' hgreatest hmem => ?_⟩
  exact (resolve_congr hmem).trans (resolve_spelledOut hgreatest)

/-- Topics named twice keep their own small pages although all scopes were requested with greater
ones, of which the later cursor decides. -/
theorem resolve_chooses_greatest_of_repeated :
    let two : PageSize := { value := 2 }
    let all (cursor : String) : ScopeRequest RepositoryScope := ⟨.all, two, .ofString cursor⟩
    let topics (cursor : String) : ScopeRequest RepositoryScope := ⟨.topics, .one, .ofString cursor⟩
    let requests := [all "a", topics "x", all "b", topics "null", all ""]
    let w : PageWindow := ⟨two, .ofString "b"⟩
    (IsGreatestFor requests (Tag.isAll · = true) w ∧
      resolve (spelledOut requests w) = resolve requests) ∧
    (resolve requests).Answers requests ∧
    (resolve requests).window? .topics = some ⟨.one, .ofString "x"⟩ ∧
    (resolve requests).window? .labels = some w := by
  intro two all topics requests w
  have hle : ∀ r ∈ requests, Tag.isAll r.scope = true → r.window.precedes w = true := by decide
  have hgreatest : IsGreatestFor requests (Tag.isAll · = true) w :=
    ⟨⟨all "b", by decide, by decide, by decide⟩,
      fun r hr hall => (precedes_iff_rank_le _ _).1 (hle r hr hall)⟩
  obtain ⟨hanswers, hspelled⟩ := resolve_chooses_greatest requests
  exact ⟨⟨hgreatest, hspelled w _ hgreatest fun r => Iff.rfl⟩, hanswers, by decide, by decide⟩

end ResolvedScopes

end ScopeComposer
