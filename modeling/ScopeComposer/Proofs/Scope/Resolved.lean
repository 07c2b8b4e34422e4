import ScopeComposer.Proofs.Paging.Window
import ScopeComposer.Scope.Resolved

/-!
# What requests resolve to

Requests are entered one after the other; what comes out of it is said here without any order. The
window of a tag is the greatest of the windows that the tag was requested with, and if it was not
requested by name, the greatest of those that all tags were requested with. A tag that stands for
all others is never present itself.
-/

namespace ScopeComposer.ResolvedScopes

open PageWindow

variable {S : Type}

theorem ext_window? {set set' : ResolvedScopes S} (h : ∀ t, set.window? t = set'.window? t) :
    set = set' := by
  cases set
  cases set'
  exact congrArg ResolvedScopes.mk (funext h)

/-- The windows of the requests for certain tags. -/
def windowsFor (requests : List (ScopeRequest S)) (p : S → Bool) : List PageWindow :=
  (requests.filter fun r => p r.scope).map ScopeRequest.window

theorem mem_windowsFor {requests : List (ScopeRequest S)} {p : S → Bool} {w : PageWindow} :
    w ∈ windowsFor requests p ↔ ∃ r ∈ requests, p r.scope = true ∧ r.window = w := by
  simp [windowsFor, and_assoc]

theorem greatest_windowsFor_eq_none_iff {requests : List (ScopeRequest S)} {p : S → Bool} :
    greatest (windowsFor requests p) = none ↔ ∀ r ∈ requests, p r.scope = false := by
  rw [greatest_eq_none_iff]
  simp [windowsFor]

theorem windowsFor_cons (r : ScopeRequest S) (requests : List (ScopeRequest S)) (p : S → Bool) :
    windowsFor (r :: requests) p =
      (if p r.scope then [r.window] else []) ++ windowsFor requests p := by
  by_cases h : p r.scope = true <;> simp [windowsFor, h]

theorem windowsFor_append_singleton (requests : List (ScopeRequest S)) (r : ScopeRequest S)
    (p : S → Bool) : windowsFor (requests ++ [r]) p =
      windowsFor requests p ++ if p r.scope then [r.window] else [] := by
  by_cases h : p r.scope = true <;> simp [windowsFor, h]

theorem greatest_append_singleton (ws : List PageWindow) (w : PageWindow) :
    greatest (ws ++ [w]) = some (greater (greatest ws) w) := by
  cases ws with
  | nil => rfl
  | cons v ws => simp [greatest, greater, List.foldl_append]

variable [DecidableEq S]

/-! ## Adding -/

theorem addIfAbsent_window? (set : ResolvedScopes S) (tag : S) (w : PageWindow) (t : S) :
    (set.addIfAbsent tag w).window? t = (set.window? t).or (if t = tag then some w else none) := by
  by_cases ht : t = tag
  · subst ht
    cases hw : set.window? t <;> simp [addIfAbsent, hw]
  · simp [addIfAbsent, ht]

/-- Adds tags one after the other, each unless it is present by then. -/
def addEach (set : ResolvedScopes S) (steps : List (S × PageWindow)) : ResolvedScopes S :=
  steps.foldl (fun set step => set.addIfAbsent step.1 step.2) set

/-- What was there first counts, and after that the first step that names the tag. -/
theorem addEach_window? (set : ResolvedScopes S) (steps : List (S × PageWindow)) (t : S) :
    (set.addEach steps).window? t = (set.window? t).or (steps.lookup t) := by
  induction steps generalizing set with
  | nil => simp [addEach]
  | cons step steps ih =>
    obtain ⟨tag, w⟩ := step
    have hrest : (set.addEach ((tag, w) :: steps)).window? t =
        ((set.addIfAbsent tag w).addEach steps).window? t := rfl
    rw [hrest, ih, addIfAbsent_window?, Option.or_assoc, List.lookup_cons]
    by_cases ht : t = tag
    · simp [ht]
    · have hother : (t == tag) = false := beq_eq_false_iff_ne.2 ht
      simp [ht, hother]

theorem lookup_map_window (ts : List S) (w : PageWindow) (t : S) :
    (ts.map (·, w)).lookup t = if t ∈ ts then some w else none := by
  induction ts with
  | nil => rfl
  | cons u ts ih =>
    rw [List.map_cons, List.lookup_cons, ih]
    by_cases hu : t = u
    · simp [hu]
    · have hother : (t == u) = false := beq_eq_false_iff_ne.2 hu
      simp [hu, hother]

variable [Tag S]

/-! ## Gathering -/

/-- What has been gathered from certain requests. -/
structure Gathered.Holds (g : Gathered S) (requests : List (ScopeRequest S)) : Prop where
  /-- The greatest window of the requests for all tags. -/
  everything : g.everything = greatest (windowsFor requests Tag.isAll)
  /-- The greatest window of the requests for each tag. -/
  named : ∀ t, g.named.window? t =
    if Tag.isAll t then none else greatest (windowsFor requests (· == t))

/-- Entering a request adds it to those that were gathered. -/
theorem Gathered.Holds.enter {g : Gathered S} {requests : List (ScopeRequest S)}
    (h : g.Holds requests) (r : ScopeRequest S) : (g.enter r).Holds (requests ++ [r]) := by
  unfold Gathered.enter
  by_cases hall : Tag.isAll r.scope = true
  · rw [if_pos hall]
    refine ⟨?_, fun t => ?_⟩
    · rw [windowsFor_append_singleton, if_pos hall, greatest_append_singleton, ← h.everything]
    · rw [windowsFor_append_singleton]
      by_cases ht : r.scope = t
      · -- the tag stands for all others, so that it is not entered by name
        subst ht
        rw [h.named, if_pos hall, if_pos hall]
      · rw [h.named]
        simp [ht]
  · rw [if_neg hall]
    refine ⟨?_, fun t => ?_⟩
    · rw [windowsFor_append_singleton, if_neg hall, List.append_nil]
      exact h.everything
    · rw [windowsFor_append_singleton]
      by_cases ht : r.scope = t
      · subst ht
        have hnamed := h.named r.scope
        rw [if_neg hall] at hnamed ⊢
        simp [raise, hnamed, greatest_append_singleton]
      · have ht' : ¬ t = r.scope := fun heq => ht heq.symm
        simp [raise, ht, ht', h.named]

/-- After all requests have been entered, they are gathered. -/
theorem gathered_holds (requests : List (ScopeRequest S)) :
    (requests.foldl Gathered.enter ⟨empty, none⟩).Holds requests := by
  have hstart : (⟨empty, none⟩ : Gathered S).Holds [] := ⟨rfl, fun t => by simp [empty, windowsFor,
    greatest]⟩
  have hrun : ∀ (more done : List (ScopeRequest S)) (g : Gathered S), g.Holds done →
      (more.foldl Gathered.enter g).Holds (done ++ more) := by
    intro more
    induction more with
    | nil =>
      intro done g hg
      simpa using hg
    | cons r more ih =>
      intro done g hg
      simpa using ih (done ++ [r]) (g.enter r) (hg.enter r)
  exact hrun requests [] _ hstart

/-! ## Filling -/

theorem fill_window? (set : ResolvedScopes S) (w : PageWindow) (t : S) :
    (set.fill w).window? t =
      if Tag.isAll t then set.window? t else some ((set.window? t).getD w) := by
  have hsteps : set.fill w =
      set.addEach (((Tag.catalogue : List S).filter fun t => !Tag.isAll t).map (·, w)) := by
    rw [addEach, List.foldl_map]
    rfl
  rw [hsteps, addEach_window?, lookup_map_window]
  by_cases hall : Tag.isAll t = true
  · simp [hall]
  · cases set.window? t <;> simp [hall, Tag.mem_catalogue]

/-! ## Resolving -/

theorem resolve_window? (requests : List (ScopeRequest S)) (t : S) :
    (resolve requests).window? t = if Tag.isAll t then none
      else (greatest (windowsFor requests (· == t))).or
        (greatest (windowsFor requests Tag.isAll)) := by
  obtain ⟨heverything, hnamed⟩ := gathered_holds requests
  unfold resolve
  dsimp only
  rw [← heverything]
  cases (requests.foldl Gathered.enter ⟨empty, none⟩).everything with
  | none => simp [hnamed]
  | some w =>
    rw [fill_window?, hnamed]
    by_cases hall : Tag.isAll t = true
    · simp [hall]
    · cases greatest (windowsFor requests (· == t)) <;> simp [hall]

/-- A tag is present if it was requested by name or with all others; a tag that stands for all
others is not. -/
theorem contains_resolve {requests : List (ScopeRequest S)} {t : S} :
    (resolve requests).contains t = true ↔ Tag.isAll t = false ∧
      ∃ r ∈ requests, r.scope = t ∨ Tag.isAll r.scope = true := by
  rw [contains, resolve_window?]
  by_cases hall : Tag.isAll t = true
  · simp [hall]
  · rw [if_neg hall, Option.isSome_iff_ne_none, ne_eq, Option.or_eq_none_iff,
      greatest_windowsFor_eq_none_iff, greatest_windowsFor_eq_none_iff]
    simp only [hall, true_and, beq_eq_false_iff_ne]
    constructor
    · intro h
      by_contra hno
      push Not at hno
      exact h ⟨fun r hr => (hno r hr).1, fun r hr => by simpa using (hno r hr).2⟩
    · rintro ⟨r, hr, heq | hrall⟩ ⟨hname, hevery⟩
      · exact hname r hr heq
      · rw [hevery r hr] at hrall
        cases hrall

/-- A tag that stands for all others is never present itself. -/
theorem contains_all (requests : List (ScopeRequest S)) {t : S} (h : Tag.isAll t = true) :
    (resolve requests).contains t = false := by
  rw [contains, resolve_window?, if_pos h]
  rfl

/-- What requests resolve to depends on the set of requests only. -/
theorem resolve_congr {requests requests' : List (ScopeRequest S)}
    (h : ∀ r, r ∈ requests ↔ r ∈ requests') : resolve requests = resolve requests' := by
  have hwindows : ∀ p : S → Bool,
      greatest (windowsFor requests p) = greatest (windowsFor requests' p) := by
    intro p
    apply greatest_congr
    intro w
    simp only [mem_windowsFor, h]
  apply ext_window?
  intro t
  rw [resolve_window?, resolve_window?, hwindows, hwindows]

theorem ofTags_congr {ts ts' : List S} (h : ∀ t, t ∈ ts ↔ t ∈ ts') : ofTags ts = ofTags ts' := by
  apply resolve_congr
  intro r
  simp only [List.mem_map, h]

/-- Where no tag stands for all others, plain tags resolve to themselves. -/
theorem contains_ofTags (hall : ∀ t : S, Tag.isAll t = false) {ts : List S} {t : S} :
    (ofTags ts).contains t = true ↔ t ∈ ts := by
  unfold ofTags
  rw [contains_resolve]
  simp [hall, ScopeRequest.plain, ScopeRequest.first]

/-! ## Tags -/

theorem mem_tags {set : ResolvedScopes S} {t : S} : t ∈ set.tags ↔ set.contains t = true := by
  simp [tags, Tag.mem_catalogue]

theorem tags_eq_of_contains {set set' : ResolvedScopes S}
    (h : ∀ t, set.contains t = set'.contains t) : set.tags = set'.tags := by
  unfold tags
  rw [funext h]

/-- What the present tags contribute, with the place of every tag of the catalogue in view. -/
theorem flatMap_tags {α : Type} (set : ResolvedScopes S) (f : S → List α) :
    set.tags.flatMap f =
      (Tag.catalogue : List S).flatMap fun t => if set.contains t then f t else [] := by
  unfold tags
  induction (Tag.catalogue : List S) with
  | nil => rfl
  | cons t ts ih =>
    rw [List.flatMap_cons, ← ih]
    by_cases ht : set.contains t = true <;> simp [ht]

end ScopeComposer.ResolvedScopes
