import ScopeComposer.Proofs.Scope.Choice

/-!
# Scopes that join others

Some scopes are implied by others and join those that were requested. Nothing is overwritten that
way: a tag that is present keeps its window, and where an absent tag is added several times, the
first time counts. So different tags can be added in any order, and adding an absent tag is the same
as requesting it after everything else.
-/

namespace ScopeComposer.ResolvedScopes

variable {S : Type} [DecidableEq S]

theorem addEach_swap (set : ResolvedScopes S) {s t : S} (h : s ≠ t) (v w : PageWindow) :
    set.addEach [(s, v), (t, w)] = set.addEach [(t, w), (s, v)] := by
  apply ext_window?
  intro u
  rw [addEach_window?, addEach_window?]
  congr 1
  by_cases hs : u = s
  · subst hs
    have hother : (u == t) = false := beq_eq_false_iff_ne.2 h
    simp [List.lookup_cons, hother]
  · have hother : (u == s) = false := beq_eq_false_iff_ne.2 hs
    simp [List.lookup_cons, hother]

/-- An addition can be made before others that do not name its tag. -/
theorem addEach_addIfAbsent (set : ResolvedScopes S) {steps : List (S × PageWindow)} {tag : S}
    (h : steps.lookup tag = none) (w : PageWindow) :
    (set.addEach steps).addIfAbsent tag w = (set.addIfAbsent tag w).addEach steps := by
  apply ext_window?
  intro t
  rw [addIfAbsent_window?, addEach_window?, addEach_window?, addIfAbsent_window?, Option.or_assoc,
    Option.or_assoc]
  by_cases ht : t = tag
  · simp [ht, h]
  · simp [ht]

variable [Tag S]

/-- Requesting an absent tag after everything else adds it. -/
theorem resolve_append_singleton {requests : List (ScopeRequest S)} {r : ScopeRequest S}
    (hall : Tag.isAll r.scope = false) (habsent : (resolve requests).window? r.scope = none) :
    resolve (requests ++ [r]) = (resolve requests).addIfAbsent r.scope r.window := by
  have hno : ¬ Tag.isAll r.scope = true := by simp [hall]
  apply ext_window?
  intro t
  rw [addIfAbsent_window?, resolve_window?, resolve_window?, windowsFor_append_singleton,
    windowsFor_append_singleton, if_neg hno, List.append_nil]
  by_cases ht : t = r.scope
  · subst ht
    rw [resolve_window?, if_neg hno, Option.or_eq_none_iff] at habsent
    simp [hno, greatest_append_singleton, habsent, greater]
  · have hother : (r.scope == t) = false := beq_eq_false_iff_ne.2 fun heq => ht heq.symm
    simp [ht, hother]

/-- What scopes amount to that were resolved from requests and joined by others in certain steps. -/
structure Joined (set : ResolvedScopes S) (requests : List (ScopeRequest S))
    (steps : List (S × PageWindow)) : Prop where
  /-- A tag that was resolved keeps its window. -/
  of_resolved : ∀ t m, (resolve requests).window? t = some m → set.window? t = some m
  /-- Any other tag has the window of the first step that names it. -/
  of_step : ∀ before t w after, (resolve requests).window? t = none →
    steps = before ++ (t, w) :: after → (∀ step ∈ before, step.1 ≠ t) → set.window? t = some w
  /-- A tag that was neither resolved nor named is absent. -/
  absent : ∀ t, (resolve requests).window? t = none → (∀ step ∈ steps, step.1 ≠ t) →
    set.window? t = none
  /-- The tags that are listed are those that have a window. -/
  mem_tags : ∀ t, t ∈ set.tags ↔ ∃ w, set.window? t = some w
  /-- They are listed in the order of the catalogue, each once. -/
  tags_increasing : set.tags.Pairwise fun s t =>
    (Tag.catalogue : List S).idxOf s < (Tag.catalogue : List S).idxOf t
  /-- The window in use of a tag that is present is its own. -/
  windowOf_present : ∀ t w, set.window? t = some w → set.windowOf t = w
  /-- The window in use of any other tag is the first ten. -/
  windowOf_absent : ∀ t, set.window? t = none →
    (set.windowOf t).pageSize.value = 10 ∧ (set.windowOf t).continueAfter.value = none

theorem joined_addEach (requests : List (ScopeRequest S)) (steps : List (S × PageWindow)) :
    ((resolve requests).addEach steps).Joined requests steps where
  of_resolved t m hm := by rw [addEach_window?, hm, Option.some_or]
  of_step before t w after hnone hsteps hbefore := by
    have hfirst : steps.lookup t = some w :=
      List.lookup_eq_some_iff.2 ⟨before, after, hsteps, fun step hstep => by
        simpa using (hbefore step hstep).symm⟩
    rw [addEach_window?, hnone, hfirst, Option.none_or]
  absent t hnone hsteps := by
    have hunnamed : steps.lookup t = none :=
      List.lookup_eq_none_iff.2 fun step hstep => by simpa using (hsteps step hstep).symm
    rw [addEach_window?, hnone, hunnamed, Option.none_or]
  mem_tags t := by rw [ResolvedScopes.mem_tags, contains, Option.isSome_iff_exists]
  tags_increasing := idxOf_lt_of_pairwise_tags _
  windowOf_present t w hw := by rw [windowOf, hw, Option.getD_some]
  windowOf_absent t hnone := by
    rw [windowOf, hnone, Option.getD_none]
    exact ⟨rfl, rfl⟩

/-- Adding scopes to what was resolved, in any number of steps, overwrites nothing, and at any point
different tags can be added in either order. Adding a tag that is still absent is the same as if it
had been requested after everything else. -/
theorem addEach_never_overwrites (requests : List (ScopeRequest S))
    (steps : List (S × PageWindow)) :
    let set := (resolve requests).addEach steps
    set.Joined requests steps ∧
    (∀ s t v w, s ≠ t → set.addEach [(s, v), (t, w)] = set.addEach [(t, w), (s, v)]) ∧
    ∀ t w, Tag.isAll t = false → set.window? t = none →
      set.addIfAbsent t w = (resolve (requests ++ [.ofWindow t w])).addEach steps := by
  intro set
  refine ⟨joined_addEach requests steps, fun s t v w h => addEach_swap set h v w, ?_⟩
  intro t w hall hnone
  obtain ⟨hresolved, hsteps⟩ := Option.or_eq_none_iff.1 ((addEach_window? _ _ _).symm.trans hnone)
  have hrequest : resolve (requests ++ [.ofWindow t w]) = (resolve requests).addIfAbsent t w :=
    resolve_append_singleton hall hresolved
  rw [hrequest]
  exact addEach_addIfAbsent _ hsteps w

/-- Issues were requested and keep their window; topics are added twice, and the tag that stands for
all others once, which does not add the others. -/
theorem addEach_never_overwrites_of_repeated :
    let two : PageSize := { value := 2 }
    let requests : List (ScopeRequest RepositoryScope) := [⟨.issues, two, .ofString "a"⟩]
    let w : PageWindow := .first two
    let steps : List (RepositoryScope × PageWindow) :=
      [(.topics, w), (.issues, w), (.all, .nested), (.topics, .nested)]
    let set := (resolve requests).addEach steps
    set.Joined requests steps ∧ set.tags = [.topics, .issues, .all] ∧
    set.window? .issues = some ⟨two, .ofString "a"⟩ ∧ set.window? .topics = some w ∧
    (Tag.isAll RepositoryScope.labels = false ∧ set.window? .labels = none) ∧
    set.addIfAbsent .labels w = (resolve (requests ++ [.ofWindow .labels w])).addEach steps := by
  intro two requests w steps set
  obtain ⟨hjoined, -, hrequested⟩ := addEach_never_overwrites requests steps
  have hlabels : set.window? .labels = none := by decide
  exact ⟨hjoined, by decide, by decide, by decide, ⟨rfl, hlabels⟩, hrequested .labels w rfl hlabels⟩

end ScopeComposer.ResolvedScopes
