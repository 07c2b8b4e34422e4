import ScopeComposer.Proofs.Scope.Resolved

/-!
# Requests without their cursors

Masking keeps of a cursor only whether there is one. Which tags are present and how large their
pages are does not depend on what cursors say: resolving requests and masking them can be done in
either order. The greatest of several windows may well be another one after masking, since cursors
are compared by their texts, but only one with a page of the same size and a cursor as well.
-/

namespace ScopeComposer

/-- A cursor without its text. -/
def Cursor.masked (c : Cursor) : Cursor where
  value := c.value.map fun _ => "x"
  not_placeholder := by
    intro s hs
    obtain ⟨_, -, rfl⟩ := Option.map_eq_some_iff.1 hs
    decide

/-- A window without the text of its cursor. -/
def PageWindow.masked (w : PageWindow) : PageWindow := ⟨w.pageSize, w.continueAfter.masked⟩

/-- A request without the text of its cursor. -/
def ScopeRequest.masked {S : Type} (r : ScopeRequest S) : ScopeRequest S :=
  ⟨r.scope, r.pageSize, r.continueAfter.masked⟩

namespace PageWindow

/-- Masking keeps the order, though it may make windows equal. -/
theorem masked_precedes {a b : PageWindow} (h : a.precedes b = true) :
    a.masked.precedes b.masked = true := by
  rw [precedes_iff] at h ⊢
  refine h.imp_right fun hsame => ⟨hsame.1, ?_⟩
  have hcursor := hsame.2
  unfold Cursor.precedes at hcursor ⊢
  cases ha : a.continueAfter.value with
  | none => simp [masked, Cursor.masked, ha]
  | some s =>
    cases hb : b.continueAfter.value with
    | none => simp [ha, hb] at hcursor
    | some t => simp [masked, Cursor.masked, ha, hb]

/-- Where only the texts of their cursors tell two windows apart, they are one window when masked.
-/
theorem masked_max (a b : PageWindow) : (a.max b).masked = a.masked.max b.masked := by
  unfold PageWindow.max
  by_cases hab : a.precedes b = true
  · rw [if_pos hab, if_pos (masked_precedes hab)]
  · have hba := masked_precedes ((precedes_total a b).resolve_left hab)
    rw [if_neg hab]
    by_cases hmasked : a.masked.precedes b.masked = true
    · -- only the texts of the cursors told the windows apart
      rw [if_pos hmasked]
      exact precedes_antisymm hmasked hba
    · rw [if_neg hmasked]

/-- The window that is chosen from masked ones is the chosen one, masked. -/
theorem greatest_masked (ws : List PageWindow) :
    greatest (ws.map masked) = (greatest ws).map masked := by
  cases ws with
  | nil => rfl
  | cons w ws =>
    have hfold : ∀ (ws : List PageWindow) (w : PageWindow),
        (ws.map masked).foldl PageWindow.max w.masked = (ws.foldl PageWindow.max w).masked := by
      intro ws
      induction ws with
      | nil => exact fun w => rfl
      | cons v ws ih =>
        intro w
        rw [List.map_cons, List.foldl_cons, List.foldl_cons, ← masked_max, ih]
    exact congrArg some (hfold ws w)

end PageWindow

namespace ResolvedScopes

variable {S : Type}

/-- Resolved scopes without the texts of the cursors. -/
def masked (set : ResolvedScopes S) : ResolvedScopes S where
  window? t := (set.window? t).map PageWindow.masked

theorem contains_masked (set : ResolvedScopes S) : set.masked.contains = set.contains := by
  funext t
  exact Option.isSome_map

/-- A tag that is not there has the same window by default in both sets. -/
theorem windowOf_masked (set : ResolvedScopes S) (t : S) :
    set.masked.windowOf t = (set.windowOf t).masked := by
  unfold windowOf masked
  dsimp only
  cases set.window? t <;> rfl

theorem windowsFor_masked (requests : List (ScopeRequest S)) (p : S → Bool) :
    windowsFor (requests.map ScopeRequest.masked) p =
      (windowsFor requests p).map PageWindow.masked := by
  have hcomp : (fun r : ScopeRequest S => p r.scope) ∘ ScopeRequest.masked =
      fun r => p r.scope := rfl
  unfold windowsFor
  rw [List.filter_map, hcomp, List.map_map, List.map_map]
  rfl

variable [DecidableEq S]

/-- Whether a tag is there does not depend on windows, so that the same tags are added. -/
theorem addIfAbsent_masked (set : ResolvedScopes S) (t : S) (w : PageWindow) :
    (set.addIfAbsent t w).masked = set.masked.addIfAbsent t w.masked := by
  apply ext_window?
  intro u
  unfold addIfAbsent masked
  dsimp only
  split
  · cases set.window? t <;> rfl
  · rfl

variable [Tag S]

/-- Masking changes windows only, never which tags there are. -/
theorem tags_masked (set : ResolvedScopes S) : set.masked.tags = set.tags := by
  rw [tags, contains_masked, tags]

theorem isEmpty_masked (set : ResolvedScopes S) : set.masked.isEmpty = set.isEmpty := by
  rw [isEmpty, tags_masked, isEmpty]

theorem asksNumber_masked (set : ResolvedScopes S) : set.masked.asksNumber = set.asksNumber := by
  rw [asksNumber, tags_masked, asksNumber]

theorem asksOnlyNumber_masked (set : ResolvedScopes S) :
    set.masked.asksOnlyNumber = set.asksOnlyNumber := by
  rw [asksOnlyNumber, tags_masked, asksOnlyNumber]

/-- Masked requests resolve to the masked scopes. -/
theorem resolve_masked (requests : List (ScopeRequest S)) :
    resolve (requests.map ScopeRequest.masked) = (resolve requests).masked := by
  apply ext_window?
  intro t
  unfold masked
  dsimp only
  rw [resolve_window?, resolve_window?, windowsFor_masked, windowsFor_masked,
    PageWindow.greatest_masked, PageWindow.greatest_masked]
  by_cases hall : Tag.isAll t = true
  · rw [if_pos hall, if_pos hall]
    rfl
  · rw [if_neg hall, if_neg hall]
    cases PageWindow.greatest (windowsFor requests (· == t)) <;> rfl

end ResolvedScopes

end ScopeComposer
