import Mathlib.Data.List.Basic
import ScopeComposer.Paging.Window

/-!
# The order of page windows

Windows are in a linear order: by page size, and among equal sizes by cursor. So a list of windows
has one greatest window, which depends neither on the order of the list nor on repetitions.
-/

namespace ScopeComposer

/-! ## Cursors -/

namespace Cursor

theorem ext_value {a b : Cursor} (h : a.value = b.value) : a = b := by
  cases a
  cases b
  cases h
  rfl

/-- Any two cursors are in order one way or the other, since they are compared as texts. -/
theorem precedes_total (a b : Cursor) : a.precedes b = true ∨ b.precedes a = true := by
  unfold precedes
  cases a.value with
  | none => exact Or.inl rfl
  | some s =>
    cases b.value with
    | none => exact Or.inr rfl
    | some t => simpa using String.le_total s t

theorem precedes_antisymm {a b : Cursor} (hab : a.precedes b = true) (hba : b.precedes a = true) :
    a = b := by
  unfold precedes at hab hba
  apply ext_value
  cases ha : a.value with
  | none =>
    cases hb : b.value with
    | none => rfl
    | some t => simp [ha, hb] at hba
  | some s =>
    cases hb : b.value with
    | none => simp [ha, hb] at hab
    | some t =>
      simp only [ha, hb, decide_eq_true_eq] at hab hba
      rw [String.le_antisymm hab hba]

theorem precedes_trans {a b c : Cursor} (hab : a.precedes b = true) (hbc : b.precedes c = true) :
    a.precedes c = true := by
  unfold precedes at hab hbc ⊢
  cases ha : a.value with
  | none => rfl
  | some s =>
    cases hb : b.value with
    | none => simp [ha, hb] at hab
    | some t =>
      cases hc : c.value with
      | none => simp [hb, hc] at hbc
      | some u =>
        simp only [ha, hb, hc, decide_eq_true_eq] at hab hbc ⊢
        exact String.le_trans hab hbc

end Cursor

/-! ## Windows -/

namespace PageWindow

/-- Windows are compared by their sizes, and by their cursors where the sizes are equal. -/
theorem precedes_iff (a b : PageWindow) : a.precedes b = true ↔
    a.pageSize.value < b.pageSize.value ∨ (a.pageSize.value = b.pageSize.value ∧
      a.continueAfter.precedes b.continueAfter = true) := by
  simp [precedes]

theorem ext_parts {a b : PageWindow} (hsize : a.pageSize.value = b.pageSize.value)
    (hcursor : a.continueAfter = b.continueAfter) : a = b := by
  obtain ⟨⟨size, _, _⟩, cursor⟩ := a
  obtain ⟨⟨size', _, _⟩, cursor'⟩ := b
  cases hsize
  cases hcursor
  rfl

theorem precedes_total (a b : PageWindow) : a.precedes b = true ∨ b.precedes a = true := by
  rw [precedes_iff, precedes_iff]
  rcases Nat.lt_trichotomy a.pageSize.value b.pageSize.value with hlt | heq | hgt
  · exact Or.inl (Or.inl hlt)
  · rcases Cursor.precedes_total a.continueAfter b.continueAfter with h | h
    · exact Or.inl (Or.inr ⟨heq, h⟩)
    · exact Or.inr (Or.inr ⟨heq.symm, h⟩)
  · exact Or.inr (Or.inl hgt)

theorem precedes_antisymm {a b : PageWindow} (hab : a.precedes b = true)
    (hba : b.precedes a = true) : a = b := by
  rw [precedes_iff] at hab hba
  rcases hab with hlt | ⟨hsize, hcursor⟩
  · omega
  · rcases hba with hlt | ⟨-, hcursor'⟩
    · omega
    · exact ext_parts hsize (Cursor.precedes_antisymm hcursor hcursor')

theorem precedes_trans {a b c : PageWindow} (hab : a.precedes b = true)
    (hbc : b.precedes c = true) : a.precedes c = true := by
  rw [precedes_iff] at hab hbc ⊢
  rcases hab with hlt | ⟨hsize, hcursor⟩
  · exact Or.inl (by omega)
  · rcases hbc with hlt | ⟨hsize', hcursor'⟩
    · exact Or.inl (by omega)
    · exact Or.inr ⟨hsize.trans hsize', Cursor.precedes_trans hcursor hcursor'⟩

/-- The greater of two windows is one of them, and both come before or with it. -/
theorem max_spec (a b : PageWindow) : (a.max b = a ∨ a.max b = b) ∧
    a.precedes (a.max b) = true ∧ b.precedes (a.max b) = true := by
  have hrefl : ∀ w : PageWindow, w.precedes w = true := fun w => by
    rcases precedes_total w w with h | h <;> exact h
  unfold PageWindow.max
  by_cases hab : a.precedes b = true
  · rw [if_pos hab]
    exact ⟨Or.inr rfl, hab, hrefl b⟩
  · rw [if_neg hab]
    exact ⟨Or.inl rfl, hrefl a, (precedes_total a b).resolve_left hab⟩

/-! ## The greatest window of a list -/

/-- The greatest of some windows, if there are any. -/
def greatest : List PageWindow → Option PageWindow
  | [] => none
  | w :: ws => some (ws.foldl PageWindow.max w)

/-- The greatest window is one of those that were compared, and none of them comes after it. -/
theorem foldl_max_spec (w : PageWindow) (ws : List PageWindow) :
    ws.foldl PageWindow.max w ∈ w :: ws ∧
      ∀ u ∈ w :: ws, u.precedes (ws.foldl PageWindow.max w) = true := by
  induction ws generalizing w with
  | nil =>
    refine ⟨by simp, fun u hu => ?_⟩
    obtain rfl : u = w := by simpa using hu
    rcases precedes_total u u with h | h <;> exact h
  | cons v ws ih =>
    obtain ⟨hmem, hall⟩ := ih (w.max v)
    obtain ⟨hmax, hw, hv⟩ := max_spec w v
    rw [List.foldl_cons]
    refine ⟨?_, fun u hu => ?_⟩
    · rcases List.mem_cons.1 hmem with heq | hin
      · rw [heq]
        rcases hmax with h | h <;> simp [h]
      · exact List.mem_cons_of_mem _ (List.mem_cons_of_mem _ hin)
    · have htop := hall _ List.mem_cons_self
      rcases List.mem_cons.1 hu with rfl | hu
      · exact precedes_trans hw htop
      · rcases List.mem_cons.1 hu with rfl | hu
        · exact precedes_trans hv htop
        · exact hall u (List.mem_cons_of_mem _ hu)

/-- The greatest window is the one of the list that all others come before. -/
theorem greatest_eq_some_iff {ws : List PageWindow} {m : PageWindow} :
    greatest ws = some m ↔ m ∈ ws ∧ ∀ u ∈ ws, u.precedes m = true := by
  cases ws with
  | nil => simp [greatest]
  | cons w ws =>
    obtain ⟨hmem, hall⟩ := foldl_max_spec w ws
    constructor
    · intro h
      obtain rfl := Option.some.inj h
      exact ⟨hmem, hall⟩
    · rintro ⟨hm, hbound⟩
      exact congrArg some (precedes_antisymm (hbound _ hmem) (hall m hm))

/-- Some window is chosen as soon as there is one. -/
theorem greatest_eq_none_iff {ws : List PageWindow} : greatest ws = none ↔ ws = [] := by
  cases ws <;> simp [greatest]

/-- Which window is the greatest depends on the set of windows only. -/
theorem greatest_congr {ws us : List PageWindow} (h : ∀ w, w ∈ ws ↔ w ∈ us) :
    greatest ws = greatest us := by
  cases hws : greatest ws with
  | none =>
    obtain rfl := greatest_eq_none_iff.1 hws
    have hus : us = [] := List.eq_nil_iff_forall_not_mem.2 fun w hw => by simpa using (h w).2 hw
    rw [hus]
    rfl
  | some m =>
    obtain ⟨hm, hall⟩ := greatest_eq_some_iff.1 hws
    exact (greatest_eq_some_iff.2 ⟨(h m).1 hm, fun u hu => hall u ((h u).2 hu)⟩).symm

end PageWindow

end ScopeComposer
