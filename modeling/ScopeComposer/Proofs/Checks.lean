import Mathlib.Data.List.Forall2

/-!
# Checks

A check gives a result or reports a fault. Which fault is reported of several items is said without
the check: the leftmost one. This is so for a single item, and it is kept when every item of a list
is checked and when one check follows another.
-/

namespace ScopeComposer

/-! ## The leftmost fault -/

/-- A fault of the leftmost item that has one. -/
inductive Leftmost {α ε : Type} (fault : α → ε → Prop) : List α → ε → Prop where
  /-- The first item has the fault. -/
  | here {a : α} {rest : List α} {e : ε} (h : fault a e) : Leftmost fault (a :: rest) e
  /-- The first item has no fault, and the others count. -/
  | later {a : α} {rest : List α} {e : ε} (sound : ∀ e, ¬ fault a e)
    (h : Leftmost fault rest e) : Leftmost fault (a :: rest) e

section Reports

variable {α β γ ε : Type} {fault : α → ε → Prop} {a : α} {items rest : List α} {e : ε}

theorem not_leftmost_nil : ¬ Leftmost fault [] e := by
  rintro ⟨⟩

/-- Some item is the leftmost one as soon as there are items with faults at all. -/
theorem exists_leftmost : (∃ e, Leftmost fault items e) ↔ ∃ a ∈ items, ∃ e, fault a e := by
  induction items with
  | nil => simp [not_leftmost_nil]
  | cons a rest ih =>
    simp only [List.mem_cons, exists_eq_or_imp]
    constructor
    · rintro ⟨e, h⟩
      cases h with
      | here h => exact .inl ⟨e, h⟩
      | later sound h => exact .inr (ih.1 ⟨e, h⟩)
    · intro h
      by_cases hfirst : ∃ e, fault a e
      · obtain ⟨e, he⟩ := hfirst
        exact ⟨e, .here he⟩
      · obtain ⟨e, he⟩ := ih.2 (h.resolve_left hfirst)
        exact ⟨e, .later (not_exists.1 hfirst) he⟩

theorem leftmost_append : Leftmost fault (items ++ rest) e ↔
    Leftmost fault items e ∨ (∀ e, ¬ Leftmost fault items e) ∧ Leftmost fault rest e := by
  induction items with
  | nil => simp [not_leftmost_nil]
  | cons a items ih =>
    constructor
    · rintro (⟨h⟩ | ⟨sound, h⟩)
      · exact .inl (.here h)
      · rcases ih.1 h with h | ⟨hitems, h⟩
        · exact .inl (.later sound h)
        · refine .inr ⟨?_, h⟩
          rintro e (⟨h⟩ | ⟨-, h⟩)
          · exact sound e h
          · exact hitems e h
    · rintro (h | ⟨hnone, h⟩)
      · cases h with
        | here h => exact .here h
        | later sound h => exact .later sound (ih.2 (.inl h))
      · have hsound : ∀ e, ¬ fault a e := fun e h => hnone e (.here h)
        have hitems : ∀ e, ¬ Leftmost fault items e := fun e h => hnone e (.later hsound h)
        exact .later hsound (ih.2 (.inr ⟨hitems, h⟩))

/-- The leftmost item that has a fault has sound items before it. -/
theorem leftmost_iff :
    Leftmost fault items e ↔ ∃ before a after, items = before ++ a :: after ∧
      (∀ b ∈ before, ∀ e, ¬ fault b e) ∧ fault a e := by
  constructor
  · intro h
    induction h with
    | @here a rest e h => exact ⟨[], a, rest, rfl, by simp, h⟩
    | @later a rest e sound _ ih =>
      obtain ⟨before, b, after, rfl, hbefore, hb⟩ := ih
      exact ⟨a :: before, b, after, rfl, List.forall_mem_cons.2 ⟨sound, hbefore⟩, hb⟩
  · rintro ⟨before, a, after, rfl, hbefore, ha⟩
    induction before with
    | nil => exact .here ha
    | cons b before ih =>
      obtain ⟨hb, hrest⟩ := List.forall_mem_cons.1 hbefore
      exact .later hb (ih hrest)

theorem bind_eq_error_iff {check : Except ε β} {next : β → Except ε γ} :
    (check >>= next) = .error e ↔ check = .error e ∨ ∃ b, check = .ok b ∧ next b = .error e := by
  cases check with
  | error first => simp [bind, Except.bind]
  | ok b => simp [bind, Except.bind]

theorem bind_eq_ok_iff {check : Except ε β} {next : β → Except ε γ} {c : γ} :
    (check >>= next) = .ok c ↔ ∃ b, check = .ok b ∧ next b = .ok c := by
  cases check with
  | error first => simp [bind, Except.bind]
  | ok b => simp [bind, Except.bind]

theorem map_eq_ok_iff {check : Except ε β} {next : β → γ} {c : γ} :
    check.map next = .ok c ↔ ∃ b, check = .ok b ∧ next b = c := by
  cases check <;> simp [Except.map]

theorem map_eq_error_iff {check : Except ε β} {next : β → γ} :
    check.map next = .error e ↔ check = .error e := by
  cases check <;> simp [Except.map]

theorem mapError_eq_ok_iff {ε' : Type} {check : Except ε β} {report : ε → ε'} {b : β} :
    check.mapError report = .ok b ↔ check = .ok b := by
  cases check <;> simp [Except.mapError]

theorem mapError_eq_error_iff {ε' : Type} {check : Except ε β} {report : ε → ε'} {e' : ε'} :
    check.mapError report = .error e' ↔ ∃ e, check = .error e ∧ report e = e' := by
  cases check <;> simp [Except.mapError]

/-- Items that all pass a check give one result each, in their order. -/
theorem mapM_eq_ok_iff {check : α → Except ε β} {results : List β} :
    items.mapM check = .ok results ↔ List.Forall₂ (fun a b => check a = .ok b) items results := by
  induction items generalizing results with
  | nil =>
    rw [List.mapM_nil, List.forall₂_nil_left_iff]
    exact ⟨fun h => (Except.ok.inj h).symm, fun h => congrArg Except.ok h.symm⟩
  | cons a items ih =>
    rw [List.mapM_cons, bind_eq_ok_iff, List.forall₂_cons_left_iff]
    refine exists_congr fun b => ?_
    rw [bind_eq_ok_iff]
    constructor
    · rintro ⟨ha, bs, hitems, hresults⟩
      exact ⟨bs, ha, ih.1 hitems, (Except.ok.inj hresults).symm⟩
    · rintro ⟨bs, ha, hitems, rfl⟩
      exact ⟨ha, bs, ih.2 hitems, rfl⟩

/-- A relation takes a whole list if it takes each item. -/
theorem exists_forall₂_iff {R : α → β → Prop} :
    (∃ results, List.Forall₂ R items results) ↔ ∀ a ∈ items, ∃ b, R a b := by
  induction items with
  | nil => simp
  | cons a items ih =>
    rw [List.forall_mem_cons, ← ih]
    constructor
    · rintro ⟨_, h⟩
      obtain ⟨b, results, hfirst, hrest, rfl⟩ := List.forall₂_cons_left_iff.1 h
      exact ⟨⟨b, hfirst⟩, results, hrest⟩
    · rintro ⟨⟨b, hfirst⟩, results, hrest⟩
      exact ⟨b :: results, .cons hfirst hrest⟩

/-- A check that goes on to do the same with each result passes and fails like the one before. -/
theorem mapM_congr_map {check : α → Except ε β} {check' : α → Except ε γ}
    {next : β → γ} (h : ∀ a ∈ items, check' a = (check a).map next) :
    items.mapM check' = (items.mapM check).map (List.map next) := by
  induction items with
  | nil => rfl
  | cons a items ih =>
    have hrest := ih fun b hb => h b (List.mem_cons_of_mem _ hb)
    rw [List.mapM_cons, List.mapM_cons, h a List.mem_cons_self, hrest]
    cases check a with
    | error e => rfl
    | ok b => cases items.mapM check <;> rfl

/-- A check fails with the leftmost fault of some items, and passes if none of them has a fault. -/
def Reports (fault : α → ε → Prop) (check : Except ε β) (items : List α) : Prop :=
  ∀ e, check = .error e ↔ Leftmost fault items e

namespace Reports

variable {check : Except ε β}

theorem ok (b : β) : Reports fault (.ok b : Except ε β) [] := fun _ => ⟨nofun, nofun⟩

/-- A check of a single item, given when it fails. -/
theorem single (h : ∀ e, check = .error e ↔ fault a e) : Reports fault check [a] := by
  intro e
  rw [h e]
  constructor
  · exact .here
  · rintro (⟨h⟩ | ⟨-, h⟩)
    · exact h
    · exact absurd h not_leftmost_nil

/-- A check after another one looks at the items that come later. -/
theorem bind {next : β → Except ε γ} (hcheck : Reports fault check items)
    (hnext : ∀ b, Reports fault (next b) rest) :
    Reports fault (check >>= next) (items ++ rest) := by
  intro e
  rw [bind_eq_error_iff, leftmost_append, hcheck e]
  refine or_congr_right ?_
  constructor
  · rintro ⟨b, hpassed, h⟩
    refine ⟨fun e' hfault => ?_, (hnext b e).1 h⟩
    cases hpassed.symm.trans ((hcheck e').2 hfault)
  · rintro ⟨hnone, h⟩
    cases hresult : check with
    | error first => exact absurd ((hcheck first).1 hresult) (hnone first)
    | ok b => exact ⟨b, rfl, (hnext b e).2 h⟩

/-- What is done with the result of a check does not change what it reports. -/
theorem map {next : β → γ} (h : Reports fault check items) :
    Reports fault (check >>= fun b => .ok (next b)) items := by
  have hbind : Reports fault (check >>= fun b => .ok (next b)) (items ++ []) :=
    h.bind fun b => .ok (next b)
  rwa [List.append_nil] at hbind

/-- The items of a list are checked from left to right. -/
theorem mapM {check : α → Except ε β} (h : ∀ a e, check a = .error e ↔ fault a e)
    (items : List α) : Reports fault (items.mapM check) items := by
  induction items with
  | nil => exact .ok []
  | cons a items ih =>
    rw [List.mapM_cons]
    exact (single (h a)).bind fun _ => ih.map

/-- A check passes if no item has a fault. -/
theorem passes_iff {check : Except ε β} (h : Reports fault check items) :
    (∃ b, check = .ok b) ↔ ∀ a ∈ items, ∀ e, ¬ fault a e := by
  constructor
  · rintro ⟨b, hpassed⟩ a ha e hfault
    obtain ⟨e', hleftmost⟩ := exists_leftmost.2 ⟨a, ha, e, hfault⟩
    cases hpassed.symm.trans ((h e').2 hleftmost)
  · intro hsound
    cases hresult : check with
    | ok b => exact ⟨b, rfl⟩
    | error e =>
      obtain ⟨a, ha, e', hfault⟩ := exists_leftmost.1 ⟨e, (h e).1 hresult⟩
      exact absurd hfault (hsound a ha e')

end Reports

end Reports

end ScopeComposer
