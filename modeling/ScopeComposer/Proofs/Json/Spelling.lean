import Mathlib.Data.List.Forall2
import ScopeComposer.Proofs.Json.Acceptance

/-!
# Spellings of keys

Objects that say the same although their keys are spelled in other ways, and so stand in another
order when they are sorted. A field that has both spellings of each of its names cannot tell such
objects apart.
-/

namespace ScopeComposer.Json

/-- One key, or the two spellings of one. -/
inductive SameKey (spellings : List (String × String)) : String → String → Prop where
  /-- The key itself. -/
  | same (key : String) : SameKey spellings key key
  /-- From the first spelling to the second. -/
  | forth {key key' : String} (h : (key, key') ∈ spellings) : SameKey spellings key key'
  /-- From the second spelling to the first. -/
  | back {key key' : String} (h : (key, key') ∈ spellings) : SameKey spellings key' key

/-- Members with the same key up to its spelling, and with values that stand for each other. -/
def SameMember (spellings : List (String × String)) (same : Json → Json → Prop)
    (m m' : String × Json) : Prop := SameKey spellings m.1 m'.1 ∧ same m.2 m'.2

/-- Objects with the same members, except that each key may be spelled in its other way, that the
members may stand in another order, and that `same` values stand for each other. -/
inductive Respelled (spellings : List (String × String)) (same : Json → Json → Prop) :
    Json → Json → Prop where
  /-- Each member is told otherwise, and then they are put in another order. -/
  | object {members told members' : List (String × Json)}
    (each : List.Forall₂ (SameMember spellings same) members told)
    (reordered : told.Perm members') : Respelled spellings same (.obj members) (.obj members')

/-- Arrays whose items stand for each other in pairs; any other value stands for itself. -/
inductive SameItems (same : Json → Json → Prop) : Json → Json → Prop where
  /-- The value itself. -/
  | same (value : Json) : SameItems same value value
  /-- Item by item. -/
  | items {items items' : List Json} (each : List.Forall₂ same items items') :
    SameItems same (.arr items) (.arr items')

/-! ## Decoders that do not tell values apart -/

/-- Whether a decoder takes values that stand for each other for the same. -/
def Decoder.Respects {α : Type} (d : Decoder α) (same : Json → Json → Prop) : Prop :=
  ∀ value value', same value value' → ∀ a, d.run value = .ok a ↔ d.run value' = .ok a

namespace Decoder.Respects

variable {α β : Type} {d : Decoder α} {same : Json → Json → Prop}

theorem eq : d.Respects Eq := by
  rintro value _ rfl a
  exact Iff.rfl

/-- What is computed from the decoded value depends on that value alone. -/
theorem map (h : d.Respects same) (f : α → β) : (d.map f).Respects same := by
  intro value value' hsame b
  simp only [map_run_eq_ok_iff, h value value' hsame]

/-- Whether a value is `null` must not depend on the spelling, for `null` is never handed on. -/
theorem option (h : d.Respects same)
    (hnull : ∀ value value', same value value' → (value = .null ↔ value' = .null)) :
    d.option.Respects same := by
  intro value value' hsame result
  simp only [option_run_eq_ok_iff, h value value' hsame, ne_eq, hnull value value' hsame]

/-- Both alternatives are tried on values that either takes for the same. -/
theorem either {type : String} {second : Decoder α} (h : d.Respects same)
    (hsecond : second.Respects same) : (Decoder.either type d second).Respects same := by
  intro value value' hsame a
  simp only [either_run_eq_ok_iff, ne_eq, h value value' hsame, hsecond value value' hsame]

/-- Lists are the same if they are item by item. -/
theorem list (h : d.Respects same) : d.list.Respects (SameItems same) := by
  rintro value value' (_ | heach) results
  · exact Iff.rfl
  · rw [list_run_arr_eq_ok_iff, list_run_arr_eq_ok_iff]
    induction heach generalizing results with
    | nil => exact Iff.rfl
    | cons hsame _ ih =>
      simp only [List.forall₂_cons_left_iff, h _ _ hsame, ih]

/-- A text stands for itself only. -/
theorem string (h : ∀ value value', same value value' → ∀ s, value = .str s ↔ value' = .str s) :
    Decoder.string.Respects same := by
  intro value value' hsame s
  rw [string_run_eq_ok_iff, string_run_eq_ok_iff]
  exact h value value' hsame s

end Decoder.Respects

/-! ## Fields that do not tell objects apart -/

section Fields

variable {spellings : List (String × String)} {same : Json → Json → Prop} {names : List String}

/-- Two spellings of one name are names of the same fields. -/
theorem SameKey.mem_iff (hnames : ∀ s ∈ spellings, s.1 ∈ names ↔ s.2 ∈ names) {key key' : String}
    (h : SameKey spellings key key') : key ∈ names ↔ key' ∈ names := by
  rcases h with _ | h | h
  · exact Iff.rfl
  · exact hnames _ h
  · exact (hnames _ h).symm

theorem Told.respects_iff {α : Type} {d : Decoder α} {absence : Absence α}
    {values values' : List Json} {a : α} (hd : d.Respects same)
    (h : List.Forall₂ same values values') :
    Told d absence values a ↔ Told d absence values' a := by
  constructor
  · rintro (⟨ha⟩ | ⟨ha⟩)
    · obtain ⟨value', _, hsame, hnil, rfl⟩ := List.forall₂_cons_left_iff.1 h
      obtain rfl := List.forall₂_nil_left_iff.1 hnil
      exact .once ((hd _ _ hsame a).1 ha)
    · obtain rfl := List.forall₂_nil_left_iff.1 h
      exact .nowhere ha
  · rintro (⟨ha⟩ | ⟨ha⟩)
    · obtain ⟨value, _, hsame, hnil, rfl⟩ := List.forall₂_cons_right_iff.1 h
      obtain rfl := List.forall₂_nil_right_iff.1 hnil
      exact .once ((hd _ _ hsame a).2 ha)
    · obtain rfl := List.forall₂_nil_right_iff.1 h
      exact .nowhere ha

/-- The values under the names of a field are the same in number and one by one. -/
theorem forall₂_valuesUnder (hnames : ∀ s ∈ spellings, s.1 ∈ names ↔ s.2 ∈ names)
    {members told : List (String × Json)}
    (h : List.Forall₂ (SameMember spellings same) members told) :
    List.Forall₂ same (valuesUnder names members) (valuesUnder names told) := by
  induction h with
  | nil => exact .nil
  | @cons m m' members told hm _ ih =>
    have hmem : m.1 ∈ names ↔ m'.1 ∈ names := hm.1.mem_iff hnames
    by_cases hname : m.1 ∈ names
    · rw [valuesUnder_cons_of_mem hname, valuesUnder_cons_of_mem (hmem.1 hname)]
      exact .cons hm.2 ih
    · rw [valuesUnder_cons_of_not_mem hname, valuesUnder_cons_of_not_mem (mt hmem.2 hname)]
      exact ih

/-- What is told of a field does not depend on how its names are spelled. -/
theorem Told.respelled_iff {α : Type} {d : Decoder α} {absence : Absence α} {a : α}
    {members members' : List (String × Json)} (hd : d.Respects same)
    (hnames : ∀ s ∈ spellings, s.1 ∈ names ↔ s.2 ∈ names)
    (h : Respelled spellings same (.obj members) (.obj members')) :
    Told d absence (valuesUnder names members) a ↔
      Told d absence (valuesUnder names members') a := by
  obtain ⟨heach, hreordered⟩ := h
  rw [respects_iff hd (forall₂_valuesUnder hnames heach)]
  exact perm_iff (valuesUnder_perm hreordered)

end Fields

end ScopeComposer.Json
