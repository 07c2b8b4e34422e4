import Mathlib.Data.List.Basic
import Mathlib.Data.List.Induction
import ScopeComposer.Proofs.Text.ContentLines
import ScopeComposer.Text.Split

/-!
# Lists written with separators

Texts that are joined by a separator which none of them holds are found again when the whole is
split at it. What trimming takes away at the end of a text depends on its last character alone.
-/

namespace ScopeComposer.Text

/-! ## Splitting -/

theorem splitChars_intercalate {sep : Char} {pieces : List (List Char)} (hne : pieces ≠ [])
    (h : ∀ piece ∈ pieces, sep ∉ piece) : splitChars sep ([sep].intercalate pieces) = pieces := by
  have hwhole : ∀ piece ∈ pieces, splitChars sep piece = [piece] := fun piece hpiece =>
    splitChars_of_not_mem (h piece hpiece)
  rw [splitChars_intercalate_eq_flatMap hne, List.flatMap_congr hwhole,
    List.flatMap_singleton']

/-- The entries of a comma-separated list are what its items say. -/
theorem entries_intercalate {items : List String} (h : ∀ s ∈ items, ',' ∉ s.toList) :
    entries (",".intercalate items) = significant items := by
  cases items with
  | nil => rfl
  | cons item items =>
    have hsplit : splitChars ',' (",".intercalate (item :: items)).toList =
        (item :: items).map String.toList := by
      rw [String.toList_intercalate]
      refine splitChars_intercalate (List.cons_ne_nil _ _) ?_
      intro piece hpiece
      obtain ⟨s, hs, rfl⟩ := List.mem_map.1 hpiece
      exact h s hs
    unfold entries split
    rw [hsplit, List.map_map]
    simp [Function.comp_def]

/-- Every text is made of pieces between commas, and its entries are these pieces, trimmed, as far
as something is left of them. -/
theorem exists_pieces (s : String) : ∃ pieces : List String, ",".intercalate pieces = s ∧
    (∀ p ∈ pieces, ',' ∉ p.toList) ∧ entries s = (pieces.map trim).filter (· ≠ "") := by
  refine ⟨split ',' s, ?_, ?_, rfl⟩
  · apply String.ext
    rw [String.toList_intercalate, split, List.map_map]
    have hid : String.toList ∘ String.ofList = id := funext fun _ => String.toList_ofList
    rw [hid, List.map_id]
    exact intercalate_splitChars ',' s.toList
  · intro p hp
    obtain ⟨cs, hcs, rfl⟩ := List.mem_map.1 hp
    rw [String.toList_ofList]
    exact fun hmem => (mem_of_mem_splitChars hcs _ hmem).2 rfl

/-! ## Cutting -/

theorem cutChars_append {sep : Char} {cs : List Char} (h : sep ∉ cs) (ds : List Char) :
    cutChars sep (cs ++ sep :: ds) = (cs, some ds) := by
  induction cs with
  | nil => simp [cutChars]
  | cons c cs ih =>
    obtain ⟨hc, hcs⟩ := List.ne_and_not_mem_of_not_mem_cons h
    simp [cutChars, Ne.symm hc, ih hcs]

theorem cut_ofList {sep : Char} {cs : List Char} (h : sep ∉ cs) (ds : List Char) :
    cut sep (String.ofList (cs ++ sep :: ds)) = (String.ofList cs, some (String.ofList ds)) := by
  unfold cut
  rw [String.toList_ofList, cutChars_append h]
  rfl

/-- A text is cut at the first separator. -/
theorem cut_append {s : String} (h : ':' ∉ s.toList) (t : String) :
    cut ':' (s ++ ":" ++ t) = (s, some t) := by
  have hwhole : s ++ ":" ++ t = String.ofList (s.toList ++ ':' :: t.toList) := by
    apply String.ext
    simp
  rw [hwhole, cut_ofList h, String.ofList_toList, String.ofList_toList]

theorem cutChars_of_not_mem {sep : Char} {cs : List Char} (h : sep ∉ cs) :
    cutChars sep cs = (cs, none) := by
  induction cs with
  | nil => rfl
  | cons c cs ih =>
    obtain ⟨hc, hcs⟩ := List.ne_and_not_mem_of_not_mem_cons h
    simp [cutChars, Ne.symm hc, ih hcs]

theorem cut_of_not_mem {sep : Char} {s : String} (h : sep ∉ s.toList) : cut sep s = (s, none) := by
  unfold cut
  rw [cutChars_of_not_mem h]
  exact congrArg (·, none) String.ofList_toList

/-- A text without a separator is whole; any other has something before its first separator. -/
theorem exists_cut (s : String) :
    ':' ∉ s.toList ∨ ∃ before after, ':' ∉ before.toList ∧ s = before ++ ":" ++ after := by
  by_cases h : ':' ∈ s.toList
  · obtain ⟨before, after, hs, hbefore⟩ := List.eq_append_cons_of_mem h
    refine .inr ⟨String.ofList before, String.ofList after, by simpa using hbefore, ?_⟩
    apply String.ext
    simp [hs]
  · exact .inl h

/-! ## Trimming -/

/-- Blank characters at the start are dropped up to the first other character. -/
theorem dropBlank_append {cs : List Char} {c : Char} (hc : isBlank c = false) (ds : List Char) :
    dropBlank (cs ++ c :: ds) = dropBlank cs ++ c :: ds := by
  induction cs with
  | nil => simp [dropBlank, hc]
  | cons d cs ih =>
    unfold dropBlank at ih ⊢
    by_cases hd : isBlank d = true
    · rw [List.cons_append, List.dropWhile_cons_of_pos hd, List.dropWhile_cons_of_pos hd, ih]
    · rw [List.cons_append, List.dropWhile_cons_of_neg hd, List.dropWhile_cons_of_neg hd]
      rfl

theorem dropBlank_idem (cs : List Char) : dropBlank (dropBlank cs) = dropBlank cs := by
  induction cs with
  | nil => rfl
  | cons c cs ih =>
    unfold dropBlank at ih ⊢
    by_cases hc : isBlank c = true
    · rw [List.dropWhile_cons_of_pos hc, ih]
    · rw [List.dropWhile_cons_of_neg hc, List.dropWhile_cons_of_neg hc]

/-- Blank characters at the start do not matter to what is left by trimming. -/
theorem trimChars_dropBlank (cs : List Char) : trimChars (dropBlank cs) = trimChars cs := by
  unfold trimChars
  rw [dropBlank_idem]

/-- A text that does not end with a blank character is trimmed at its start only. -/
theorem trimChars_of_getLast? {cs : List Char} (h : ∀ c ∈ cs.getLast?, isBlank c = false) :
    trimChars cs = dropBlank cs := by
  cases cs using List.reverseRecOn with
  | nil => rfl
  | append_singleton front c =>
    have hc : isBlank c = false := h c (by simp)
    have hlast : dropBlank (c :: (dropBlank front).reverse) = c :: (dropBlank front).reverse :=
      List.dropWhile_cons_of_neg (by simp [hc])
    unfold trimChars
    rw [dropBlank_append hc, List.reverse_append, List.reverse_singleton, List.singleton_append,
      hlast, List.reverse_cons, List.reverse_reverse]

/-- Nothing is trimmed from a text without blank characters. -/
theorem trim_eq_self {s : String} (h : ∀ c ∈ s.toList, isBlank c = false) : trim s = s := by
  have hend : ∀ c ∈ s.toList.getLast?, isBlank c = false := fun c hc =>
    h c (List.mem_of_getLast? hc)
  have hstart : dropBlank s.toList = s.toList := by
    cases hs : s.toList with
    | nil => rfl
    | cons c cs =>
      have hc : isBlank c = false := h c (hs ▸ List.mem_cons_self)
      exact List.dropWhile_cons_of_neg (by simp [hc])
  unfold trim
  rw [trimChars_of_getLast? hend, hstart, String.ofList_toList]

/-- Trimming only takes characters away, and it leaves no blank character at the end. -/
theorem trimChars_spec (cs : List Char) : (∀ c ∈ trimChars cs, c ∈ cs) ∧
    (trimChars cs).getLast?.any isBlank = false := by
  constructor
  · intro c hc
    unfold trimChars dropBlank at hc
    rw [List.mem_reverse] at hc
    have hfront := (List.dropWhile_suffix _).mem hc
    rw [List.mem_reverse] at hfront
    exact (List.dropWhile_suffix _).mem hfront
  · unfold trimChars
    rw [List.getLast?_reverse]
    have hhead := List.head?_dropWhile_not isBlank (dropBlank cs).reverse
    unfold dropBlank at hhead ⊢
    cases hc : (List.dropWhile isBlank (List.dropWhile isBlank cs).reverse).head? with
    | none => rfl
    | some c => simpa [hc] using hhead

/-- What is trimmed has no blank character at its start, either. -/
theorem dropBlank_trimChars (cs : List Char) : dropBlank (trimChars cs) = trimChars cs := by
  have hpre : trimChars cs <+: dropBlank cs := by
    unfold trimChars
    exact List.reverse_suffix.1 (by simpa [dropBlank] using List.dropWhile_suffix _)
  obtain ⟨rest, hrest⟩ := hpre
  cases htrim : trimChars cs with
  | nil => rfl
  | cons c front =>
    rw [htrim] at hrest
    have hhead := List.head?_dropWhile_not isBlank cs
    unfold dropBlank at hrest ⊢
    rw [← hrest] at hhead
    exact List.dropWhile_cons_of_neg (by simpa using hhead)

theorem trim_trim (s : String) : trim (trim s) = trim s := by
  have hend : ∀ c ∈ (trimChars s.toList).getLast?, isBlank c = false := by
    intro c hc
    have hlast := (trimChars_spec s.toList).2
    rw [Option.mem_def.1 hc] at hlast
    simpa using hlast
  unfold trim
  rw [String.toList_ofList, trimChars_of_getLast? hend, dropBlank_trimChars]

/-- An entry holds no comma, and no blank character at its end. -/
theorem mem_entries {s entry : String} (h : entry ∈ entries s) :
    ',' ∉ entry.toList ∧ entry.toList.getLast?.any isBlank = false := by
  obtain ⟨pieces, -, hcommas, hentries⟩ := exists_pieces s
  rw [hentries] at h
  obtain ⟨p, hp, rfl⟩ := List.mem_map.1 (List.mem_filter.1 h).1
  obtain ⟨hsub, hlast⟩ := trimChars_spec p.toList
  unfold trim
  rw [String.toList_ofList]
  exact ⟨fun hmem => hcommas p hp (hsub _ hmem), hlast⟩

end ScopeComposer.Text
