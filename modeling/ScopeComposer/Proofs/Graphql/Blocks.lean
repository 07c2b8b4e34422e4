import ScopeComposer.Graphql.Selection
import ScopeComposer.Proofs.Text.ContentLines

/-!
# The lines of blocks and stacks

`block` and `stack` keep the lines of their parts that are not blank, in order, and drop the rest:
a block puts its head and a closing brace around the lines of its body, and a stack has the lines of
all its parts.
-/

namespace ScopeComposer.Graphql

open Text

theorem toList_unlines (texts : List String) :
    (unlines texts).toList = ['\n'].intercalate (texts.map String.toList) := by
  simp [unlines]

theorem toList_join (first second : String) :
    (first ++ "\n" ++ second).toList = first.toList ++ '\n' :: second.toList := by
  simp

theorem toList_block (head body : String) :
    (block head body).toList = (head.toList ++ [' ', '\x7b']) ++ '\n' ::
      (['\n'].intercalate (contentLines body.toList) ++ ['\n', '\x7d']) := by
  have hlines : ((Text.lines body).filter (!Text.isBlankText ·)).map String.toList =
      contentLines body.toList := by
    simp [Text.lines, contentLines, List.filter_map, Function.comp_def, Text.isBlankText]
  simp [block, Text.unlines, hlines]

theorem toList_stack (parts : List String) : (stack parts).toList =
    ['\n'].intercalate ((parts.filter (!isBlankText ·)).map String.toList) :=
  toList_unlines _

/-- Two texts with a line feed between them have the lines of both. -/
theorem contentLines_join {first second : String} (hfirst : '\r' ∉ first.toList)
    (hsecond : '\r' ∉ second.toList) :
    '\r' ∉ (first ++ "\n" ++ second).toList ∧ contentLines (first ++ "\n" ++ second).toList =
      contentLines first.toList ++ contentLines second.toList := by
  rw [toList_join]
  exact ⟨by simp [hfirst, hsecond], contentLines_append hfirst hsecond⟩

/-- A block has its head, the lines of its body, and a closing brace. -/
theorem contentLines_block {head body : String} (hr : '\r' ∉ head.toList) (hn : '\n' ∉ head.toList)
    (hbody : '\r' ∉ body.toList) :
    '\r' ∉ (block head body).toList ∧ contentLines (block head body).toList =
      (head.toList ++ [' ', '\x7b']) :: contentLines body.toList ++ [['\x7d']] := by
  have hinner := contentLines_intercalate (contentLines body.toList) fun l hl =>
    (mem_contentLines hbody hl).1
  have hback := contentLines_intercalate_lines (contentLines body.toList) fun l hl =>
    mem_contentLines hbody hl
  have hhead : contentLines (head.toList ++ [' ', '\x7b']) = [head.toList ++ [' ', '\x7b']] := by
    rw [contentLines_of_line (by simp [hr]) (by simp [hn])]
    simp [show isBlank '\x7b' = false by decide]
  have hclose : contentLines ['\x7d'] = [['\x7d']] := by decide
  rw [toList_block]
  refine ⟨by simp [hr, hinner.1], ?_⟩
  rw [contentLines_append (by simp [hr]) (by simp [hinner.1]), hhead,
    contentLines_append hinner.1 (by simp), hback, hclose]
  rfl

/-- A blank part has no lines, so that leaving it out of a stack changes none. -/
theorem flatMap_contentLines_filter {parts : List String} (h : ∀ p ∈ parts, '\r' ∉ p.toList) :
    (parts.filter (!isBlankText ·)).flatMap (fun p => contentLines p.toList) =
      parts.flatMap fun p => contentLines p.toList := by
  induction parts with
  | nil => rfl
  | cons p parts ih =>
    have hrest := ih fun q hq => h q (List.mem_cons_of_mem _ hq)
    by_cases hblank : isBlankText p
    · rw [List.filter_cons_of_neg (by simp [hblank]), hrest, List.flatMap_cons,
        contentLines_of_blank (h p List.mem_cons_self) hblank, List.nil_append]
    · rw [List.filter_cons_of_pos (by simp [hblank]), List.flatMap_cons, hrest, List.flatMap_cons]

theorem contentLines_stack {parts : List String} (h : ∀ p ∈ parts, '\r' ∉ p.toList) :
    '\r' ∉ (stack parts).toList ∧ contentLines (stack parts).toList =
      parts.flatMap fun p => contentLines p.toList := by
  have htexts := contentLines_intercalate
    ((parts.filter (!isBlankText ·)).map String.toList) fun t ht => by
      obtain ⟨p, hp, rfl⟩ := List.mem_map.1 ht
      exact h p (List.mem_filter.1 hp).1
  rw [toList_stack, htexts.2, List.flatMap_map, flatMap_contentLines_filter h]
  exact ⟨htexts.1, rfl⟩

end ScopeComposer.Graphql
