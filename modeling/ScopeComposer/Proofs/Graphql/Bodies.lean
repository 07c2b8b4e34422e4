import ScopeComposer.Proofs.Graphql.FixedFields

/-!
# Bodies as they stand

The body of a selection set that is handed out by itself still has the blank lines that a block
around it would drop. It is read as the same fields all the same, since a blank line of a composed
text is empty: it holds no white space that means something between tokens.
-/

namespace ScopeComposer

namespace Text

/-! ## Blank lines -/

/-- Whether every blank line of a text is empty. -/
def BlankLinesEmpty (cs : List Char) : Prop :=
  ∀ l ∈ splitChars '\n' cs, l.all isBlank = true → l = []

theorem blankLinesEmpty_of_line {cs : List Char} (hn : '\n' ∉ cs) (h : cs.all isBlank = false) :
    BlankLinesEmpty cs := by
  intro l hl hblank
  rw [splitChars_of_not_mem hn, List.mem_singleton] at hl
  rw [hl, h] at hblank
  cases hblank

theorem BlankLinesEmpty.append {cs ds : List Char} (hcs : BlankLinesEmpty cs)
    (hds : BlankLinesEmpty ds) : BlankLinesEmpty (cs ++ '\n' :: ds) := by
  intro l hl
  rw [splitChars_append, List.mem_append] at hl
  exact hl.elim (hcs l) (hds l)

theorem blankLinesEmpty_nil : BlankLinesEmpty [] := by
  intro l hl _
  simpa [splitChars] using hl

theorem blankLinesEmpty_intercalate {texts : List (List Char)}
    (h : ∀ t ∈ texts, BlankLinesEmpty t) : BlankLinesEmpty (['\n'].intercalate texts) := by
  induction texts with
  | nil => exact blankLinesEmpty_nil
  | cons t texts ih =>
    have ht := h t List.mem_cons_self
    have htexts := ih fun u hu => h u (List.mem_cons_of_mem _ hu)
    cases texts with
    | nil => simpa using ht
    | cons u texts =>
      rw [List.intercalate_cons_cons, List.append_assoc]
      exact ht.append htexts

end Text

namespace Graphql

open Text

/-! ## Composed texts -/

theorem blankLinesEmpty_contentLines (cs : List Char) :
    BlankLinesEmpty (['\n'].intercalate (contentLines cs)) := by
  refine blankLinesEmpty_intercalate fun l hl => ?_
  have hsays : l.all isBlank = false := by simpa using (List.mem_filter.1 hl).2
  exact blankLinesEmpty_of_line (newline_not_mem_of_mem_contentLines hl) hsays

theorem blankLinesEmpty_block {head : String} (hn : '\n' ∉ head.toList) (body : String) :
    BlankLinesEmpty (block head body).toList := by
  have hbrace : isBlank '\x7b' = false := by decide
  have hopen : BlankLinesEmpty (head.toList ++ [' ', '\x7b']) :=
    blankLinesEmpty_of_line (by simp [hn]) (by simp [hbrace])
  have hclose : BlankLinesEmpty ['\x7d'] := blankLinesEmpty_of_line (by decide) (by decide)
  rw [toList_block]
  exact hopen.append ((blankLinesEmpty_contentLines body.toList).append hclose)

theorem blankLinesEmpty_join {first second : String} (hfirst : BlankLinesEmpty first.toList)
    (hsecond : BlankLinesEmpty second.toList) :
    BlankLinesEmpty (first ++ "\n" ++ second).toList := by
  rw [toList_join]
  exact hfirst.append hsecond

theorem blankLinesEmpty_stack {parts : List String} (h : ∀ p ∈ parts, BlankLinesEmpty p.toList) :
    BlankLinesEmpty (stack parts).toList := by
  rw [toList_stack]
  refine blankLinesEmpty_intercalate fun t ht => ?_
  obtain ⟨p, hp, rfl⟩ := List.mem_map.1 ht
  exact h p (List.mem_filter.1 hp).1

/-- The only blank lines of a fixed selection are the empty ones at its two ends. -/
theorem blankLinesEmpty_layout {fields : List Field} (h : fieldsNamed fields = true)
    (level : Nat) : BlankLinesEmpty (layout level fields).toList := by
  have hlines : BlankLinesEmpty (unlines (fieldLines level fields)).toList := by
    rw [toList_unlines]
    refine blankLinesEmpty_intercalate fun line hline => ?_
    obtain ⟨ts, hreads⟩ := (fieldLines_readLines h level).readsLine line hline
    exact blankLinesEmpty_of_line hreads.one_line.2 hreads.not_blank
  have hempty : BlankLinesEmpty "".toList := blankLinesEmpty_nil
  have hboth := blankLinesEmpty_join (blankLinesEmpty_join hempty hlines) hempty
  simpa [Graphql.layout] using hboth

/-! ## Reading -/

/-- The fields of a text that stands between the braces of a selection set. -/
def fields? (text : String) : Option (List Selection) :=
  (tokens? text).bind fun ts => readFields [] [] (ts ++ [.punctuator .braceR])

/-- Empty lines between lines that are read leave no token behind. -/
theorem lex_intercalate_of_filter {lines : List (List Char)} {ts : List Token}
    (hempty : ∀ l ∈ lines, l.all isBlank = true → l = [])
    (h : ReadLines (lines.filter fun l => !l.all isBlank) ts) :
    lex (['\n'].intercalate lines) = some ts := by
  induction lines generalizing ts with
  | nil => exact h.lex_eq
  | cons line lines ih =>
    have hrest : ∀ {us}, ReadLines (lines.filter fun l => !l.all isBlank) us →
        lex (['\n'].intercalate lines) = some us :=
      ih fun l hl => hempty l (List.mem_cons_of_mem _ hl)
    by_cases hblank : line.all isBlank = true
    · obtain rfl := hempty line List.mem_cons_self hblank
      rw [List.filter_cons_of_neg (by simp)] at h
      cases lines with
      | nil => exact hrest h
      | cons next lines =>
        rw [List.intercalate_cons_cons, List.nil_append, List.singleton_append,
          lex_ignored (by decide)]
        exact hrest h
    · rw [List.filter_cons_of_pos (by simpa using hblank)] at h
      cases h with
      | @cons _ _ ts us hline hlines =>
        cases lines with
        | nil =>
          cases hlines
          simpa using hline.lex_eq
        | cons next lines =>
          rw [List.intercalate_cons_cons, List.append_assoc, List.singleton_append,
            lex_append_line hline.lex_eq, hrest hlines]
          rfl

/-- A body without white space in its blank lines is read as the fields of its other lines. -/
theorem Reads.fields?_eq {text : String} {fields : List Selection} (h : Reads [text] fields)
    (hempty : BlankLinesEmpty text.toList) : fields? text = some fields := by
  have hlines := h.lines
  have hreturn := h.no_return text List.mem_cons_self
  rw [List.flatMap_singleton, contentLines_eq_filter hreturn] at hlines
  have hlex := lex_intercalate_of_filter hempty hlines
  rw [intercalate_splitChars] at hlex
  have hclose : StartsAfterField [.punctuator .braceR] := by
    simp [StartsAfterField, StartsAfterHead]
  rw [fields?, tokens?, hlex, Option.bind_some, readFields_selectionTokens fields [] [] hclose,
    readFields]
  simp

end Graphql

end ScopeComposer
