import ScopeComposer.Proofs.Compose.EmbeddedLines

/-!
# Texts inside texts

A document is put together from parts in many steps, and each step leaves blank parts or blank lines
out. Nothing else changes: the lines of a part that say something stand together, in order and as
they are, in every text that was built around the part. A block with an empty body is the one text
with a blank line of its own: an empty line stands between its braces.
-/

namespace ScopeComposer

namespace Text

/-- Lines that say something and do not end with a carriage return. -/
def LinesKept (ls : List (List Char)) : Prop :=
  ∀ l ∈ ls, l.all isBlank = false ∧ l.getLast? ≠ some '\r'

variable {ls : List (List Char)}

theorem LinesKept.ne_nil (h : LinesKept ls) {l : List Char} (hl : l ∈ ls) : l ≠ [] := by
  rintro rfl
  cases (h _ hl).1

/-- Pieces that are kept are lines as they stand, also at the end of a text. -/
theorem LinesKept.linesOfPieces_append (h : LinesKept ls) (rest : List (List Char)) :
    linesOfPieces (ls ++ rest) = ls ++ linesOfPieces rest := by
  induction ls with
  | nil => rfl
  | cons l ls ih =>
    have hrest := ih fun m hm => h m (List.mem_cons_of_mem _ hm)
    by_cases hmore : ls ++ rest = []
    · obtain ⟨rfl, rfl⟩ := List.append_eq_nil_iff.1 hmore
      simp [linesOfPieces, h.ne_nil List.mem_cons_self]
    · have hfirst : dropReturn l = l := if_neg (h l List.mem_cons_self).2
      have hall := Text.linesOfPieces_append [l] hmore
      rw [List.map_singleton, hfirst, hrest] at hall
      exact hall

/-- Pieces that are kept are lines of the text that say something. -/
theorem LinesKept.infix_lines (h : LinesKept ls) {cs : List Char}
    (hpieces : ls <:+: splitChars '\n' cs) :
    ls <:+: lineChars cs ∧ ls <:+: contentLines cs := by
  have hlines : ls <:+: lineChars cs := by
    obtain ⟨before, after, hsplit⟩ := hpieces
    rcases eq_or_ne (ls ++ after) [] with hnil | hne
    · obtain ⟨rfl, -⟩ := List.append_eq_nil_iff.1 hnil
      exact List.nil_infix
    · refine ⟨before.map dropReturn, linesOfPieces after, ?_⟩
      rw [lineChars, ← hsplit, List.append_assoc before ls after,
        Text.linesOfPieces_append before hne, h.linesOfPieces_append, List.append_assoc]
  have hfilter : ls.filter (fun l => !l.all isBlank) = ls :=
    List.filter_eq_self.2 fun l hl => by simp [(h l hl).1]
  refine ⟨hlines, ?_⟩
  rw [← hfilter]
  exact hlines.filter _

/-- A text with pieces that are kept says something. -/
theorem LinesKept.not_blank (h : LinesKept ls) (hne : ls ≠ []) {cs : List Char}
    (hpieces : ls <:+: splitChars '\n' cs) : cs.all isBlank = false := by
  obtain ⟨l, hl⟩ := List.exists_mem_of_ne_nil ls hne
  rw [Bool.eq_false_iff]
  intro hblank
  have hall : l.all isBlank = true := by
    rw [List.all_eq_true]
    intro c hc
    exact List.all_eq_true.1 hblank c (mem_of_mem_splitChars (hpieces.subset hl) c hc).1
  rw [(h l hl).1] at hall
  cases hall

/-- In a text that says something, one of the pieces between line feeds does. -/
theorem exists_piece_of_not_blank {cs : List Char} (h : cs.all isBlank = false) :
    ∃ piece ∈ splitChars '\n' cs, piece.all isBlank = false := by
  induction cs with
  | nil => cases h
  | cons c cs ih =>
    by_cases hc : c = '\n'
    · subst hc
      have hrest : cs.all isBlank = false := by
        simpa [show isBlank '\n' = true by decide] using h
      obtain ⟨piece, hpiece, hwords⟩ := ih hrest
      rw [splitChars, if_pos rfl]
      exact ⟨piece, List.mem_cons_of_mem _ hpiece, hwords⟩
    · obtain ⟨first, pieces, hsplit⟩ := List.exists_cons_of_ne_nil (splitChars_ne_nil '\n' cs)
      rw [splitChars, if_neg hc, hsplit]
      rw [hsplit] at ih
      by_cases hblank : isBlank c = true
      · have hrest : cs.all isBlank = false := by simpa [hblank] using h
        obtain ⟨piece, hpiece, hwords⟩ := ih hrest
        rcases List.mem_cons.1 hpiece with rfl | hpiece
        · exact ⟨c :: piece, List.mem_cons_self, by simp [hwords]⟩
        · exact ⟨piece, List.mem_cons_of_mem _ hpiece, hwords⟩
      · exact ⟨c :: first, List.mem_cons_self, by simp [hblank]⟩

theorem contentLines_eq_nil_iff {cs : List Char} (hr : '\r' ∉ cs) :
    contentLines cs = [] ↔ cs.all isBlank = true := by
  refine ⟨fun hnil => ?_, contentLines_of_blank hr⟩
  by_contra hwords
  obtain ⟨piece, hpiece, hline⟩ := exists_piece_of_not_blank (Bool.eq_false_iff.2 hwords)
  rw [contentLines_eq_filter hr, List.filter_eq_nil_iff] at hnil
  exact hnil piece hpiece (by simp [hline])

end Text

namespace Graphql

open Text

/-- What is built around a text, in any number of steps. -/
inductive Encloses (text : String) : String → Prop where
  | self : Encloses text text
  | stack {part : String} (before after : List String) (h : Encloses text part) :
      Encloses text (stack (before ++ part :: after))
  | block {body : String} (head : String) (h : Encloses text body) :
      Encloses text (block head body)
  | collection {nodes : String} (head : String) (withTotal : Bool) (h : Encloses text nodes) :
      Encloses text (collection head withTotal nodes)
  | document {root : String} (h : Encloses text root) : Encloses text (document root)

section Steps

variable {ls : List (List Char)}

theorem infix_splitChars_stack (hkept : LinesKept ls) (hne : ls ≠ []) {part : String}
    (before after : List String) (h : ls <:+: splitChars '\n' part.toList) :
    ls <:+: splitChars '\n' (stack (before ++ part :: after)).toList := by
  -- a part with a line that says something is not left out
  have hwords : isBlankText part = false := hkept.not_blank hne h
  have hmem : part.toList ∈ ((before ++ part :: after).filter (!isBlankText ·)).map
      String.toList := by
    refine List.mem_map_of_mem (List.mem_filter.2 ⟨by simp, ?_⟩)
    rw [hwords]
    rfl
  rw [toList_stack, splitChars_intercalate_eq_flatMap (List.ne_nil_of_mem hmem)]
  obtain ⟨first, last, hparts⟩ := List.append_of_mem hmem
  rw [hparts, List.flatMap_append, List.flatMap_cons]
  exact h.trans ((List.prefix_append _ _).isInfix.trans (List.suffix_append _ _).isInfix)

theorem infix_splitChars_block (hkept : LinesKept ls) (hne : ls ≠ []) {body : String}
    (head : String) (h : ls <:+: splitChars '\n' body.toList) :
    ls <:+: splitChars '\n' (block head body).toList := by
  have hcontent := (hkept.infix_lines h).2
  have hwords : contentLines body.toList ≠ [] := by
    intro hnil
    rw [hnil] at hcontent
    exact hne (List.infix_nil.1 hcontent)
  rw [splitChars_block, splitChars_contentLines hwords]
  exact hcontent.trans ((List.suffix_append _ _).isInfix.trans (List.prefix_append _ _).isInfix)

theorem infix_splitChars_collection (hkept : LinesKept ls) (hne : ls ≠ []) {nodes : String}
    (head : String) (withTotal : Bool) (h : ls <:+: splitChars '\n' nodes.toList) :
    ls <:+: splitChars '\n' (collection head withTotal nodes).toList := by
  have hnodes := infix_splitChars_block hkept hne "nodes" h
  refine infix_splitChars_block hkept hne head ?_
  rw [toList_join, splitChars_append]
  exact hnodes.trans (List.suffix_append _ _).isInfix

/-- Each step keeps the lines of the text, so that any number of steps does. -/
theorem Encloses.infix_splitChars {text outer : String} (h : Encloses text outer)
    (hkept : LinesKept ls) (hne : ls ≠ []) (htext : ls <:+: splitChars '\n' text.toList) :
    ls <:+: splitChars '\n' outer.toList := by
  induction h with
  | self => exact htext
  | stack before after _ ih => exact infix_splitChars_stack hkept hne before after ih
  | block head _ ih => exact infix_splitChars_block hkept hne head ih
  | collection head withTotal _ ih => exact infix_splitChars_collection hkept hne head withTotal ih
  | document _ ih => exact infix_splitChars_block hkept hne "query" ih

end Steps

section Blocks

variable {head body : String}

/-- The lines of a block are all kept if its body says something. -/
theorem splitChars_block_kept (hn : '\n' ∉ head.toList) (hbody : '\r' ∉ body.toList)
    (hne : contentLines body.toList ≠ []) :
    splitChars '\n' (block head body).toList = lineChars (block head body).toList ∧
      LinesKept (lineChars (block head body).toList) := by
  have hopen : splitChars '\n' (head.toList ++ [' ', '\x7b']) = [head.toList ++ [' ', '\x7b']] :=
    splitChars_of_not_mem (by simp [hn])
  have hbrace : isBlank '\x7b' = false := by decide
  rw [lineChars_block hn hbody, splitChars_block, hopen, splitChars_contentLines hne]
  refine ⟨rfl, fun l hl => ?_⟩
  rcases List.mem_append.1 hl with hl | hl
  · rcases List.mem_cons.1 hl with rfl | hl
    · simp [hbrace]
    · obtain ⟨hr, -, hwords⟩ := mem_contentLines hbody hl
      exact ⟨hwords, fun hlast => hr (List.mem_of_getLast? hlast)⟩
  · obtain rfl := List.mem_singleton.1 hl
    decide

theorem lines_infix_of_encloses {outer : String} (hn : '\n' ∉ head.toList)
    (hbody : '\r' ∉ body.toList) (hne : contentLines body.toList ≠ [])
    (h : Encloses (block head body) outer) : lines (block head body) <:+: lines outer := by
  obtain ⟨hpieces, hkept⟩ := splitChars_block_kept hn hbody hne
  have hwords : lineChars (block head body).toList ≠ [] := by
    rw [lineChars_block hn hbody]
    simp
  have hinfix := h.infix_splitChars hkept hwords (hpieces ▸ List.infix_rfl)
  exact (hkept.infix_lines hinfix).1.map _

/-- A block whose body says nothing has an empty line in the place of the body. -/
theorem lines_block_of_blank (hn : '\n' ∉ head.toList) (hbody : '\r' ∉ body.toList)
    (hnil : contentTexts body = []) : lines (block head body) = [head ++ " \x7b", "", "\x7d"] := by
  have hcontent : contentLines body.toList = [] := by
    rw [← map_ofList_contentLines] at hnil
    exact List.map_eq_nil_iff.1 hnil
  have hopen : String.ofList (head.toList ++ [' ', '\x7b']) = head ++ " \x7b" := by
    apply String.ext
    simp
  rw [lines, lineChars_block hn hbody, hcontent, List.map_append, List.map_cons, hopen]
  rfl

end Blocks

theorem contentTexts_eq_nil_iff {s : String} (hr : '\r' ∉ s.toList) :
    contentTexts s = [] ↔ isBlankText s = true := by
  rw [← map_ofList_contentLines, List.map_eq_nil_iff]
  exact contentLines_eq_nil_iff hr

theorem contentTexts_stack_ne_nil_iff {parts : List String}
    (hparts : ∀ p ∈ parts, '\r' ∉ p.toList) :
    contentTexts (stack parts) ≠ [] ↔ ∃ p ∈ parts, isBlankText p = false := by
  rw [(contentTexts_stack hparts).2, ne_eq, List.flatMap_eq_nil_iff]
  constructor
  · intro hsome
    by_contra hnone
    push Not at hnone
    exact hsome fun p hp => (contentTexts_eq_nil_iff (hparts p hp)).2 (by simpa using hnone p hp)
  · rintro ⟨p, hp, hwords⟩ hall
    rw [(contentTexts_eq_nil_iff (hparts p hp)).1 (hall p hp)] at hwords
    cases hwords

/-- A block around a stack has its head, the lines of the parts that say something, in order, and a
brace, just if there is such a line. Then these lines stand as they are in whatever is built around
the block. The same lines of the nodes of a collection stand in a block of their own, after what the
collection says of itself. -/
theorem lines_assembled {head : String} {parts : List String} (hn : '\n' ∉ head.toList)
    (hparts : ∀ p ∈ parts, '\r' ∉ p.toList) :
    let text := block head (stack parts)
    (lines text = (head ++ " \x7b") :: parts.flatMap contentTexts ++ ["\x7d"] ↔
      ∃ p ∈ parts, isBlankText p = false) ∧
    ((∃ p ∈ parts, isBlankText p = false) →
      ∀ outer, Encloses text outer → lines text <:+: lines outer) ∧
    ∀ withTotal nodes, '\r' ∉ nodes.toList → lines (collection head withTotal nodes) =
      (head ++ " \x7b") :: ((if withTotal then ["totalCount"] else []) ++ lines pageInfo ++
        "nodes \x7b" :: contentTexts nodes ++ ["\x7d"]) ++ ["\x7d"] := by
  intro text
  obtain ⟨hbody, hlines⟩ := contentTexts_stack hparts
  have hwords := contentTexts_stack_ne_nil_iff hparts
  refine ⟨⟨fun heq => hwords.1 fun hnil => ?_, fun hsome => ?_⟩, fun hsome outer houter => ?_, ?_⟩
  · -- the empty line between the braces is one line too many
    rw [lines_block_of_blank hn hbody hnil, ← hlines, hnil] at heq
    simp at heq
  · rw [lines_block hn hbody (hwords.2 hsome), hlines]
  · refine lines_infix_of_encloses hn hbody (fun hnil => hwords.2 hsome ?_) houter
    rw [← map_ofList_contentLines, hnil, List.map_nil]
  · intro withTotal nodes hnodes
    have hpages : lines pageInfo = contentTexts pageInfo := by decide
    rw [lines_collection hn hnodes, hpages]
    rfl

/-- Blank parts and blank lines among others, four levels down. -/
theorem lines_assembled_of_blank_parts :
    let parts := ["", "\n    name\n\u00a0\n", " \n", "url"]
    let text := block "nodes" (stack parts)
    let outer := document (stack ["id", collection "topics" true (stack [text, ""])])
    ('\n' ∉ "nodes".toList ∧ (∀ p ∈ parts, '\r' ∉ p.toList) ∧
      ∃ p ∈ parts, isBlankText p = false) ∧
    lines text = ["nodes \x7b", "    name", "url", "\x7d"] ∧ lines text <:+: lines outer := by
  intro parts text outer
  have hn : '\n' ∉ "nodes".toList := by decide
  have hparts : ∀ p ∈ parts, '\r' ∉ p.toList := by decide
  have hsome : ∃ p ∈ parts, isBlankText p = false := by decide
  have houter : Encloses text outer :=
    .document (.stack ["id"] [] (.collection "topics" true (.stack [] [""] .self)))
  obtain ⟨hlines, hinfix, -⟩ := lines_assembled hn hparts
  exact ⟨⟨hn, hparts, hsome⟩, (hlines.2 hsome).trans (by decide), hinfix hsome outer houter⟩

/-- Without parts, an empty line is left between the braces. -/
theorem empty_line_of_no_parts :
    '\n' ∉ "query".toList ∧ (∀ p ∈ ([] : List String), '\r' ∉ p.toList) ∧
    block "query" (stack []) = document "" ∧
    lines (block "query" (stack [])) = ["query \x7b", "", "\x7d"] ∧
    lines (block "query" (stack [])) ≠
      ("query" ++ " \x7b") :: ([] : List String).flatMap contentTexts ++ ["\x7d"] := by
  decide

end Graphql

end ScopeComposer
