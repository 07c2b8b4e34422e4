import ScopeComposer.Proofs.Graphql.Blocks
import ScopeComposer.Proofs.Text.Entries

/-!
# The lines of a document

A document has its head, the lines of its root selection that are not blank, and a closing brace.
Nothing is lost between the lines of a composed text and the text itself, since no line of it ends
with a carriage return.
-/

namespace ScopeComposer

namespace Text

/-- Pieces with others after them each end with a line feed. -/
theorem linesOfPieces_append (pieces : List (List Char)) {rest : List (List Char)}
    (hrest : rest ≠ []) :
    linesOfPieces (pieces ++ rest) = pieces.map dropReturn ++ linesOfPieces rest := by
  induction pieces with
  | nil => rfl
  | cons piece pieces ih =>
    obtain ⟨next, more, hmore⟩ : ∃ next more, pieces ++ rest = next :: more :=
      List.exists_cons_of_ne_nil (by simp [hrest])
    rw [List.cons_append, List.map_cons, List.cons_append, ← ih, hmore, linesOfPieces]
    simp

theorem map_dropReturn_eq_self {pieces : List (List Char)}
    (h : ∀ p ∈ pieces, p.getLast? ≠ some '\r') : pieces.map dropReturn = pieces :=
  (List.map_congr_left fun p hp => if_neg (h p hp)).trans pieces.map_id

theorem splitChars_contentLines {cs : List Char} (hne : contentLines cs ≠ []) :
    splitChars '\n' (['\n'].intercalate (contentLines cs)) = contentLines cs :=
  splitChars_intercalate hne fun _ hl => newline_not_mem_of_mem_contentLines hl

end Text

namespace Graphql

open Text

theorem splitChars_block (head body : String) : splitChars '\n' (block head body).toList =
    splitChars '\n' (head.toList ++ [' ', '\x7b']) ++
      splitChars '\n' (['\n'].intercalate (contentLines body.toList)) ++ [['\x7d']] := by
  have hclose : splitChars '\n' ['\x7d'] = [['\x7d']] := by decide
  rw [toList_block, splitChars_append, splitChars_append, hclose, List.append_assoc]

/-- The lines of a block; where the body says nothing, an empty line stands for it. -/
theorem lineChars_block {head body : String} (hn : '\n' ∉ head.toList)
    (hbody : '\r' ∉ body.toList) : lineChars (block head body).toList =
      (head.toList ++ [' ', '\x7b']) ::
        splitChars '\n' (['\n'].intercalate (contentLines body.toList)) ++ [['\x7d']] := by
  have hopen : splitChars '\n' (head.toList ++ [' ', '\x7b']) = [head.toList ++ [' ', '\x7b']] :=
    splitChars_of_not_mem (by simp [hn])
  have hclose : linesOfPieces [['\x7d']] = [['\x7d']] := by decide
  have hinner : '\r' ∉ ['\n'].intercalate (contentLines body.toList) :=
    (contentLines_intercalate _ fun l hl => (mem_contentLines hbody hl).1).1
  rw [lineChars, splitChars_block, hopen, linesOfPieces_append _ (by simp), hclose,
    map_dropReturn_eq_self]
  · rfl
  · intro p hp
    rcases List.mem_cons.1 hp with rfl | hp
    · simp
    · exact fun hlast => hinner (mem_of_mem_splitChars hp _ (List.mem_of_getLast? hlast)).1

theorem lines_document {root : String} (hr : '\r' ∉ root.toList)
    (hne : contentLines root.toList ≠ []) : lines (document root) =
      "query \x7b" :: (contentLines root.toList).map String.ofList ++ ["\x7d"] := by
  have hquery : '\n' ∉ "query".toList := by decide
  have hopen : String.ofList ("query".toList ++ [' ', '\x7b']) = "query \x7b" := by decide
  rw [lines, document, lineChars_block hquery hr, splitChars_contentLines hne, List.map_append,
    List.map_cons, hopen]
  rfl

end Graphql

end ScopeComposer
