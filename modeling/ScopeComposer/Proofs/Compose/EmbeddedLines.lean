import ScopeComposer.Compose.Collection
import ScopeComposer.Proofs.Graphql.DocumentLines

/-!
# Lines of embedded parts

What is put into a block stands there line by line, without its blank lines and with nothing added
in between. A collection is two blocks, one inside the other: the lines of the nodes stand in the
inner one, and what the collection says of itself stands before it.
-/

namespace ScopeComposer

namespace Text

/-- The lines of a text that are not blank, as texts. -/
def contentTexts (s : String) : List String := (lines s).filter (!isBlankText ·)

theorem map_ofList_contentLines (s : String) :
    (contentLines s.toList).map String.ofList = contentTexts s := by
  unfold contentTexts lines contentLines
  rw [List.filter_map]
  refine congrArg _ (List.filter_congr fun l _ => ?_)
  simp [isBlankText]

end Text

namespace Graphql

open Text

/-- Two texts with a line feed between them have the lines of both. -/
theorem contentTexts_join {first second : String} (hfirst : '\r' ∉ first.toList)
    (hsecond : '\r' ∉ second.toList) : '\r' ∉ (first ++ "\n" ++ second).toList ∧
      contentTexts (first ++ "\n" ++ second) = contentTexts first ++ contentTexts second := by
  obtain ⟨hreturn, hlines⟩ := contentLines_join hfirst hsecond
  refine ⟨hreturn, ?_⟩
  rw [← map_ofList_contentLines, ← map_ofList_contentLines, ← map_ofList_contentLines, hlines,
    List.map_append]

/-- A stack has the lines of its parts. -/
theorem contentTexts_stack {parts : List String} (h : ∀ p ∈ parts, '\r' ∉ p.toList) :
    '\r' ∉ (stack parts).toList ∧
      contentTexts (stack parts) = parts.flatMap contentTexts := by
  obtain ⟨hreturn, hlines⟩ := contentLines_stack h
  refine ⟨hreturn, ?_⟩
  rw [← map_ofList_contentLines, hlines, List.map_flatMap]
  simp only [map_ofList_contentLines]

/-- A name on top of a stack is a line of its own. -/
theorem contentTexts_stack_name {name : String} {parts : List String}
    (hname : contentTexts name = [name]) (h : ∀ p ∈ name :: parts, '\r' ∉ p.toList) :
    '\r' ∉ (stack (name :: parts)).toList ∧
      contentTexts (stack (name :: parts)) = name :: parts.flatMap contentTexts := by
  obtain ⟨hreturn, hlines⟩ := contentTexts_stack h
  rw [List.flatMap_cons, hname] at hlines
  exact ⟨hreturn, hlines⟩

theorem append_opening (s : String) : s ++ ")" ++ " \x7b" = s ++ ") \x7b" := by
  have hbrace : ")" ++ " \x7b" = ") \x7b" := by decide
  rw [String.append_assoc, hbrace]

section Blocks

variable {head body : String}

theorem map_ofList_block (head body : String) :
    ((head.toList ++ [' ', '\x7b']) :: contentLines body.toList ++ [['\x7d']]).map String.ofList =
      (head ++ " \x7b") :: contentTexts body ++ ["\x7d"] := by
  have hopen : String.ofList (head.toList ++ [' ', '\x7b']) = head ++ " \x7b" := by
    apply String.ext
    simp
  rw [List.map_append, List.map_cons, map_ofList_contentLines, hopen]
  rfl

/-- The lines of a block: its head, the lines of its body that are not blank, and a brace. -/
theorem contentTexts_block (hr : '\r' ∉ head.toList) (hn : '\n' ∉ head.toList)
    (hbody : '\r' ∉ body.toList) : '\r' ∉ (block head body).toList ∧
      contentTexts (block head body) = (head ++ " \x7b") :: contentTexts body ++ ["\x7d"] := by
  obtain ⟨hreturn, hlines⟩ := contentLines_block hr hn hbody
  refine ⟨hreturn, ?_⟩
  rw [← map_ofList_contentLines, hlines, map_ofList_block]

/-- If its body says something, a block has no other lines, not even blank ones. -/
theorem lines_block (hn : '\n' ∉ head.toList) (hbody : '\r' ∉ body.toList)
    (hne : contentTexts body ≠ []) :
    lines (block head body) = (head ++ " \x7b") :: contentTexts body ++ ["\x7d"] := by
  have hcontent : contentLines body.toList ≠ [] := by
    intro hnil
    rw [← map_ofList_contentLines, hnil] at hne
    exact hne rfl
  unfold lines
  rw [lineChars_block hn hbody, splitChars_contentLines hcontent, map_ofList_block]

/-- A document with a single root field has the lines that are selected there between the head of
the field and its brace. -/
theorem lines_document_block (hr : '\r' ∉ head.toList) (hn : '\n' ∉ head.toList)
    (hbody : '\r' ∉ body.toList) : lines (document (block head body)) =
      "query \x7b" :: (head ++ " \x7b") :: contentTexts body ++ ["\x7d", "\x7d"] := by
  have hquery : '\n' ∉ "query".toList := by decide
  have hopen : "query" ++ " \x7b" = "query \x7b" := by decide
  obtain ⟨hroot, hlines⟩ := contentTexts_block hr hn hbody
  unfold document
  rw [lines_block hquery hroot (by simp [hlines]), hlines, hopen]
  simp only [List.cons_append, List.append_assoc, List.nil_append]

/-- The lines of a collection: its head, its total if that is wanted, what it says of its pages, and
the lines of its nodes in a block of their own. -/
theorem lines_collection (hn : '\n' ∉ head.toList) (hbody : '\r' ∉ body.toList)
    (withTotal : Bool) :
    lines (collection head withTotal body) = (head ++ " \x7b") ::
      ((if withTotal then [totalCount] else []) ++ contentTexts pageInfo ++
        "nodes \x7b" :: contentTexts body ++ ["\x7d"]) ++ ["\x7d"] := by
  have htotal : '\r' ∉ (if withTotal then totalCount else "").toList ∧
      contentTexts (if withTotal then totalCount else "") =
        if withTotal then [totalCount] else [] := by
    cases withTotal <;> decide
  have hpages : '\r' ∉ pageInfo.toList := by decide
  have hhead : '\r' ∉ "nodes".toList ∧ '\n' ∉ "nodes".toList := by decide
  obtain ⟨hnodes, hinner⟩ := contentTexts_block hhead.1 hhead.2 hbody
  obtain ⟨htop, htoplines⟩ := contentTexts_join htotal.1 hpages
  obtain ⟨hall, hlines⟩ := contentTexts_join htop hnodes
  have hopen : "nodes" ++ " \x7b" = "nodes \x7b" := by decide
  rw [htoplines, htotal.2, hinner, hopen] at hlines
  unfold collection
  rw [lines_block hn hall (by simp [hlines]), hlines]
  simp only [List.cons_append, List.append_assoc]

end Blocks

end Graphql

end ScopeComposer
