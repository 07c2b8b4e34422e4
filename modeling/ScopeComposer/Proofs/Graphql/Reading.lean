import ScopeComposer.Proofs.Graphql.Blocks
import ScopeComposer.Proofs.Graphql.RoundTrip
import ScopeComposer.Proofs.Graphql.Writing

/-!
# Reading composed parts

A part of a document is a text of several lines. `Reads parts fields` says that the lines of some
parts that are not blank are read, line by line, as the tokens of given fields. It passes from parts
to the blocks and stacks that are made of them, and in the end to the whole document.
-/

namespace ScopeComposer.Graphql

open Text

/-! ## Lines -/

/-- A line that says something and is read as certain tokens. -/
structure ReadsLine (line : List Char) (ts : List Token) : Prop where
  /-- No line ends in it. -/
  one_line : '\r' ∉ line ∧ '\n' ∉ line
  /-- It would not be dropped. -/
  not_blank : line.all isBlank = false
  /-- Its tokens. -/
  lex_eq : lex line = some ts
  /-- What may not stand in a document is in string values. -/
  controls_eq : controls line = ts.flatMap Token.controls

/-- Lines that are read one by one. -/
inductive ReadLines : List (List Char) → List Token → Prop
  | nil : ReadLines [] []
  | cons {line : List Char} {lines : List (List Char)} {ts us : List Token} :
      ReadsLine line ts → ReadLines lines us → ReadLines (line :: lines) (ts ++ us)

namespace ReadLines

/-- One line that is read as tokens is a list of such lines. -/
theorem singleton {line : List Char} {ts : List Token} (h : ReadsLine line ts) :
    ReadLines [line] ts := by
  simpa using ReadLines.cons h .nil

/-- A line break separates tokens, so that what is read does not depend on the lines around it. -/
theorem append {lines more : List (List Char)} {ts us : List Token} (h : ReadLines lines ts)
    (hmore : ReadLines more us) : ReadLines (lines ++ more) (ts ++ us) := by
  induction h with
  | nil => exact hmore
  | cons hline _ ih =>
    rw [List.cons_append, List.append_assoc]
    exact .cons hline ih

theorem readsLine {lines : List (List Char)} {ts : List Token} (h : ReadLines lines ts) :
    ∀ l ∈ lines, ∃ us, ReadsLine l us := by
  induction h with
  | nil => simp
  | cons hline _ ih =>
    intro l hl
    rcases List.mem_cons.1 hl with rfl | hl
    · exact ⟨_, hline⟩
    · exact ih l hl

/-- Lines that are read, one below the other, are found again. -/
theorem contentLines_eq {lines : List (List Char)} {ts : List Token} (h : ReadLines lines ts) :
    '\r' ∉ ['\n'].intercalate lines ∧ contentLines (['\n'].intercalate lines) = lines := by
  have hgood : ∀ l ∈ lines, '\r' ∉ l ∧ '\n' ∉ l ∧ l.all isBlank = false := by
    intro l hl
    obtain ⟨us, hus⟩ := h.readsLine l hl
    exact ⟨hus.one_line.1, hus.one_line.2, hus.not_blank⟩
  exact ⟨(contentLines_intercalate lines fun l hl => (hgood l hl).1).1,
    contentLines_intercalate_lines lines hgood⟩

/-- Line breaks may stand in a document, so that the lines bring only what their tokens bring. -/
theorem controls_eq {lines : List (List Char)} {ts : List Token} (h : ReadLines lines ts) :
    controls (['\n'].intercalate lines) = ts.flatMap Token.controls := by
  have hfeed : isSourceChar '\n' = true := by decide
  induction h with
  | nil => rfl
  | @cons line lines ts us hline hlines ih =>
    rw [List.flatMap_append, ← hline.controls_eq, ← ih]
    cases lines with
    | nil => simp [controls]
    | cons next lines =>
      rw [List.intercalate_cons_cons, List.append_assoc, List.singleton_append, controls_append,
        controls_cons hfeed]

/-- Lines one below the other have the tokens of all of them. -/
theorem lex_eq {lines : List (List Char)} {ts : List Token} (h : ReadLines lines ts) :
    lex (['\n'].intercalate lines) = some ts := by
  induction h with
  | nil => exact lex_nil
  | @cons line lines ts us hline hlines ih =>
    cases lines with
    | nil =>
      cases hlines
      simpa using hline.lex_eq
    | cons next lines =>
      rw [List.intercalate_cons_cons, List.append_assoc, List.singleton_append,
        lex_append_line hline.lex_eq, ih]
      rfl

end ReadLines

/-! ## The lines of a field -/

theorem not_blank_of_isNamePart {c : Char} (h : isNamePart c = true) : isBlank c = false := by
  obtain ⟨hlow, hhigh⟩ := isNamePart_bounds h
  exact isBlank_of_visible (by omega) (by omega)

/-- A text with a name in it is not blank. -/
theorem not_blank_of_isName {s : String} (hs : isName s = true) {line : List Char}
    (hline : ∀ c ∈ s.toList, c ∈ line) : line.all isBlank = false := by
  cases hcs : s.toList with
  | nil => simp [isName, hcs] at hs
  | cons c cs =>
    have hc : c ∈ s.toList := by simp [hcs]
    have hpart := isNamePart_of_isName hs c hc
    have hmem := hline c hc
    refine Bool.eq_false_iff.2 fun hblank => ?_
    have hc := List.all_eq_true.1 hblank c hmem
    rw [not_blank_of_isNamePart hpart] at hc
    cases hc

theorem name_mem_headText (h : Head) : ∀ c ∈ h.name.toList, c ∈ h.text.toList := by
  intro c hc
  simp [Head.text, hc]

/-- A field without a selection set takes one line. -/
theorem readsLine_leaf {h : Head} (hnamed : h.isNamed = true) :
    ReadsLine h.text.toList h.tokens where
  one_line := (lexesTo_head hnamed).one_line
  not_blank := by
    have hname : isName h.name = true := by
      simp only [Head.isNamed, Bool.and_eq_true] at hnamed
      exact hnamed.1.2
    exact not_blank_of_isName hname (name_mem_headText h)
  lex_eq := by
    have hlex := (lexesTo_head hnamed).lex_append [] (by simp [StartsApart])
    simpa [lex_nil] using hlex
  controls_eq := (lexesTo_head hnamed).controls_eq

/-- A field with a selection set starts with a line that ends in an opening brace. -/
theorem readsLine_open {h : Head} (hnamed : h.isNamed = true) :
    ReadsLine (h.text.toList ++ [' ', '\x7b']) (h.tokens ++ [.punctuator .braceL]) where
  one_line := by simp [(lexesTo_head hnamed).one_line]
  not_blank := by simp [(readsLine_leaf hnamed).not_blank]
  lex_eq := by
    have hopen : lex [' ', '\x7b'] = some [.punctuator .braceL] := by
      rw [lex_ignored (by decide), lex_punctuator (p := .braceL) (by decide), lex_nil]
      rfl
    have hapart : StartsApart [' ', '\x7b'] := by simp [StartsApart, separators, ignoredChars]
    rw [(lexesTo_head hnamed).lex_append _ hapart, hopen]
    rfl
  controls_eq := by
    rw [controls_append, List.flatMap_append, (lexesTo_head hnamed).controls_eq]
    rfl

theorem readsLine_close : ReadsLine ['\x7d'] [.punctuator .braceR] where
  one_line := by decide
  not_blank := by decide
  lex_eq := by
    rw [lex_punctuator (p := .braceR) (by decide), lex_nil]
    rfl
  controls_eq := by decide

/-- Spaces before a line change nothing of what is read. -/
theorem ReadsLine.indent {line : List Char} {ts : List Token} (h : ReadsLine line ts) (n : Nat) :
    ReadsLine (List.replicate n ' ' ++ line) ts := by
  induction n with
  | zero => exact h
  | succ n ih =>
    rw [List.replicate_succ, List.cons_append]
    refine ⟨by simp [ih.one_line], by simp [ih.not_blank], ?_, ?_⟩
    · rw [lex_ignored (by decide), ih.lex_eq]
    · rw [controls_cons (by decide), ih.controls_eq]

/-- The lines of a field with a selection set, at any indentation. -/
theorem readLines_node {h : Head} {lines : List (List Char)} {fields : List Selection}
    (hnamed : h.isNamed = true) (hlines : ReadLines lines (selectionTokens fields)) (n : Nat) :
    ReadLines ((List.replicate n ' ' ++ (h.text.toList ++ [' ', '\x7b'])) :: lines ++
      [List.replicate n ' ' ++ ['\x7d']]) (Selection.node h fields).tokens := by
  have hall := ReadLines.append
    (.cons ((readsLine_open hnamed).indent n) hlines) (.singleton (readsLine_close.indent n))
  simpa [Selection.tokens] using hall

theorem selectionTokens_append (fields more : List Selection) :
    selectionTokens (fields ++ more) = selectionTokens fields ++ selectionTokens more := by
  induction fields with
  | nil => rfl
  | cons s fields ih => simp [selectionTokens, ih]

/-! ## Parts -/

/-- The lines of some parts that are not blank are those of given fields. -/
structure Reads (parts : List String) (fields : List Selection) : Prop where
  /-- A carriage return in front of a line feed would be lost. -/
  no_return : ∀ p ∈ parts, '\r' ∉ p.toList
  /-- The lines are read as the fields. -/
  lines : ReadLines (parts.flatMap fun p => contentLines p.toList) (selectionTokens fields)

namespace Reads

theorem nil : Reads [] [] := ⟨by simp, .nil⟩

/-- Parts are read independently of each other, since each of them ends a line. -/
theorem append {parts more : List String} {fields others : List Selection}
    (h : Reads parts fields) (hmore : Reads more others) :
    Reads (parts ++ more) (fields ++ others) where
  no_return p hp := (List.mem_append.1 hp).elim (h.no_return p) (hmore.no_return p)
  lines := by
    rw [List.flatMap_append, selectionTokens_append]
    exact h.lines.append hmore.lines

theorem cons {part : String} {parts : List String} {fields others : List Selection}
    (h : Reads [part] fields) (hparts : Reads parts others) :
    Reads (part :: parts) (fields ++ others) := append h hparts

/-- A part that is left out leaves a blank text, which is read as nothing. -/
theorem blank {part : String} (hr : '\r' ∉ part.toList) (hblank : isBlankText part = true) :
    Reads [part] [] where
  no_return := by simpa using hr
  lines := by
    rw [List.flatMap_singleton, contentLines_of_blank hr hblank]
    exact .nil

/-- The parts that a list gives item by item are read item by item. -/
theorem flatMap {α : Type} {parts : α → List String} {fields : α → List Selection} {items : List α}
    (h : ∀ a ∈ items, Reads (parts a) (fields a)) :
    Reads (items.flatMap parts) (items.flatMap fields) := by
  induction items with
  | nil => exact nil
  | cons a items ih =>
    rw [List.flatMap_cons, List.flatMap_cons]
    exact append (h a List.mem_cons_self) (ih fun b hb => h b (List.mem_cons_of_mem _ hb))

theorem map {α : Type} {part : α → String} {fields : α → List Selection} {items : List α}
    (h : ∀ a ∈ items, Reads [part a] (fields a)) :
    Reads (items.map part) (items.flatMap fields) := by
  rw [List.map_eq_flatMap]
  exact flatMap h

/-- Two parts with a line feed between them. -/
theorem join {first second : String} {fields : List Selection} (h : Reads [first, second] fields) :
    Reads [first ++ "\n" ++ second] fields := by
  obtain ⟨hreturn, hjoined⟩ :=
    contentLines_join (h.no_return first (by simp)) (h.no_return second (by simp))
  refine ⟨by simpa using hreturn, ?_⟩
  have hlines := h.lines
  rw [List.flatMap_cons, List.flatMap_singleton] at hlines
  rw [List.flatMap_singleton, hjoined]
  exact hlines

/-- Parts on lines of their own are read like the parts. -/
theorem stack {parts : List String} {fields : List Selection} (h : Reads parts fields) :
    Reads [stack parts] fields := by
  obtain ⟨hr, hlines⟩ := contentLines_stack h.no_return
  refine ⟨by simpa using hr, ?_⟩
  rw [List.flatMap_singleton, hlines]
  exact h.lines

theorem leaf {h : Head} (hnamed : h.isNamed = true) : Reads [h.text] [.leaf h] := by
  have hline := readsLine_leaf hnamed
  refine ⟨by simpa using hline.one_line.1, ?_⟩
  rw [List.flatMap_singleton, contentLines_of_line hline.one_line.1 hline.one_line.2,
    hline.not_blank]
  simpa [selectionTokens, Selection.tokens] using ReadLines.singleton hline

/-- A block is read as a field, if its body is read as the selection set of that field. -/
theorem block {h : Head} {body : String} {fields : List Selection} (hnamed : h.isNamed = true)
    (hbody : Reads [body] fields) : Reads [block h.text body] [.node h fields] := by
  obtain ⟨hr, hn⟩ := (lexesTo_head hnamed).one_line
  obtain ⟨hreturn, hlines⟩ := contentLines_block hr hn (hbody.no_return body (by simp))
  have hinner := hbody.lines
  rw [List.flatMap_singleton] at hinner
  refine ⟨by simpa using hreturn, ?_⟩
  rw [List.flatMap_singleton, hlines]
  simpa [selectionTokens] using readLines_node hnamed hinner 0

/-- A text is read by its lines. -/
theorem unlines {lines : List String} {fields : List Selection}
    (h : ReadLines (lines.map String.toList) (selectionTokens fields)) :
    Reads [Text.unlines lines] fields := by
  obtain ⟨hr, hlines⟩ := h.contentLines_eq
  refine ⟨by simpa [toList_unlines] using hr, ?_⟩
  rw [List.flatMap_singleton, toList_unlines, hlines]
  exact h

end Reads

/-! ## Documents -/

/-- The tokens of a document whose root part is read as given fields. -/
theorem tokens?_document {root : String} {fields : List Selection} (h : Reads [root] fields) :
    tokens? (document root) = some (documentTokens fields) := by
  have hhead : (Head.plain "query").isNamed = true := by decide
  have hopen := (readsLine_open hhead).lex_eq
  have hinner := h.lines
  rw [List.flatMap_singleton] at hinner
  have hbody := hinner.lex_eq
  have hclose := readsLine_close.lex_eq
  have hquery : "query".toList = (Head.plain "query").text.toList := by decide
  rw [tokens?, document, toList_block, hquery, lex_append_line hopen, lex_append_line hbody, hclose]
  rfl

/-- What may not stand in a document is in its string values. -/
theorem controls_document {root : String} {fields : List Selection} (h : Reads [root] fields) :
    controls (document root).toList = (documentTokens fields).flatMap Token.controls := by
  have hinner := h.lines
  rw [List.flatMap_singleton] at hinner
  have hopen : controls ("query".toList ++ [' ', '\x7b']) = [] := by decide
  have hclose : controls ['\n', '\x7d'] = [] := by decide
  have hfeed : isSourceChar '\n' = true := by decide
  have htokens : (documentTokens fields).flatMap Token.controls =
      (selectionTokens fields).flatMap Token.controls := by
    rw [documentTokens, List.flatMap_append]
    exact List.append_nil _
  rw [document, toList_block, controls_append, hopen, controls_cons hfeed, controls_append, hclose,
    hinner.controls_eq, htokens, List.nil_append, List.append_nil]

end ScopeComposer.Graphql
