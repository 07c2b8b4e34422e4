import ScopeComposer.Graphql.Fragment
import ScopeComposer.Proofs.Graphql.Reading

/-!
# Fixed selections as fields

A fixed selection is a tree of names already; this is the tree of fields that its lines are read as.
How deep a line is indented does not matter.
-/

namespace ScopeComposer.Graphql

mutual

/-- The field that a fixed field stands for. -/
def Field.selection : Field → Selection
  | .leaf name => .leaf (.plain name)
  | .node name fields => .node (.plain name) (fieldSelections fields)
  | .firstTen name fields =>
    .node ⟨none, name, [⟨"first", .scalar (.int 10)⟩]⟩
      [.node (.plain "nodes") (fieldSelections fields)]

/-- The fields that fixed fields stand for. -/
def fieldSelections : List Field → List Selection
  | [] => []
  | field :: rest => field.selection :: fieldSelections rest

end

mutual

/-- Whether all names of a fixed field are names. -/
def Field.isNamed : Field → Bool
  | .leaf name => isName name
  | .node name fields => isName name && fieldsNamed fields
  | .firstTen name fields => isName name && fieldsNamed fields

/-- Whether all names of fixed fields are names. -/
def fieldsNamed : List Field → Bool
  | [] => true
  | field :: rest => field.isNamed && fieldsNamed rest

end

theorem toList_fieldIndent (level : Nat) :
    (fieldIndent level).toList = List.replicate (4 * level) ' ' := by
  rw [fieldIndent, String.toList_ofList]

theorem text_plain (name : String) : (Head.plain name).text.toList = name.toList := by
  simp [Head.plain, Head.text, argumentsText]

theorem isNamed_plain {name : String} (h : isName name = true) :
    (Head.plain name).isNamed = true := by
  simp [Head.plain, Head.isNamed, h]

mutual

/-- The lines of a fixed field are read as the field, at every level. -/
theorem Field.readLines {field : Field} (h : field.isNamed = true) (level : Nat) :
    ReadLines ((field.lines level).map String.toList) field.selection.tokens := by
  cases field with
  | leaf name =>
    have hline := (readsLine_leaf (isNamed_plain h)).indent (4 * level)
    rw [text_plain] at hline
    simpa [Field.lines, Field.selection, Selection.tokens, toList_fieldIndent] using
      ReadLines.singleton hline
  | node name fields =>
    obtain ⟨hname, hfields⟩ := Bool.and_eq_true_iff.1 h
    have hinner := fieldLines_readLines hfields (level + 1)
    have hall := readLines_node (isNamed_plain hname) hinner (4 * level)
    rw [text_plain] at hall
    simpa [Field.lines, Field.selection, toList_fieldIndent] using hall
  | firstTen name fields =>
    obtain ⟨hname, hfields⟩ := Bool.and_eq_true_iff.1 h
    have hinner := fieldLines_readLines hfields (level + 2)
    have hnodes := readLines_node (h := .plain "nodes") (by decide) hinner (4 * (level + 1))
    have hset : (Selection.node (.plain "nodes") (fieldSelections fields)).tokens =
        selectionTokens [.node (.plain "nodes") (fieldSelections fields)] := by
      simp [selectionTokens]
    rw [hset, text_plain] at hnodes
    have hhead : Head.isNamed ⟨none, name, [⟨"first", .scalar (.int 10)⟩]⟩ = true := by
      have hfirst : isName "first" = true := by decide
      simp [Head.isNamed, Value.isNamed, Scalar.isNamed, hname, hfirst]
    have hall := readLines_node hhead hnodes (4 * level)
    have htext : (Head.text ⟨none, name, [⟨"first", .scalar (.int 10)⟩]⟩).toList =
        name.toList ++ "(first: 10)".toList := by
      have hten : toString (10 : Int) = "10" := by decide
      simp [Head.text, argumentsText, Argument.text, Value.text, Scalar.text, hten]
    rw [htext] at hall
    simpa [Field.lines, Field.selection, toList_fieldIndent] using hall

/-- The lines of fixed fields are read as the fields, at every level. -/
theorem fieldLines_readLines {fields : List Field} (h : fieldsNamed fields = true) (level : Nat) :
    ReadLines ((fieldLines level fields).map String.toList)
      (selectionTokens (fieldSelections fields)) := by
  cases fields with
  | nil => exact .nil
  | cons field rest =>
    obtain ⟨hfield, hrest⟩ := Bool.and_eq_true_iff.1 h
    rw [fieldLines, List.map_append]
    exact (Field.readLines hfield level).append (fieldLines_readLines hrest level)

end

theorem Reads.fieldLines {fields : List Field} (h : fieldsNamed fields = true) (level : Nat) :
    Reads [Text.unlines (fieldLines level fields)] (fieldSelections fields) :=
  Reads.unlines (fieldLines_readLines h level)

theorem Reads.layout {fields : List Field} (h : fieldsNamed fields = true) (level : Nat) :
    Reads [layout level fields] (fieldSelections fields) := by
  have hempty : Reads [""] [] := Reads.blank (by decide) (by decide)
  have htop := Reads.join (Reads.cons hempty (Reads.fieldLines h level))
  have hboth := Reads.join (Reads.append htop hempty)
  simpa [Graphql.layout] using hboth

/-- What a collection says of its pages, as a field. -/
def pageInfoField : Selection :=
  .node (.plain "pageInfo") [.leaf (.plain "endCursor"), .leaf (.plain "hasNextPage")]

theorem Reads.pageInfo : Reads [pageInfo] [pageInfoField] :=
  Reads.fieldLines (by decide) 0

end ScopeComposer.Graphql
