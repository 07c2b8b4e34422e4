import ScopeComposer.Graphql.Selection

/-!
# Fixed selections

Most sub-resources are fetched with a list of fields that never changes. Such a list is a tree: a
field is a bare name, a name with fields of its own, or a nested collection whose paging is fixed.
It is laid out with one field to a line and four spaces for each level of the tree.
-/

namespace ScopeComposer.Graphql

/-- A field of a fixed selection. -/
inductive Field where
  /-- A field without a selection. -/
  | leaf (name : String)
  /-- A field with a selection of its own. -/
  | node (name : String) (fields : List Field)
  /-- The first ten nodes of a nested collection, with the fields of each. -/
  | firstTen (name : String) (fields : List Field)
deriving Repr, Inhabited

/-- Fields without selections. -/
def leaves (names : List String) : List Field := names.map .leaf

/-- The white space before a field at a level of the tree. -/
def fieldIndent (level : Nat) : String := String.ofList (List.replicate (4 * level) ' ')

mutual

/-- The lines of a field at a level of the tree. -/
def Field.lines (level : Nat) : Field → List String
  | .leaf name => [fieldIndent level ++ name]
  | .node name fields =>
    (fieldIndent level ++ name ++ " \x7b") :: fieldLines (level + 1) fields ++
      [fieldIndent level ++ "\x7d"]
  | .firstTen name fields =>
    (fieldIndent level ++ name ++ "(first: 10) \x7b") ::
      (fieldIndent (level + 1) ++ "nodes \x7b") :: fieldLines (level + 2) fields ++
        [fieldIndent (level + 1) ++ "\x7d", fieldIndent level ++ "\x7d"]

/-- The lines of fields at a level of the tree. -/
def fieldLines (level : Nat) : List Field → List String
  | [] => []
  | field :: rest => field.lines level ++ fieldLines level rest

end

/-- A fixed selection as a part of its own, with its fields at a level of indentation and set off by
line breaks at both ends. -/
def layout (level : Nat) (fields : List Field) : String :=
  "\n" ++ Text.unlines (fieldLines level fields) ++ "\n"

end ScopeComposer.Graphql
