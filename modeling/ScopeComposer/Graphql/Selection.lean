import ScopeComposer.Text.Lines

/-!
# Selection texts

The text of a GraphQL document is built from the inside out: parts are put one below the other, and
a block puts a head and braces around a body. Parts that hold nothing leave nothing behind: a blank
part is skipped when parts are joined, and a blank line is dropped when a body is put into a block.
-/

namespace ScopeComposer.Graphql

/-- A head with a body between braces; the blank lines of the body are dropped. -/
def block (head body : String) : String :=
  head ++ " \x7b\n" ++ Text.unlines ((Text.lines body).filter (!Text.isBlankText ·)) ++ "\n\x7d"

/-- The parts that are not blank, one below the other. -/
def stack (parts : List String) : String :=
  Text.unlines (parts.filter (!Text.isBlankText ·))

/-- A whole document: one unnamed query around its root selection. -/
def document (root : String) : String := block "query" root

end ScopeComposer.Graphql
