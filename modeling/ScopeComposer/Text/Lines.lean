import ScopeComposer.Text.Split

/-!
# Lines

A line ends with a line feed, or with a carriage return and a line feed, which are not part of it.
The last line may lack its end; then a carriage return at its end stays. A text that ends with a
line feed has no empty line after it.
-/

namespace ScopeComposer.Text

/-- The characters without one carriage return at their end. -/
def dropReturn (cs : List Char) : List Char :=
  if cs.getLast? = some '\r' then cs.dropLast else cs

/-- The lines made of the pieces between line feeds. -/
def linesOfPieces : List (List Char) → List (List Char)
  | [] => []
  | [last] => if last = [] then [] else [last]
  | piece :: rest => dropReturn piece :: linesOfPieces rest

/-- The lines of a character list. -/
def lineChars (cs : List Char) : List (List Char) := linesOfPieces (splitChars '\n' cs)

/-- The lines of a text. -/
def lines (s : String) : List String := (lineChars s.toList).map String.ofList

/-- Texts one below the other. -/
def unlines (texts : List String) : String := "\n".intercalate texts

end ScopeComposer.Text
