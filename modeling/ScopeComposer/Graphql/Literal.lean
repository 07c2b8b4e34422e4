/-!
# GraphQL string literals

A text as a string value of a GraphQL document. Quotes, backslashes, line breaks and tabs are
escaped; every other character stands for itself.
-/

namespace ScopeComposer.Graphql

/-- How one character stands in a string literal. -/
def literalChar (c : Char) : List Char :=
  if c = '"' then ['\\', '"']
  else if c = '\\' then ['\\', '\\']
  else if c = '\n' then ['\\', 'n']
  else if c = '\r' then ['\\', 'r']
  else if c = '\t' then ['\\', 't']
  else [c]

/-- The string literal of a character list. -/
def literalChars (cs : List Char) : List Char := '"' :: cs.flatMap literalChar ++ ['"']

/-- The string literal of a text. -/
def literal (s : String) : String := String.ofList (literalChars s.toList)

end ScopeComposer.Graphql
