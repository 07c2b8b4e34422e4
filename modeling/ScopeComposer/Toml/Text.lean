import ScopeComposer.Json.Raw

/-!
# Texts of a TOML document

The four ways to write a text: between double quotes with escapes, between single quotes without,
and both of them across lines with three quotes at either end. What reads a part takes it off the
front of a list of characters.
-/

namespace ScopeComposer.Toml

/-- A way to read a part off the front of a text. -/
abbrev Scan := StateT (List Char) Option

/-- Whether a character is white space within a line. -/
def isSpace (c : Char) : Bool := c == ' ' || c == '\t'

/-- Whether a character may stand in a comment or, quotes and backslashes apart, in a text. -/
def isInline (c : Char) : Bool := c == '\t' || (0x20 ≤ c.toNat && c.toNat ≤ 0x7E) || 0x80 ≤ c.toNat

/-- Reads a fixed character. -/
def expect (c : Char) : Scan Unit := fun
  | [] => none
  | d :: rest => if c = d then some ((), rest) else none

/-- Reads fixed characters. -/
def expectAll (word : List Char) : Scan Unit := fun cs =>
  if word.isPrefixOf cs then some ((), cs.drop word.length) else none

/-- Passes over white space within a line. -/
def spaces : Scan Unit := modify (·.dropWhile isSpace)

/-- Reads characters of a class. -/
def takeAll (accept : Char → Bool) : Scan (List Char) := fun cs =>
  some (cs.takeWhile accept, cs.dropWhile accept)

/-- The rest of a text after a line end, if the text starts with one. -/
def afterLineEnd? : List Char → Option (List Char)
  | '\n' :: rest => some rest
  | '\r' :: '\n' :: rest => some rest
  | _ => none

/-- The character of a code point that is given in hexadecimal digits. -/
def hexChar? (digits : List Char) : Option Char := do
  let n ← Json.hexNumber? digits
  if h : n.isValidChar then some (Char.ofNatAux n h) else none

/-- The character that a short escape stands for. -/
def shortEscape? (c : Char) : Option Char :=
  match c with
  | 'b' => some '\x08'
  | 'f' => some '\x0c'
  | 'n' => some '\n'
  | 'r' => some '\r'
  | 't' => some '\t'
  | '"' => some '"'
  | '\\' => some '\\'
  | _ => none

/-- Reads a text after its opening double quote. -/
def basicChars : List Char → Option (List Char × List Char)
  | [] => none
  | '"' :: rest => some ([], rest)
  | '\\' :: 'u' :: a :: b :: c :: d :: rest => do
    let x ← hexChar? [a, b, c, d]
    let (text, rest) ← basicChars rest
    some (x :: text, rest)
  | '\\' :: 'U' :: a :: b :: c :: d :: e :: f :: g :: h :: rest => do
    let x ← hexChar? [a, b, c, d, e, f, g, h]
    let (text, rest) ← basicChars rest
    some (x :: text, rest)
  | '\\' :: e :: rest => do
    let x ← shortEscape? e
    let (text, rest) ← basicChars rest
    some (x :: text, rest)
  | c :: rest =>
    if c ≠ '\\' ∧ isInline c then do
      let (text, rest) ← basicChars rest
      some (c :: text, rest)
    else none

/-- Reads a text after its opening single quote. -/
def literalChars : List Char → Option (List Char × List Char)
  | [] => none
  | '\x27' :: rest => some ([], rest)
  | c :: rest =>
    if isInline c then do
      let (text, rest) ← literalChars rest
      some (c :: text, rest)
    else none

/-- Whether nothing but white space stands before the end of the line. -/
def isLineRest (cs : List Char) : Bool := (afterLineEnd? (cs.dropWhile isSpace)).isSome

/-- Reads a text across lines after its three opening double quotes. Up to two quotes may stand
right before the closing ones. A backslash at the end of a line takes with it all white space up to
the next character; `skipping` says that one was just met. -/
def basicLines (skipping : Bool) : List Char → Option (List Char × List Char)
  | [] => none
  | '"' :: '"' :: '"' :: '"' :: '"' :: rest => some (['"', '"'], rest)
  | '"' :: '"' :: '"' :: '"' :: rest => some (['"'], rest)
  | '"' :: '"' :: '"' :: rest => some ([], rest)
  | '\r' :: '\n' :: rest => do
    let (text, rest) ← basicLines skipping rest
    some (if skipping then text else '\n' :: text, rest)
  | '\\' :: 'u' :: a :: b :: c :: d :: rest => do
    let x ← hexChar? [a, b, c, d]
    let (text, rest) ← basicLines false rest
    some (x :: text, rest)
  | '\\' :: 'U' :: a :: b :: c :: d :: e :: f :: g :: h :: rest => do
    let x ← hexChar? [a, b, c, d, e, f, g, h]
    let (text, rest) ← basicLines false rest
    some (x :: text, rest)
  | '\\' :: e :: rest =>
    if isLineRest (e :: rest) then basicLines true (e :: rest)
    else do
      let x ← shortEscape? e
      let (text, rest) ← basicLines false rest
      some (x :: text, rest)
  | c :: rest =>
    if skipping && (isSpace c || c == '\n') then basicLines true rest
    else if c = '\n' ∨ (c ≠ '\\' ∧ isInline c) then do
      let (text, rest) ← basicLines false rest
      some (c :: text, rest)
    else none

/-- Reads a text across lines after its three opening single quotes. -/
def literalLines : List Char → Option (List Char × List Char)
  | [] => none
  | '\x27' :: '\x27' :: '\x27' :: '\x27' :: '\x27' :: rest => some (['\x27', '\x27'], rest)
  | '\x27' :: '\x27' :: '\x27' :: '\x27' :: rest => some (['\x27'], rest)
  | '\x27' :: '\x27' :: '\x27' :: rest => some ([], rest)
  | '\r' :: '\n' :: rest => do
    let (text, rest) ← literalLines rest
    some ('\n' :: text, rest)
  | c :: rest =>
    if c = '\n' ∨ isInline c then do
      let (text, rest) ← literalLines rest
      some (c :: text, rest)
    else none

/-- A text without a line end at its start. -/
def dropLineEnd (cs : List Char) : List Char := (afterLineEnd? cs).getD cs

/-- Reads a text within one line. -/
def lineText : Scan String := fun
  | '"' :: rest => (basicChars rest).map fun (text, rest) => (String.ofList text, rest)
  | '\x27' :: rest => (literalChars rest).map fun (text, rest) => (String.ofList text, rest)
  | _ => none

/-- Reads a text in any of the four ways. -/
def anyText : Scan String := fun
  | '"' :: '"' :: '"' :: rest =>
    (basicLines false (dropLineEnd rest)).map fun (text, rest) => (String.ofList text, rest)
  | '\x27' :: '\x27' :: '\x27' :: rest =>
    (literalLines (dropLineEnd rest)).map fun (text, rest) => (String.ofList text, rest)
  | cs => lineText cs

end ScopeComposer.Toml
