import ScopeComposer.Toml.Number

/-!
# TOML documents

A document is a sequence of lines: comments, headers, and values under keys. Values may nest to a
fixed depth, and keys may have a fixed number of dots.
-/

namespace ScopeComposer.Toml

/-- The number of levels, of values and of dotted keys, from which on a document is refused. -/
def maxLevels : Nat := 80

/-- Whether a character may stand in a key without quotes. -/
def isBareKeyChar (c : Char) : Bool := c.isAlphanum || c == '-' || c == '_'

/-- Reads one part of a key. -/
def simpleKey : Scan String := lineText <|> do
  let name ← takeAll isBareKeyChar
  if name.isEmpty then failure else return String.ofList name

/-- Reads a key: its parts between dots. Fuel is the number of characters. -/
def keyParts : Nat → Scan (List String)
  | 0 => failure
  | fuel + 1 => do
    spaces
    let part ← simpleKey
    spaces
    (do
      expect '.'
      return part :: (← keyParts fuel)) <|> return [part]

/-- Reads a key, as the path before its last part and that part. -/
def key : Scan (List String × String) := do
  let parts ← keyParts (← get).length
  match parts.getLast? with
  | some last =>
    if parts.length < maxLevels then return (parts.dropLast, last) else failure
  | none => failure

/-- Passes over a comment, if there is one. -/
def comment : Scan Unit := fun
  | '#' :: rest => some ((), rest.dropWhile isInline)
  | cs => some ((), cs)

/-- Passes over white space, comments and line ends. Fuel is the number of characters. -/
def blankLines : Nat → Scan Unit
  | 0 => pure ()
  | fuel + 1 => do
    spaces
    comment
    match afterLineEnd? (← get) with
    | some rest =>
      set rest
      blankLines fuel
    | none => pure ()

/-- Passes over white space, comments and line ends between the items of an array. -/
def arrayBlanks : Scan Unit := do blankLines (← get).length

/-- Reads the rest of a line, which may only hold a comment. -/
def lineRest : Scan Unit := do
  spaces
  comment
  match ← get with
  | [] => return ()
  | cs =>
    match afterLineEnd? cs with
    | some rest => set rest
    | none => failure

/-- Reads a fixed word as a value. -/
def word (letters : List Char) (value : Value) : Scan Value := do
  expectAll letters
  return value

mutual

/-- Reads a value; `levels` more levels may nest inside it. Three units of fuel for each character
are enough. -/
def value : (fuel levels : Nat) → Scan Value
  | 0, _ => failure
  | fuel + 1, levels => do
    match (← get).head? with
    | some '"' | some '\x27' => return .string (← anyText)
    | some '[' =>
      expect '['
      match levels with
      | 0 => failure
      | levels + 1 => return .array (← items fuel levels)
    | some '\x7b' =>
      expect '\x7b'
      match levels with
      | 0 => failure
      | levels + 1 => return .table (← members fuel levels (.empty .header))
    | some 't' => word ['t', 'r', 'u', 'e'] (.boolean true)
    | some 'f' => word ['f', 'a', 'l', 's', 'e'] (.boolean false)
    | _ => number

/-- Reads the items of an array up to and with its closing bracket. -/
def items : (fuel levels : Nat) → Scan (List Value)
  | 0, _ => failure
  | fuel + 1, levels => do
    arrayBlanks
    (do
      expect ']'
      return []) <|> do
      let item ← value fuel levels
      arrayBlanks
      (do
        expect ']'
        return [item]) <|> do
        expect ','
        return item :: (← items fuel levels)

/-- Reads the members of an inline table up to and with its closing brace. -/
def members : (fuel levels : Nat) → Table → Scan (List (String × Value))
  | 0, _, _ => failure
  | fuel + 1, levels, table => do
    spaces
    (do
      if table.entries.isEmpty then expect '\x7d' else failure
      return []) <|> do
      let (path, name) ← key
      expect '='
      spaces
      let given ← value fuel levels
      spaces
      match table.insert path name given with
      | none => failure
      | some table =>
        (do
          expect '\x7d'
          return table.toValues) <|> do
          expect ','
          members fuel levels table

end

/-- A document while it is read: what has been read, and the section that is open. -/
structure State where
  /-- The whole document. -/
  root : Table := .empty .header
  /-- The path of the open section. -/
  path : List String := []

/-- Enters a value under a key of the open section. -/
def State.enter (s : State) (path : List String) (name : String) (given : Value) :
    Option State := do
  let root ← s.root.change false s.path (Table.insert path name given)
  some { s with root }

/-- Reads a key with its value. -/
def keyValue (s : State) : Scan State := do
  let (path, name) ← key
  expect '='
  spaces
  let given ← value (3 * (← get).length) (maxLevels - 1)
  lineRest
  s.enter path name given

/-- Reads a header. -/
def header (s : State) : Scan State :=
  (do
    expectAll ['[', '[']
    let (path, name) ← key
    expectAll [']', ']']
    lineRest
    let root ← s.root.openElement path name
    return ⟨root, path ++ [name]⟩) <|> do
    expect '['
    let (path, name) ← key
    expect ']'
    lineRest
    let root ← s.root.openTable path name
    return ⟨root, path ++ [name]⟩

/-- Reads one line. -/
def line (s : State) : Scan State := do
  match (← get).head? with
  | some '[' => header s
  | some '#' | some '\n' | some '\r' | none => do
    lineRest
    return s
  | _ => keyValue s

/-- Reads lines up to the end of the text. Fuel is the number of characters. -/
def linesFrom : Nat → State → Scan State
  | 0, s => do if (← get).isEmpty then return s else failure
  | fuel + 1, s => do
    spaces
    if (← get).isEmpty then return s
    else linesFrom fuel (← line s)

/-- The document that a text stands for; a byte-order mark may stand before it. -/
def document? (text : String) : Option (List (String × Value)) :=
  let cs := match text.toList with
    | '\ufeff' :: rest => rest
    | cs => cs
  ((linesFrom (cs.length + 1) {}).run' cs).map fun s => s.root.toValues

end ScopeComposer.Toml
