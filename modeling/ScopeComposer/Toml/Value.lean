/-!
# TOML values and tables

A document is a table of values. While it is read, every table remembers how it came about, since
that decides what may still be added to it: a table with a header of its own is complete after its
section, a table that only stands in the path of other headers may still get its own header, and a
table made by dotted keys may only grow by further dotted keys.
-/

namespace ScopeComposer.Toml

/-- A value of a document. Floating-point numbers and dates are kept as they are written. -/
inductive Value where
  /-- A text. -/
  | string (text : String)
  /-- An integer. -/
  | integer (value : Int)
  /-- A floating-point number. -/
  | float (written : String)
  /-- A truth value. -/
  | boolean (value : Bool)
  /-- A date, a time, or both. -/
  | dateTime (written : String)
  /-- A sequence of values. -/
  | array (items : List Value)
  /-- Values under keys. -/
  | table (entries : List (String × Value))
deriving Repr, Inhabited

/-- How a table came about. -/
inductive Origin where
  /-- It has a header of its own, or it is the whole document. -/
  | header
  /-- It stands in the path of other headers. -/
  | implied
  /-- It was made by a dotted key. -/
  | dotted
deriving DecidableEq, Repr, Inhabited

/-- What stands under a key while a document is read. -/
inductive Node where
  /-- A value given in one place. -/
  | leaf (value : Value)
  /-- A table. -/
  | table (origin : Origin) (entries : List (String × Node))
  /-- An array of tables, each with a header of its own. -/
  | tables (items : List (List (String × Node)))
deriving Repr, Inhabited

/-- A table while a document is read. -/
structure Table where
  /-- How it came about. -/
  origin : Origin
  /-- What stands under its keys. -/
  entries : List (String × Node)
deriving Repr, Inhabited

namespace Table

/-- A table without entries. -/
def empty (origin : Origin) : Table := ⟨origin, []⟩

/-- The table as an entry of another one. -/
def toNode (t : Table) : Node := .table t.origin t.entries

/-- Replaces what stands under a key, or adds the key. -/
def putEntry (key : String) (node : Node) : List (String × Node) → List (String × Node)
  | [] => [(key, node)]
  | (k, n) :: rest => if k = key then (k, node) :: rest else (k, n) :: putEntry key node rest

/-- Replaces what stands under a key, or adds the key. -/
def put (t : Table) (key : String) (node : Node) : Table :=
  { t with entries := putEntry key node t.entries }

/-- Changes the table at the end of a path. Tables that are missing on the way are made; an array of
tables stands for its last table. Dotted keys may not enter a table with a header of its own. -/
def change (byDots : Bool) : List String → (Table → Option Table) → Table → Option Table
  | [], f, t => f t
  | key :: path, f, t =>
    match t.entries.lookup key with
    | none => do
      let child ← change byDots path f (empty (if byDots then .dotted else .implied))
      some (t.put key child.toNode)
    | some (.leaf _) => none
    | some (.tables items) => do
      let last ← items.getLast?
      let child ← change byDots path f ⟨.header, last⟩
      some (t.put key (.tables (items.dropLast ++ [child.entries])))
    | some (.table origin entries) =>
      if byDots && origin == .header then none
      else do
        let child ← change byDots path f ⟨origin, entries⟩
        some (t.put key child.toNode)

/-- Adds a value under a key that may be dotted. Each key may be given once, and a dotted key only
adds to tables that dotted keys have made. -/
def insert (path : List String) (key : String) (value : Value) : Table → Option Table :=
  change true path fun t =>
    if (t.origin == .dotted) == path.isEmpty then none
    else if (t.entries.lookup key).isSome then none
    else some (t.put key (.leaf value))

/-- Opens the section of a table. -/
def openTable (path : List String) (key : String) : Table → Option Table :=
  change false path fun t =>
    match t.entries.lookup key with
    | none => some (t.put key (.table .header []))
    | some (.table .implied entries) => some (t.put key (.table .header entries))
    | some _ => none

/-- Opens the section of a further table of an array. -/
def openElement (path : List String) (key : String) : Table → Option Table :=
  change false path fun t =>
    match t.entries.lookup key with
    | none => some (t.put key (.tables [[]]))
    | some (.tables items) => some (t.put key (.tables (items ++ [[]])))
    | some _ => none

end Table

mutual

/-- The value that stands under a key. -/
def Node.toValue : Node → Value
  | .leaf value => value
  | .table _ entries => .table (entryValues entries)
  | .tables items => .array (tableValues items)

/-- The values of the entries of a table. -/
def entryValues : List (String × Node) → List (String × Value)
  | [] => []
  | (key, node) :: rest => (key, node.toValue) :: entryValues rest

/-- The values of an array of tables. -/
def tableValues : List (List (String × Node)) → List Value
  | [] => []
  | entries :: rest => .table (entryValues entries) :: tableValues rest

end

/-- The values of a table. -/
def Table.toValues (t : Table) : List (String × Value) := entryValues t.entries

end ScopeComposer.Toml
