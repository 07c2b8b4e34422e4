import ScopeComposer.Json.Numeral

/-!
# JSON texts as written

The first stage of reading: the grammar of a JSON text. Numbers stay numerals and texts keep their
escapes, so that what is never looked at is only held to the grammar. The second stage takes from
this form what a reader asks for (`Raw.value?`): numbers have to be in range, escapes have to be
whole characters, and values may only nest to a fixed depth.
-/

namespace ScopeComposer.Json

/-- One unit of a written text. -/
inductive TextUnit where
  /-- A character, written as itself or by a short escape. -/
  | char (c : Char)
  /-- A UTF-16 code unit, written by its number. -/
  | code (n : Nat)
deriving Repr

/-- A JSON text as written. -/
inductive Raw where
  /-- The literal `null`. -/
  | null
  /-- The literals `true` and `false`. -/
  | bool (value : Bool)
  /-- A numeral. -/
  | num (numeral : Numeral)
  /-- A text between double quotes. -/
  | str (units : List TextUnit)
  /-- An array. -/
  | arr (items : List Raw)
  /-- An object. -/
  | obj (members : List (List TextUnit × Raw))
deriving Repr, Inhabited

/-!
## The grammar
-/

/-- Whether a character may stand between two tokens. -/
def isSpace (c : Char) : Bool := c == ' ' || c == '\n' || c == '\t' || c == '\r'

/-- The text from the first character that is no space. -/
def skipSpace (cs : List Char) : List Char := cs.dropWhile isSpace

/-- The value of a hexadecimal digit. -/
def hexValue? (c : Char) : Option Nat :=
  if c.isDigit then some (c.toNat - '0'.toNat)
  else if 'a' ≤ c ∧ c ≤ 'f' then some (c.toNat - 'a'.toNat + 10)
  else if 'A' ≤ c ∧ c ≤ 'F' then some (c.toNat - 'A'.toNat + 10)
  else none

/-- The number that hexadecimal digits stand for, most significant digit first. -/
def hexNumber? (cs : List Char) : Option Nat :=
  cs.foldlM (fun n c => (hexValue? c).map (16 * n + ·)) 0

/-- The character that a short escape stands for. -/
def shortEscape? (c : Char) : Option Char :=
  match c with
  | '"' => some '"'
  | '\\' => some '\\'
  | '/' => some '/'
  | 'b' => some '\x08'
  | 'f' => some '\x0c'
  | 'n' => some '\n'
  | 'r' => some '\r'
  | 't' => some '\t'
  | _ => none

/-- Reads a text after its opening quote, up to and with its closing one. -/
def readUnits : List Char → Option (List TextUnit × List Char)
  | [] => none
  | ['\\'] => none
  | '"' :: rest => some ([], rest)
  | '\\' :: 'u' :: a :: b :: c :: d :: rest => do
    let n ← hexNumber? [a, b, c, d]
    let (units, rest) ← readUnits rest
    some (.code n :: units, rest)
  | '\\' :: e :: rest => do
    let c ← shortEscape? e
    let (units, rest) ← readUnits rest
    some (.char c :: units, rest)
  | c :: rest =>
    if c.toNat < 0x20 then none
    else do
      let (units, rest) ← readUnits rest
      some (.char c :: units, rest)

/-- The leading digits, and what stands after them. -/
def spanDigits (cs : List Char) : List Char × List Char :=
  (cs.takeWhile Char.isDigit, cs.dropWhile Char.isDigit)

/-- Reads the digits before the point: a lone zero, or digits that do not start with one. -/
def readWhole (cs : List Char) : Option (List Char × List Char) :=
  match spanDigits cs with
  | ([], _) => none
  | ('0' :: _ :: _, _) => none
  | found => some found

/-- Reads a point and the digits after it, if there is a point. -/
def readFraction (cs : List Char) : Option (Option (List Char) × List Char) :=
  match cs with
  | '.' :: rest =>
    match spanDigits rest with
    | ([], _) => none
    | (digits, rest) => some (some digits, rest)
  | _ => some (none, cs)

/-- Reads an exponent after its letter. -/
def readExponentDigits (cs : List Char) : Option ((Bool × List Char) × List Char) :=
  let (negative, rest) := match cs with
    | '-' :: rest => (true, rest)
    | '+' :: rest => (false, rest)
    | rest => (false, rest)
  match spanDigits rest with
  | ([], _) => none
  | (digits, rest) => some ((negative, digits), rest)

/-- Reads an exponent, if there is one. -/
def readExponent (cs : List Char) : Option (Option (Bool × List Char) × List Char) :=
  match cs with
  | 'e' :: rest | 'E' :: rest => do
    let (exponent, rest) ← readExponentDigits rest
    some (some exponent, rest)
  | _ => some (none, cs)

/-- Reads a numeral. -/
def readNumeral (cs : List Char) : Option (Numeral × List Char) := do
  let (negative, cs) := match cs with
    | '-' :: rest => (true, rest)
    | rest => (false, rest)
  let (whole, cs) ← readWhole cs
  let (fraction, cs) ← readFraction cs
  let (exponent, cs) ← readExponent cs
  some (⟨negative, whole, fraction, exponent⟩, cs)

/-- Reads a fixed word. -/
def readWord (word : List Char) (value : Raw) (cs : List Char) : Option (Raw × List Char) :=
  if word.isPrefixOf cs then some (value, cs.drop word.length) else none

mutual

/-- Reads one value; two units of fuel for each character are enough. -/
def readValue : Nat → List Char → Option (Raw × List Char)
  | 0, _ => none
  | fuel + 1, cs =>
    match skipSpace cs with
    | '[' :: rest =>
      match skipSpace rest with
      | ']' :: rest => some (.arr [], rest)
      | rest => do
        let (items, rest) ← readItems fuel rest
        some (.arr items, rest)
    | '\x7b' :: rest =>
      match skipSpace rest with
      | '\x7d' :: rest => some (.obj [], rest)
      | rest => do
        let (members, rest) ← readMembers fuel rest
        some (.obj members, rest)
    | '"' :: rest => do
      let (units, rest) ← readUnits rest
      some (.str units, rest)
    | 'n' :: rest => readWord ['u', 'l', 'l'] .null rest
    | 't' :: rest => readWord ['r', 'u', 'e'] (.bool true) rest
    | 'f' :: rest => readWord ['a', 'l', 's', 'e'] (.bool false) rest
    | cs => do
      let (numeral, rest) ← readNumeral cs
      some (.num numeral, rest)

/-- Reads one or more items up to and with the closing bracket. -/
def readItems : Nat → List Char → Option (List Raw × List Char)
  | 0, _ => none
  | fuel + 1, cs => do
    let (item, rest) ← readValue fuel cs
    match skipSpace rest with
    | ']' :: rest => some ([item], rest)
    | ',' :: rest =>
      let (items, rest) ← readItems fuel rest
      some (item :: items, rest)
    | _ => none

/-- Reads one or more members up to and with the closing brace. -/
def readMembers : Nat → List Char → Option (List (List TextUnit × Raw) × List Char)
  | 0, _ => none
  | fuel + 1, cs =>
    match skipSpace cs with
    | '"' :: rest => do
      let (key, rest) ← readUnits rest
      match skipSpace rest with
      | ':' :: rest =>
        let (value, rest) ← readValue fuel rest
        match skipSpace rest with
        | '\x7d' :: rest => some ([(key, value)], rest)
        | ',' :: rest =>
          let (members, rest) ← readMembers fuel rest
          some ((key, value) :: members, rest)
        | _ => none
      | _ => none
    | _ => none

end

/-- Reads the value at the start of a text, and what stands after it. -/
def Raw.ofPrefix? (text : String) : Option (Raw × List Char) :=
  let cs := text.toList
  readValue (2 * cs.length + 2) cs

/-- Reads a text that is one value. -/
def Raw.ofText? (text : String) : Option Raw := do
  let (raw, rest) ← Raw.ofPrefix? text
  if (skipSpace rest).isEmpty then some raw else none

/-!
## Taking values from the written form
-/

/-- The characters of a text: two code units that form a surrogate pair are one character, and a
lone surrogate is none. -/
def charsOfUnits : List TextUnit → Option (List Char)
  | [] => some []
  | .char c :: rest => (charsOfUnits rest).map (c :: ·)
  | .code n :: rest =>
    if n < 0xD800 ∨ 0xE000 ≤ n then (charsOfUnits rest).map (Char.ofNat n :: ·)
    else
      match rest with
      | .code m :: rest =>
        if n < 0xDC00 ∧ 0xDC00 ≤ m ∧ m < 0xE000 then
          (charsOfUnits rest).map (Char.ofNat (0x10000 + (n - 0xD800) * 0x400 + (m - 0xDC00)) :: ·)
        else none
      | _ => none

/-- The text that written units stand for. -/
def textOfUnits (units : List TextUnit) : Option String := (charsOfUnits units).map String.ofList

/-- Which parts of a JSON text a reader looks at. -/
inductive Shape where
  /-- All of it, as a free value. -/
  | free
  /-- The fields of a record, each under its names; other members are passed over. -/
  | record (fields : List (List String × Shape))
  /-- The items of an array. -/
  | items (item : Shape)
deriving Inhabited

/-- The shape of the field with a name. -/
def Shape.field? (key : String) (fields : List (List String × Shape)) : Option Shape :=
  (fields.find? (·.1.contains key)).map (·.2)

/-- The number of levels of arrays and objects that may stand inside each other. -/
def maxDepth : Nat := 127

/-- The shape of the first field, and the fields after it. -/
def Shape.pop : List (List String × Shape) → Shape × List (List String × Shape)
  | [] => (.free, [])
  | (_, shape) :: rest => (shape, rest)

mutual

/-- The value of the parts that a shape names, with `room` more levels allowed. A free object is
put in canonical form; the members of a record keep their order and repetitions. -/
def Raw.value? (shape : Shape) (room : Nat) : Raw → Option Json
  | .null => some .null
  | .bool b => some (.bool b)
  | .num n => n.number?.map .num
  | .str units => (textOfUnits units).map .str
  | .arr items =>
    match room with
    | 0 => none
    | room + 1 =>
      match shape with
      | .record fields => (Raw.positions? fields room items).map .arr
      | .items item => (Raw.items? item room items).map .arr
      | .free => (Raw.items? .free room items).map .arr
  | .obj members =>
    match room with
    | 0 => none
    | room + 1 =>
      match shape with
      | .record fields => (Raw.fields? fields room members).map .obj
      | _ => (Raw.members? room members).map fun members => .obj (sortMembers members)

/-- The values of items of one shape. -/
def Raw.items? (shape : Shape) (room : Nat) : List Raw → Option (List Json)
  | [] => some []
  | item :: rest => do
    let value ← Raw.value? shape room item
    let values ← Raw.items? shape room rest
    some (value :: values)

/-- The values of the fields of a record that are given by position. -/
def Raw.positions? (fields : List (List String × Shape)) (room : Nat) :
    List Raw → Option (List Json)
  | [] => some []
  | item :: rest => do
    let value ← Raw.value? (Shape.pop fields).1 room item
    let values ← Raw.positions? (Shape.pop fields).2 room rest
    some (value :: values)

/-- The members of a free object. -/
def Raw.members? (room : Nat) : List (List TextUnit × Raw) → Option (List (String × Json))
  | [] => some []
  | (key, value) :: rest => do
    let key ← textOfUnits key
    let value ← Raw.value? .free room value
    let members ← Raw.members? room rest
    some ((key, value) :: members)

/-- The members of an object that are fields of a record. -/
def Raw.fields? (fields : List (List String × Shape)) (room : Nat) :
    List (List TextUnit × Raw) → Option (List (String × Json))
  | [] => some []
  | (key, value) :: rest => do
    let key ← textOfUnits key
    match Shape.field? key fields with
    | none => Raw.fields? fields room rest
    | some shape =>
      let value ← Raw.value? shape room value
      let members ← Raw.fields? fields room rest
      some ((key, value) :: members)

end

/-- The free value that a text stands for. -/
def parse? (text : String) : Option Json := do
  let raw ← Raw.ofText? text
  raw.value? .free maxDepth

end ScopeComposer.Json
