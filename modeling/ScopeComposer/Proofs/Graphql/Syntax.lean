import ScopeComposer.Proofs.Graphql.Token

/-!
# The syntax of queries

A query as a tree: every field has a head (its name, with a label in front of it if the answer is to
hold it under another name, and its arguments) and either no selection set or one with fields of its
own. `Selection.tokens` writes a tree down, and `parse?` reads the text of a whole document: a
single query without a name and nothing around it.

The reader keeps the selection sets that are still open on a stack, so that every token is looked at
once. It accepts an empty selection set, which the grammar of GraphQL does not; that no set of a
tree is empty is for the tree to say.
-/

namespace ScopeComposer.Graphql

/-- A value without parts. -/
inductive Scalar where
  /-- `null`, a truth value or an enumeration value. -/
  | name (text : String)
  /-- An integer. -/
  | int (value : Int)
  /-- A text. -/
  | string (text : String)
deriving DecidableEq, Repr

/-- The value of an argument. -/
inductive Value where
  /-- A value without parts. -/
  | scalar (v : Scalar)
  /-- A list of values without parts. -/
  | list (items : List Scalar)
deriving DecidableEq, Repr

/-- An argument of a field. -/
structure Argument where
  /-- The name of the argument. -/
  name : String
  /-- Its value. -/
  value : Value
deriving DecidableEq, Repr

/-- What stands before the selection set of a field. -/
structure Head where
  /-- The name under which the answer holds the field, if that is not the name of the field. -/
  label : Option String
  /-- The name of the field. -/
  name : String
  /-- The arguments of the field. -/
  arguments : List Argument
deriving DecidableEq, Repr

namespace Head

/-- A field without label and arguments. -/
def plain (name : String) : Head := ⟨none, name, []⟩

/-- The name under which the answer holds the field. -/
def key (h : Head) : String := h.label.getD h.name

end Head

/-- A field of a query. -/
inductive Selection where
  /-- A field without a selection set. -/
  | leaf (head : Head)
  /-- A field with a selection set. -/
  | node (head : Head) (fields : List Selection)
deriving Repr

/-- The head of a field. -/
def Selection.head : Selection → Head
  | .leaf h => h
  | .node h _ => h

/-- The name under which the answer holds a field. -/
def Selection.key (s : Selection) : String := s.head.key

/-! ## Writing -/

/-- The token of a value without parts. -/
def Scalar.token : Scalar → Token
  | .name s => .name s
  | .int n => .int n
  | .string s => .string s

/-- The tokens of a value. -/
def Value.tokens : Value → List Token
  | .scalar v => [v.token]
  | .list items => .punctuator .bracketL :: items.map Scalar.token ++ [.punctuator .bracketR]

/-- The tokens of an argument. -/
def Argument.tokens (a : Argument) : List Token :=
  .name a.name :: .punctuator .colon :: a.value.tokens

/-- The tokens of the arguments of a field; without arguments there are no parentheses. -/
def argumentTokens : List Argument → List Token
  | [] => []
  | arguments => .punctuator .parenL :: arguments.flatMap Argument.tokens ++ [.punctuator .parenR]

/-- The tokens of a head. -/
def Head.tokens (h : Head) : List Token :=
  (h.label.toList.flatMap fun l => [.name l, .punctuator .colon]) ++
    .name h.name :: argumentTokens h.arguments

mutual

/-- The tokens of a field. -/
def Selection.tokens : Selection → List Token
  | .leaf h => h.tokens
  | .node h fields =>
    h.tokens ++ .punctuator .braceL :: selectionTokens fields ++ [.punctuator .braceR]

/-- The tokens of fields. -/
def selectionTokens : List Selection → List Token
  | [] => []
  | s :: rest => s.tokens ++ selectionTokens rest

end

/-- The tokens of a document with given root fields. -/
def documentTokens (fields : List Selection) : List Token :=
  .name "query" :: .punctuator .braceL :: selectionTokens fields ++ [.punctuator .braceR]

/-! ## Reading -/

/-- The value that a single token stands for. -/
def scalar? : Token → Option Scalar
  | .name s => some (.name s)
  | .int n => some (.int n)
  | .string s => some (.string s)
  | .punctuator _ => none

/-- The items of a list up to its closing bracket, and what follows the bracket. -/
def readItems : List Token → Option (List Scalar × List Token)
  | [] => none
  | .punctuator .bracketR :: rest => some ([], rest)
  | t :: rest =>
    (scalar? t).bind fun v => (readItems rest).map fun (items, after) => (v :: items, after)

/-- The value at the start of some tokens, and what follows it. -/
def readValue : List Token → Option (Value × List Token)
  | [] => none
  | .punctuator .bracketL :: rest => (readItems rest).map fun (items, after) => (.list items, after)
  | t :: rest => (scalar? t).map fun v => (.scalar v, rest)

/-- Reading a list uses up at least its closing bracket. -/
theorem readItems_length {ts after : List Token} {items : List Scalar}
    (h : readItems ts = some (items, after)) : after.length < ts.length := by
  fun_induction readItems ts generalizing items with
  | case1 => cases h
  | case2 rest =>
    obtain ⟨-, rfl⟩ := Prod.mk.inj (Option.some.inj h)
    simp
  | case3 t rest _ ih =>
    obtain ⟨v, -, hmap⟩ := Option.bind_eq_some_iff.1 h
    obtain ⟨⟨items', after'⟩, hread, heq⟩ := Option.map_eq_some_iff.1 hmap
    obtain ⟨-, rfl⟩ := Prod.mk.inj heq
    exact Nat.lt_succ_of_lt (ih hread)

/-- Reading a value uses up a token, so that the reader of arguments comes to an end. -/
theorem readValue_length {ts after : List Token} {v : Value}
    (h : readValue ts = some (v, after)) : after.length < ts.length := by
  unfold readValue at h
  split at h
  · cases h
  · obtain ⟨⟨items, after'⟩, hread, heq⟩ := Option.map_eq_some_iff.1 h
    obtain ⟨-, rfl⟩ := Prod.mk.inj heq
    exact Nat.lt_succ_of_lt (readItems_length hread)
  · obtain ⟨w, -, heq⟩ := Option.map_eq_some_iff.1 h
    obtain ⟨-, rfl⟩ := Prod.mk.inj heq
    simp

/-- The arguments up to the closing parenthesis, and what follows it. -/
def readArguments : List Token → Option (List Argument × List Token)
  | .punctuator .parenR :: rest => some ([], rest)
  | .name n :: .punctuator .colon :: rest =>
    match _h : readValue rest with
    | none => none
    | some (v, after) =>
      (readArguments after).map fun (arguments, after) => (⟨n, v⟩ :: arguments, after)
  | _ => none
termination_by ts => ts.length
decreasing_by
  have hlt := readValue_length _h
  simp only [List.length_cons]
  omega

/-- A head of which label and name are read: its arguments, if a parenthesis opens, of which there
has to be one. -/
def readHeadFrom (label : Option String) (name : String) :
    List Token → Option (Head × List Token)
  | .punctuator .parenL :: rest =>
    match readArguments rest with
    | some (a :: arguments, after) => some (⟨label, name, a :: arguments⟩, after)
    | _ => none
  | rest => some (⟨label, name, []⟩, rest)

/-- The head at the start of some tokens, and what follows it. -/
def readHead : List Token → Option (Head × List Token)
  | .name l :: .punctuator .colon :: .name n :: rest => readHeadFrom (some l) n rest
  | .name n :: rest => readHeadFrom none n rest
  | _ => none

/-- Reading arguments uses up at least their closing parenthesis. -/
theorem readArguments_length {ts after : List Token} {arguments : List Argument}
    (h : readArguments ts = some (arguments, after)) : after.length < ts.length := by
  fun_induction readArguments ts generalizing arguments with
  | case1 rest =>
    obtain ⟨-, rfl⟩ := Prod.mk.inj (Option.some.inj h)
    simp
  | case2 => cases h
  | case3 n rest v after' hvalue ih =>
    obtain ⟨⟨arguments', after''⟩, hread, heq⟩ := Option.map_eq_some_iff.1 h
    obtain ⟨-, rfl⟩ := Prod.mk.inj heq
    have hlt := readValue_length hvalue
    have hle := ih hread
    simp only [List.length_cons]
    omega
  | case4 => cases h

/-- After the name of a field nothing more has to belong to its head, so nothing may be used up
here. -/
theorem readHeadFrom_length {label : Option String} {name : String} {ts after : List Token}
    {head : Head} (h : readHeadFrom label name ts = some (head, after)) :
    after.length ≤ ts.length := by
  unfold readHeadFrom at h
  split at h
  · split at h
    · next hread =>
      obtain ⟨-, rfl⟩ := Prod.mk.inj (Option.some.inj h)
      have hlt := readArguments_length hread
      simp only [List.length_cons]
      omega
    · cases h
  · obtain ⟨-, rfl⟩ := Prod.mk.inj (Option.some.inj h)
    exact Nat.le_refl _

/-- Reading a head uses up at least the name of its field, so that the reader of fields comes to an
end. -/
theorem readHead_length {ts after : List Token} {head : Head}
    (h : readHead ts = some (head, after)) : after.length < ts.length := by
  unfold readHead at h
  split at h
  · have hle := readHeadFrom_length h
    simp only [List.length_cons]
    omega
  · exact Nat.lt_succ_of_le (readHeadFrom_length h)
  · cases h

/-- A selection set that is not closed yet: the head of its field, and the fields read before it,
the last one first. -/
structure OpenField where
  /-- The head of the field. -/
  head : Head
  /-- The fields before it in the selection set that it stands in, the last one first. -/
  before : List Selection

/-- Reads fields up to the brace that closes the outermost selection set, after which nothing may
follow. The fields read of the innermost set are in `done`, the last one first. -/
def readFields (stack : List OpenField) (done : List Selection) :
    List Token → Option (List Selection)
  | [] => none
  | .punctuator .braceR :: rest =>
    match stack with
    | [] => if rest = [] then some done.reverse else none
    | field :: outer => readFields outer (.node field.head done.reverse :: field.before) rest
  | t :: rest =>
    match _h : readHead (t :: rest) with
    | none => none
    | some (head, .punctuator .braceL :: after) => readFields (⟨head, done⟩ :: stack) [] after
    | some (head, after) => readFields stack (.leaf head :: done) after
termination_by ts => ts.length
decreasing_by
  · simp
  · have hlt := readHead_length _h
    simp only [List.length_cons] at hlt ⊢
    omega
  · exact readHead_length _h

/-- The root fields of a document, if it is a single query without a name. -/
def parseTokens? : List Token → Option (List Selection)
  | .name "query" :: .punctuator .braceL :: rest => readFields [] [] rest
  | _ => none

/-- The root fields of the text of a document, if it is a single query without a name. -/
def parse? (text : String) : Option (List Selection) := (tokens? text).bind parseTokens?

end ScopeComposer.Graphql
