import ScopeComposer.Proofs.Graphql.FixedFields

/-!
# String values and what is left without them

Two views of the tokens of a selection. `stringValues` is what its string values say, in order, and
`outline` is everything else: the tokens with all string values blotted out. Both are put together
from the fields of the selection one by one.
-/

namespace ScopeComposer.Graphql

/-- The text of a string value. -/
def Token.string? : Token → Option String
  | .string s => some s
  | _ => none

/-- A token without the text of a string value. -/
def Token.masked : Token → Token
  | .string _ => .string ""
  | t => t

/-- The texts of the string values among some tokens, in order. -/
def stringValues (ts : List Token) : List String := ts.filterMap Token.string?

/-- Some tokens without the texts of their string values. -/
def outline (ts : List Token) : List Token := ts.map Token.masked

/-! ## String values -/

theorem stringValues_append (ts us : List Token) :
    stringValues (ts ++ us) = stringValues ts ++ stringValues us := List.filterMap_append

theorem stringValues_punctuator (p : Punctuator) (ts : List Token) :
    stringValues (.punctuator p :: ts) = stringValues ts := rfl

theorem stringValues_name (name : String) (ts : List Token) :
    stringValues (.name name :: ts) = stringValues ts := rfl

/-- Of a field with a selection set the values in its head come first. -/
theorem stringValues_node (h : Head) (fields : List Selection) :
    stringValues (selectionTokens [.node h fields]) =
      stringValues h.tokens ++ stringValues (selectionTokens fields) := by
  rw [selectionTokens, selectionTokens, List.append_nil, Selection.tokens, stringValues_append,
    stringValues_append, stringValues_punctuator, stringValues_punctuator]
  exact List.append_nil _

/-- The values in a selection set come field by field. -/
theorem stringValues_cons (s : Selection) (fields : List Selection) :
    stringValues (selectionTokens (s :: fields)) =
      stringValues (selectionTokens [s]) ++ stringValues (selectionTokens fields) := by
  simp [selectionTokens, stringValues]

/-- The string values of what several items contribute, one after the other. -/
theorem stringValues_flatMap {α : Type} (items : List α) (fields : α → List Selection) :
    stringValues (selectionTokens (items.flatMap fields)) =
      items.flatMap fun a => stringValues (selectionTokens (fields a)) := by
  induction items with
  | nil => rfl
  | cons a items ih =>
    rw [List.flatMap_cons, selectionTokens_append, stringValues_append, ih, List.flatMap_cons]

theorem stringValues_document (fields : List Selection) :
    stringValues (documentTokens fields) = stringValues (selectionTokens fields) := by
  rw [documentTokens, stringValues_append, stringValues_name, stringValues_punctuator,
    stringValues_punctuator]
  exact List.append_nil _

mutual

/-- Fixed fields have no argument that is a string. -/
theorem Field.stringValues_selection (field : Field) :
    stringValues (selectionTokens [field.selection]) = [] := by
  cases field with
  | leaf name => rfl
  | node name fields =>
    rw [Field.selection, stringValues_node, stringValues_fixed fields]
    rfl
  | firstTen name fields =>
    rw [Field.selection, stringValues_node, stringValues_node, stringValues_fixed fields]
    rfl

theorem stringValues_fixed (fields : List Field) :
    stringValues (selectionTokens (fieldSelections fields)) = [] := by
  cases fields with
  | nil => rfl
  | cons field rest =>
    rw [fieldSelections, stringValues_cons, Field.stringValues_selection field,
      stringValues_fixed rest]
    rfl

end

/-! ## Outlines -/

theorem outline_append (ts us : List Token) : outline (ts ++ us) = outline ts ++ outline us :=
  List.map_append

/-- An outline is told field by field; it does not say what the strings of a head are. -/
theorem outline_node {h h' : Head} {fields fields' : List Selection}
    (hhead : outline h.tokens = outline h'.tokens)
    (hfields : outline (selectionTokens fields) = outline (selectionTokens fields')) :
    outline (selectionTokens [.node h fields]) = outline (selectionTokens [.node h' fields']) := by
  unfold outline at *
  simp [selectionTokens, Selection.tokens, hhead, hfields]

theorem outline_cons {s s' : Selection} {fields fields' : List Selection}
    (hfirst : outline (selectionTokens [s]) = outline (selectionTokens [s']))
    (hfields : outline (selectionTokens fields) = outline (selectionTokens fields')) :
    outline (selectionTokens (s :: fields)) = outline (selectionTokens (s' :: fields')) := by
  have hsplit : ∀ (s : Selection) (fields : List Selection), outline (selectionTokens (s :: fields))
      = outline (selectionTokens [s]) ++ outline (selectionTokens fields) := by
    intro s fields
    simp [selectionTokens, outline]
  rw [hsplit s, hsplit s', hfirst, hfields]

/-- The fields that a list gives item by item have the outlines of their items, one after the other.
-/
theorem outline_flatMap {α : Type} {items : List α} {fields fields' : α → List Selection}
    (h : ∀ a ∈ items,
      outline (selectionTokens (fields a)) = outline (selectionTokens (fields' a))) :
    outline (selectionTokens (items.flatMap fields)) =
      outline (selectionTokens (items.flatMap fields')) := by
  induction items with
  | nil => rfl
  | cons a items ih =>
    rw [List.flatMap_cons, List.flatMap_cons, selectionTokens_append, selectionTokens_append,
      outline_append, outline_append, h a List.mem_cons_self,
      ih fun b hb => h b (List.mem_cons_of_mem _ hb)]

/-- What a document puts around its fields holds no strings. -/
theorem outline_document {fields fields' : List Selection}
    (h : outline (selectionTokens fields) = outline (selectionTokens fields')) :
    outline (documentTokens fields) = outline (documentTokens fields') := by
  unfold outline at *
  simp [documentTokens, h]

/-! ## Texts -/

/-- Two texts have the same tokens, except for the texts of their string values. -/
def SameOutline (text text' : String) : Prop :=
  ∃ ts ts', tokens? text = some ts ∧ tokens? text' = some ts' ∧ outline ts = outline ts'

/-- A text has tokens, and the string values among them are certain texts in this order. -/
def HasStringValues (text : String) (strings : List String) : Prop :=
  ∃ ts, tokens? text = some ts ∧ stringValues ts = strings

end ScopeComposer.Graphql
