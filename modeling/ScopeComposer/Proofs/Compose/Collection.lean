import ScopeComposer.Compose.Collection
import ScopeComposer.Proofs.Graphql.FixedFields

/-!
# Collections as fields

The field of a paginated collection: its window as arguments and, in its selection set, the number
of all elements if that is wanted, what the collection says of its pages, and the nodes.
-/

namespace ScopeComposer

open Graphql

/-- The value of the argument that says where a page starts. -/
def Cursor.scalar (c : Cursor) : Scalar :=
  match c.value with
  | Option.none => .name "null"
  | some s => .string s

/-- A window as arguments of a field. -/
def PageWindow.argumentList (w : PageWindow) : List Argument :=
  [⟨"first", .scalar (.int w.pageSize.value)⟩, ⟨"after", .scalar w.continueAfter.scalar⟩]

namespace Graphql

/-- The head of a field that takes a window. -/
def windowHead (name : String) (w : PageWindow) : Head := ⟨none, name, w.argumentList⟩

/-- The head of a field that takes a number. -/
def numberHead (name : String) (number : UInt64) : Head :=
  ⟨none, name, [⟨"number", .scalar (.int number.toNat)⟩]⟩

/-- The selection set of a collection. -/
def collectionFields (withTotal : Bool) (nodes : List Selection) : List Selection :=
  (if withTotal then [.leaf (.plain "totalCount")] else []) ++
    [pageInfoField, .node (.plain "nodes") nodes]

/-- The field of a window of a collection with fixed fields of its nodes. -/
def scopedField (name : String) (w : PageWindow) (options : DocumentOptions)
    (fields : List Field) : Selection :=
  .node (windowHead name w) (collectionFields options.withTotals (fieldSelections fields))

/-- The fields of the languages of a repository. -/
def languageSelections (w : PageWindow) (options : DocumentOptions) : List Selection :=
  [.node (.plain "primaryLanguage") (fieldSelections languageFields),
    scopedField "languages" w options languageFields]

/-! ## Heads -/

/-- The arguments of a window are written as the window writes them. -/
theorem text_arguments (w : PageWindow) :
    ", ".intercalate (w.argumentList.map Argument.text) = w.arguments := by
  have hsize : toString (w.pageSize.value : Int) = w.pageSize.text := rfl
  have hcursor : w.continueAfter.scalar.text = w.continueAfter.argument := by
    cases hvalue : w.continueAfter.value <;>
      simp [Cursor.scalar, Cursor.argument, hvalue, Scalar.text]
  apply String.ext
  simp [PageWindow.argumentList, PageWindow.arguments, Argument.text, Value.text, Scalar.text,
    hsize, ← hcursor]

/-- The head of a field with a window is written as composing writes it, which puts name and
parenthesis together beforehand. -/
theorem text_windowHead {name opened : String} (h : name ++ "(" = opened) (w : PageWindow) :
    (windowHead name w).text = opened ++ w.arguments ++ ")" := by
  rw [← text_arguments, ← h]
  apply String.ext
  simp [windowHead, Head.text, argumentsText, PageWindow.argumentList]

/-- The names in the arguments of a window are names of the language; cursors stand in literals. -/
theorem isNamed_arguments (w : PageWindow) :
    (w.argumentList.all fun a => isName a.name && a.value.isNamed) = true := by
  have hnames : isName "first" = true ∧ isName "after" = true ∧ isName "null" = true := by decide
  have hcursor : w.continueAfter.scalar.isNamed = true := by
    cases hvalue : w.continueAfter.value <;>
      simp [Cursor.scalar, hvalue, Scalar.isNamed, hnames]
  have hsize : (Scalar.int w.pageSize.value).isNamed = true := rfl
  simp only [PageWindow.argumentList, List.all_cons, List.all_nil, Value.isNamed, hcursor, hnames,
    hsize, Bool.and_self]

/-- A head with a window has to be checked for the name of its field only. -/
theorem isNamed_windowHead (name : String) (h : isName name = true) (w : PageWindow) :
    (windowHead name w).isNamed = true := by
  rw [Head.isNamed, windowHead, isNamed_arguments, h]
  rfl

/-- The head of a field with a number is written as composing writes it, which puts everything up to
the number together beforehand. -/
theorem text_numberHead {name opened : String} (h : name ++ "(number: " = opened)
    (number : UInt64) : (numberHead name number).text = opened ++ toString number ++ ")" := by
  have hnumber : toString (number.toNat : Int) = toString number := rfl
  rw [← h]
  apply String.ext
  simp [numberHead, Head.text, argumentsText, Argument.text, Value.text, Scalar.text, hnumber]

/-- A head with a number has to be checked for the name of its field only. -/
theorem isNamed_numberHead (name : String) (h : isName name = true) (number : UInt64) :
    (numberHead name number).isNamed = true := by
  have hnumber : isName "number" = true := by decide
  simp [numberHead, Head.isNamed, Value.isNamed, Scalar.isNamed, h, hnumber]

/-! ## Texts -/

/-- A name by itself is read as a field without arguments. -/
theorem Reads.name (s : String) (h : isName s = true) : Reads [s] [.leaf (.plain s)] := by
  have hleaf := Reads.leaf (isNamed_plain h)
  rwa [show (Head.plain s).text = s from String.ext (text_plain s)] at hleaf

/-- A block is read as a field with what its body is read as. -/
theorem Reads.namedBlock (name : String) {body : String} {fields : List Selection}
    (h : isName name = true) (hbody : Reads [body] fields) :
    Reads [Graphql.block name body] [.node (.plain name) fields] := by
  have hblock := Reads.block (isNamed_plain h) hbody
  rwa [show (Head.plain name).text = name from String.ext (text_plain name)] at hblock

/-- A collection is read as one field that holds the number of all elements, if that is wanted, what
is said of the pages, and the nodes. -/
theorem Reads.collection {h : Head} {nodes : String} {fields : List Selection}
    (hnamed : h.isNamed = true) (withTotal : Bool) (hnodes : Reads [nodes] fields) :
    Reads [Graphql.collection h.text withTotal nodes]
      [.node h (collectionFields withTotal fields)] := by
  have htotal : Reads [if withTotal then totalCount else ""]
      (if withTotal then [.leaf (.plain "totalCount")] else []) := by
    cases withTotal with
    | true => exact Reads.name "totalCount" (by decide)
    | false => exact Reads.blank (by decide) (by decide)
  have hblock := Reads.namedBlock "nodes" (by decide) hnodes
  have htop := Reads.join (Reads.cons htotal Reads.pageInfo)
  have hbody := Reads.join (Reads.cons htop hblock)
  rw [List.append_assoc] at hbody
  exact Reads.block hnamed hbody

/-- A collection of a scope is read as the field of its window with the fixed fields of its nodes.
-/
theorem Reads.scopedCollection (name : String) (fields : List Field) (h : isName name = true)
    (hfields : fieldsNamed fields = true) (w : PageWindow) (options : DocumentOptions) :
    Reads [Graphql.scopedCollection name w options fields] [scopedField name w options fields] := by
  have hall := Reads.collection (isNamed_windowHead name h w) options.withTotals
    (Reads.layout hfields 1)
  rwa [text_windowHead rfl] at hall

/-- The languages of a repository are read as two fields: the main one, and the collection of all.
-/
theorem Reads.languages (w : PageWindow) (options : DocumentOptions) :
    Reads [Graphql.languages w options] (languageSelections w options) := by
  have hnamed : fieldsNamed languageFields = true := by decide
  have hprimary := Reads.namedBlock "primaryLanguage" (by decide) (Reads.layout hnamed 1)
  have hall := Reads.scopedCollection "languages" languageFields (by decide) hnamed w options
  exact Reads.join (Reads.cons hprimary hall)

end Graphql

end ScopeComposer
