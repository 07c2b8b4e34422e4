import ScopeComposer.Proofs.Graphql.Lexing

/-!
# The alphabet of documents

A document may hold tabs, line feeds, carriage returns and every character from the space upwards.
The other control characters may only be written as escapes, and only in string values. A string
literal escapes none of them, so it holds those of its text; no other token has any.
-/

namespace ScopeComposer.Graphql

/-- Whether a document may hold a character as it is. The rule is that of the GraphQL specification
for a `SourceCharacter`, which in the edition of October 2021 ends at U+FFFF; that upper bound is
left out here, so that only control characters are outside. -/
def isSourceChar (c : Char) : Bool := c == '\t' || c == '\n' || c == '\r' || 0x20 ≤ c.toNat

/-- All characters of a text may stand in a document as they are. -/
def InAlphabet (s : String) : Prop := ∀ c ∈ s.toList, isSourceChar c = true

instance : DecidablePred InAlphabet := fun s =>
  decidable_of_iff (s.toList.all isSourceChar = true) List.all_eq_true

/-- The text is a string value that may stand in a document. -/
def IsStringValue (s : String) : Prop :=
  InAlphabet s ∧ ∃ value, StartsWithString s.toList value []

/-- The characters of a text that may not stand in a document, in order. -/
def controls (cs : List Char) : List Char := cs.filter fun c => !isSourceChar c

/-- The characters that a token brings into a document although they may not stand there. -/
def Token.controls : Token → List Char
  | .string s => Graphql.controls s.toList
  | _ => []

/-! ## Texts -/

theorem controls_append (cs ds : List Char) : controls (cs ++ ds) = controls cs ++ controls ds :=
  List.filter_append cs ds

theorem controls_cons {c : Char} (h : isSourceChar c = true) (cs : List Char) :
    controls (c :: cs) = controls cs := by
  simp [controls, h]

/-- A text may stand in a document just if nothing of it is left over. -/
theorem controls_eq_nil_iff {cs : List Char} :
    controls cs = [] ↔ ∀ c ∈ cs, isSourceChar c = true := by
  simp [controls]

theorem inAlphabet_iff {s : String} : InAlphabet s ↔ controls s.toList = [] :=
  controls_eq_nil_iff.symm

/-- Composing puts tokens apart with characters that a document may hold. -/
theorem isSourceChar_of_separator {c : Char} (h : c ∈ separators) : isSourceChar c = true := by
  have hall : separators.all isSourceChar = true := by decide
  exact List.all_eq_true.1 hall c h

/-- A name consists of letters, digits and underscores. -/
theorem isSourceChar_of_isNamePart {c : Char} (h : isNamePart c = true) :
    isSourceChar c = true := by
  have hlow := (isNamePart_bounds h).1
  have hspace : 0x20 ≤ c.toNat := by omega
  simp [isSourceChar, hspace]

theorem controls_name {s : String} (h : isName s = true) : controls s.toList = [] :=
  controls_eq_nil_iff.2 fun _ hc => isSourceChar_of_isNamePart (isNamePart_of_isName h _ hc)

theorem controls_toDigits (n : Nat) : controls (Nat.toDigits 10 n) = [] := by
  refine controls_eq_nil_iff.2 fun c hc => isSourceChar_of_isNamePart ?_
  simp [isNamePart, Char.isAlphanum, Text.isDigit_of_mem_toDigits hc]

/-! ## String literals -/

/-- The characters that a literal escapes are not those that would have to be. -/
theorem controls_literalChar (c : Char) : controls (literalChar c) = controls [c] := by
  unfold literalChar
  split_ifs with hquote hback hfeed hreturn htab
  · subst hquote
    decide
  · subst hback
    decide
  · subst hfeed
    decide
  · subst hreturn
    decide
  · subst htab
    decide
  · rfl

/-- A literal escapes quotes, backslashes and some white space, and no other control character. -/
theorem controls_literal (s : String) : controls (literal s).toList = controls s.toList := by
  have hinner : ∀ cs : List Char, controls (cs.flatMap literalChar) = controls cs := by
    intro cs
    induction cs with
    | nil => rfl
    | cons c cs ih =>
      rw [List.flatMap_cons, controls_append, controls_literalChar, ih, ← controls_append]
      rfl
  have hquote : isSourceChar '"' = true := by decide
  rw [literal, String.toList_ofList, literalChars, controls_append,
    controls_cons hquote, hinner, controls_cons hquote]
  exact List.append_nil _

/-- A literal may stand in a document just if its text may. -/
theorem isStringValue_literal_iff {s : String} : IsStringValue (literal s) ↔ InAlphabet s := by
  have hstarts : StartsWithString ((literal s).toList ++ []) s [] :=
    startsWithString_literal s nofun
  rw [List.append_nil] at hstarts
  rw [IsStringValue, inAlphabet_iff, controls_literal, ← inAlphabet_iff]
  exact and_iff_left ⟨s, hstarts⟩

end ScopeComposer.Graphql
