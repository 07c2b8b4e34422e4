import ScopeComposer.Graphql.Literal
import ScopeComposer.Proofs.Graphql.Alphabet
import ScopeComposer.Proofs.Graphql.Syntax

/-!
# Heads as text

How the head of a field is written in a document, and that the lexer reads the tokens of the head
back. A head stands on one line: whatever a caller puts into a string value, no line ends in it.
-/

namespace ScopeComposer.Graphql

/-- A value without parts, as text. -/
def Scalar.text : Scalar → String
  | .name s => s
  | .int n => toString n
  | .string s => literal s

/-- A value as text. -/
def Value.text : Value → String
  | .scalar v => v.text
  | .list items => "[" ++ ", ".intercalate (items.map Scalar.text) ++ "]"

/-- An argument as text. -/
def Argument.text (a : Argument) : String := a.name ++ ": " ++ a.value.text

/-- The arguments of a field as text. -/
def argumentsText : List Argument → String
  | [] => ""
  | arguments => "(" ++ ", ".intercalate (arguments.map Argument.text) ++ ")"

/-- A head as text. -/
def Head.text (h : Head) : String :=
  (match h.label with
    | none => ""
    | some l => l ++ ": ") ++ h.name ++ argumentsText h.arguments

/-- Whether what stands for a name is one. -/
def Scalar.isNamed : Scalar → Bool
  | .name s => isName s
  | _ => true

/-- Whether what stands for a name in a value is one. -/
def Value.isNamed : Value → Bool
  | .scalar v => v.isNamed
  | .list items => items.all Scalar.isNamed

/-- Whether what stands for a name in a head is one. -/
def Head.isNamed (h : Head) : Bool :=
  h.label.all isName && isName h.name && h.arguments.all fun a => isName a.name && a.value.isNamed

/-! ## Texts that are read in full -/

/-- A text on one line that is read as certain tokens wherever what follows it starts apart. -/
structure LexesTo (cs : List Char) (ts : List Token) : Prop where
  /-- No line ends in the text. -/
  one_line : '\r' ∉ cs ∧ '\n' ∉ cs
  /-- The tokens come first, and then those of what follows. -/
  lex_append : ∀ rest, StartsApart rest → lex (cs ++ rest) = (lex rest).map (ts ++ ·)
  /-- What may not stand in a document is in string values. -/
  controls_eq : controls cs = ts.flatMap Token.controls

namespace LexesTo

theorem nil : LexesTo [] [] where
  one_line := by simp
  lex_append rest _ := by simp
  controls_eq := rfl

theorem name {s : String} (hs : isName s = true) : LexesTo s.toList [.name s] where
  one_line := by
    have hpart := isNamePart_of_isName hs
    exact ⟨fun h => absurd (hpart _ h) (by decide), fun h => absurd (hpart _ h) (by decide)⟩
  lex_append _ hrest := lex_name hs hrest
  controls_eq := controls_name hs

/-- Line ends are escaped in a string literal. -/
theorem literal_one_line (s : String) :
    '\r' ∉ (Graphql.literal s).toList ∧ '\n' ∉ (Graphql.literal s).toList := by
  have hchar : ∀ c, '\r' ∉ literalChar c ∧ '\n' ∉ literalChar c := by
    intro c
    unfold literalChar
    split_ifs <;> simp [*, Ne.symm, eq_comm]
  simp only [Graphql.literal, literalChars, String.toList_ofList]
  simp [hchar]

theorem literal (s : String) : LexesTo (Graphql.literal s).toList [.string s] where
  one_line := literal_one_line s
  lex_append _ hrest := lex_literal s hrest
  controls_eq := (controls_literal s).trans (List.append_nil _).symm

/-- A blank or a comma in front of a text. -/
theorem ignored {c : Char} {cs : List Char} {ts : List Token} (hc : c = ' ' ∨ c = ',')
    (h : LexesTo cs ts) : LexesTo (c :: cs) ts where
  one_line := by rcases hc with rfl | rfl <;> simp [h.one_line]
  lex_append rest hrest := by
    have hi : isIgnored c = true := by rcases hc with rfl | rfl <;> decide
    rw [List.cons_append, lex_ignored hi, h.lex_append rest hrest]
  controls_eq := by
    have hsource : isSourceChar c = true := by rcases hc with rfl | rfl <;> decide
    rw [controls_cons hsource, h.controls_eq]

theorem punctuator {c : Char} {p : Punctuator} {cs : List Char} {ts : List Token}
    (hc : punctuator? c = some p) (h : LexesTo cs ts) :
    LexesTo (c :: cs) (.punctuator p :: ts) where
  one_line := by
    have hr : c ≠ '\r' := by
      rintro rfl
      simp [punctuator?, punctuators] at hc
    have hn : c ≠ '\n' := by
      rintro rfl
      simp [punctuator?, punctuators] at hc
    simp [hr.symm, hn.symm, h.one_line]
  lex_append rest hrest := by
    rw [List.cons_append, lex_punctuator hc, h.lex_append rest hrest]
    simp [Function.comp_def]
  controls_eq := by
    have hsource := isSourceChar_of_separator (mem_separators_of_punctuator? hc)
    rw [controls_cons hsource, h.controls_eq]
    rfl

/-- A separator parts what stands before it from what follows. -/
theorem append {c : Char} {cs ds : List Char} {ts us : List Token} (hc : c ∈ separators)
    (hcs : LexesTo cs ts) (hds : LexesTo (c :: ds) us) :
    LexesTo (cs ++ c :: ds) (ts ++ us) where
  one_line := by
    have hd := hds.one_line
    simp only [List.mem_append, not_or]
    exact ⟨⟨hcs.one_line.1, hd.1⟩, ⟨hcs.one_line.2, hd.2⟩⟩
  lex_append rest hrest := by
    have hstart : StartsApart (c :: ds ++ rest) := by
      intro d hd
      obtain rfl : c = d := by simpa using hd
      exact hc
    rw [List.append_assoc, hcs.lex_append _ hstart, hds.lex_append rest hrest]
    simp [Function.comp_def]
  controls_eq := by
    rw [controls_append, List.flatMap_append, hcs.controls_eq, hds.controls_eq]

theorem toDigits_one_line (n : Nat) : '\r' ∉ Nat.toDigits 10 n ∧ '\n' ∉ Nat.toDigits 10 n :=
  ⟨fun h => absurd (Text.isDigit_of_mem_toDigits h) (by decide),
    fun h => absurd (Text.isDigit_of_mem_toDigits h) (by decide)⟩

theorem int (n : Int) : LexesTo (toString n).toList [.int n] := by
  cases n with
  | ofNat n =>
    rw [Text.toList_toString_ofNat]
    exact ⟨toDigits_one_line n, fun rest hrest => lex_nat n hrest, controls_toDigits n⟩
  | negSucc n =>
    rw [Text.toList_toString_negSucc]
    have hminus : controls ('-' :: Nat.toDigits 10 (n + 1)) = [] := by
      rw [controls_cons (by decide), controls_toDigits]
    refine ⟨by simp [toDigits_one_line], fun rest hrest => ?_, hminus⟩
    have hread := readNumber_toDigits (n + 1) hrest
    have hclass : punctuator? '-' = none ∧ isNameStart '-' = false := by decide
    refine lex_of_readToken (by decide) (by decide) ?_
    simp [readToken, hclass, hread, Int.negSucc_eq]

end LexesTo

/-! ## Heads are read in full -/

theorem lexesTo_scalar {v : Scalar} (h : v.isNamed = true) : LexesTo v.text.toList [v.token] := by
  cases v with
  | name s => exact LexesTo.name h
  | int n => exact LexesTo.int n
  | string s => exact LexesTo.literal s

/-- Texts with commas between them are read one after the other. -/
theorem lexesTo_intercalate {α : Type} (text : α → String) (tokens : α → List Token)
    {items : List α}
    (h : ∀ a ∈ items, LexesTo (text a).toList (tokens a)) :
    LexesTo (", ".intercalate (items.map text)).toList (items.flatMap tokens) := by
  induction items with
  | nil => exact LexesTo.nil
  | cons a items ih =>
    have ha := h a List.mem_cons_self
    have hitems := ih fun b hb => h b (List.mem_cons_of_mem _ hb)
    cases items with
    | nil => simpa using ha
    | cons b items =>
      have hsep := LexesTo.ignored (c := ',') (by decide)
        (LexesTo.ignored (c := ' ') (by decide) hitems)
      have hboth := LexesTo.append (by decide) ha hsep
      rw [List.map_cons, List.map_cons, String.intercalate_cons_cons, String.toList_append,
        String.toList_append, List.append_assoc, List.flatMap_cons]
      exact hboth

theorem lexesTo_value {v : Value} (h : v.isNamed = true) : LexesTo v.text.toList v.tokens := by
  cases v with
  | scalar v => exact lexesTo_scalar h
  | list items =>
    have hitems := lexesTo_intercalate Scalar.text (fun v => [v.token])
      fun v hv => lexesTo_scalar (List.all_eq_true.1 h v hv)
    have hclose := LexesTo.append (c := ']') (by decide) hitems
      (LexesTo.punctuator (p := .bracketR) (by decide) LexesTo.nil)
    have hopen := LexesTo.punctuator (c := '[') (p := .bracketL) (by decide) hclose
    rw [← List.map_eq_flatMap] at hopen
    simpa [Value.text, Value.tokens] using hopen

theorem lexesTo_argument {a : Argument} (hname : isName a.name = true)
    (hvalue : a.value.isNamed = true) : LexesTo a.text.toList a.tokens := by
  have hcolon := LexesTo.punctuator (c := ':') (p := .colon) (by decide)
    (LexesTo.ignored (c := ' ') (by decide) (lexesTo_value hvalue))
  have hboth := LexesTo.append (by decide) (LexesTo.name hname) hcolon
  simpa [Argument.text, Argument.tokens] using hboth

theorem lexesTo_head {h : Head} (hnamed : h.isNamed = true) : LexesTo h.text.toList h.tokens := by
  obtain ⟨label, name, arguments⟩ := h
  simp only [Head.isNamed, Bool.and_eq_true, List.all_eq_true] at hnamed
  obtain ⟨⟨hlabel, hname⟩, harguments⟩ := hnamed
  have hbare : LexesTo (name ++ argumentsText arguments).toList
      (.name name :: argumentTokens arguments) := by
    cases arguments with
    | nil => simpa [argumentsText, argumentTokens] using LexesTo.name hname
    | cons a arguments =>
      have hlist := lexesTo_intercalate Argument.text Argument.tokens
        fun b hb => lexesTo_argument (harguments b hb).1 (harguments b hb).2
      have hclose := LexesTo.append (c := ')') (by decide) hlist
        (LexesTo.punctuator (p := .parenR) (by decide) LexesTo.nil)
      have hopen := LexesTo.punctuator (c := '(') (p := .parenL) (by decide) hclose
      have hboth := LexesTo.append (by decide) (LexesTo.name hname) hopen
      simpa [argumentsText, argumentTokens] using hboth
  cases label with
  | none => simpa [Head.text, Head.tokens] using hbare
  | some l =>
    have hcolon := LexesTo.punctuator (c := ':') (p := .colon) (by decide)
      (LexesTo.ignored (c := ' ') (by decide) hbare)
    have hboth := LexesTo.append (by decide) (LexesTo.name (s := l) (by simpa using hlabel)) hcolon
    simpa [Head.text, Head.tokens] using hboth

end ScopeComposer.Graphql
