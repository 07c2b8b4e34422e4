import ScopeComposer.Proofs.Graphql.Syntax

/-!
# Reading written queries

The reader undoes the writer, whatever the reader has already done and whatever follows the field.
So a document has at most one tree, and two trees that are written alike are equal.
-/

namespace ScopeComposer.Graphql

/-- Whether some tokens cannot belong to a head before them. -/
def StartsAfterHead (ts : List Token) : Prop :=
  ∀ t ∈ ts.head?, t ≠ .punctuator .colon ∧ t ≠ .punctuator .parenL

/-- Whether some tokens cannot belong to a field before them. -/
def StartsAfterField (ts : List Token) : Prop :=
  StartsAfterHead ts ∧ ts.head? ≠ some (.punctuator .braceL)

/-! ## Heads -/

theorem readItems_tokens (items : List Scalar) (rest : List Token) :
    readItems (items.map Scalar.token ++ .punctuator .bracketR :: rest) = some (items, rest) := by
  induction items with
  | nil => simp [readItems]
  | cons v items ih => cases v <;> simp [Scalar.token, readItems, scalar?, ih]

theorem readValue_tokens (v : Value) (rest : List Token) :
    readValue (v.tokens ++ rest) = some (v, rest) := by
  cases v with
  | scalar v => cases v <;> simp [Value.tokens, Scalar.token, readValue, scalar?]
  | list items => simp [Value.tokens, readValue, readItems_tokens]

theorem readArguments_tokens (arguments : List Argument) (rest : List Token) :
    readArguments (arguments.flatMap Argument.tokens ++ .punctuator .parenR :: rest) =
      some (arguments, rest) := by
  induction arguments with
  | nil => simp [readArguments]
  | cons a arguments ih =>
    have hvalue := readValue_tokens a.value
      (arguments.flatMap Argument.tokens ++ .punctuator .parenR :: rest)
    rw [List.flatMap_cons, Argument.tokens, List.cons_append, List.cons_append, List.cons_append,
      List.cons_append, List.append_assoc, readArguments]
    split
    · next hnone => rw [hvalue] at hnone; cases hnone
    · next v after hsome =>
      rw [hvalue] at hsome
      obtain ⟨rfl, rfl⟩ := Prod.mk.inj (Option.some.inj hsome)
      rw [ih]
      rfl

theorem readHeadFrom_tokens (label : Option String) (name : String) (arguments : List Argument)
    {rest : List Token} (hrest : StartsAfterHead rest) :
    readHeadFrom label name (argumentTokens arguments ++ rest) =
      some (⟨label, name, arguments⟩, rest) := by
  cases arguments with
  | nil =>
    cases rest with
    | nil => rfl
    | cons t rest =>
      have hparen := (hrest t rfl).2
      unfold readHeadFrom argumentTokens
      split
      · next heq => exact absurd (List.cons.inj heq).1 hparen
      · rfl
  | cons a arguments =>
    have hread := readArguments_tokens (a :: arguments) rest
    simp only [argumentTokens, List.cons_append, List.append_assoc, List.nil_append,
      readHeadFrom, hread]

theorem readHead_tokens (h : Head) {rest : List Token} (hrest : StartsAfterHead rest) :
    readHead (h.tokens ++ rest) = some (h, rest) := by
  obtain ⟨label, name, arguments⟩ := h
  cases label with
  | some l =>
    simp [Head.tokens, readHead, readHeadFrom_tokens (some l) name arguments hrest]
  | none =>
    have hread := readHeadFrom_tokens none name arguments hrest
    simp only [Head.tokens, Option.toList_none, List.flatMap_nil, List.nil_append,
      List.cons_append]
    unfold readHead
    split
    · next l n more heq =>
      -- a colon can stand neither in front of the arguments nor after the head
      exfalso
      have htail := (List.cons.inj heq).2
      cases arguments with
      | nil =>
        have hcolon : rest = .punctuator .colon :: .name n :: more := htail
        exact (hrest (.punctuator .colon) (by rw [hcolon]; rfl)).1 rfl
      | cons a arguments => simp [argumentTokens] at htail
    · next n more _ heq =>
      obtain ⟨hname, rfl⟩ := List.cons.inj heq
      obtain rfl := Token.name.inj hname
      exact hread
    · next _ hno => exact absurd rfl (hno _ _)

/-- The tokens of a head start with a name. -/
theorem tokens_head (h : Head) (rest : List Token) :
    ∃ n more, h.tokens ++ rest = .name n :: more := by
  obtain ⟨label, name, arguments⟩ := h
  cases label with
  | none => exact ⟨name, _, rfl⟩
  | some l => exact ⟨l, _, rfl⟩

/-! ## Fields -/

theorem readFields_open (stack : List OpenField) (done : List Selection) (h : Head)
    (rest : List Token) : readFields stack done (h.tokens ++ .punctuator .braceL :: rest) =
      readFields (⟨h, done⟩ :: stack) [] rest := by
  have hstart : StartsAfterHead (.punctuator .braceL :: rest) := by simp [StartsAfterHead]
  have hread := readHead_tokens h hstart
  obtain ⟨n, more, heq⟩ := tokens_head h (.punctuator .braceL :: rest)
  rw [heq] at hread ⊢
  rw [readFields]
  · split
    · next hnone => rw [hread] at hnone; cases hnone
    · next hsome =>
      rw [hread] at hsome
      obtain ⟨rfl, htail⟩ := Prod.mk.inj (Option.some.inj hsome)
      rw [(List.cons.inj htail).2]
    · next hno hsome =>
      rw [hread] at hsome
      obtain ⟨rfl, rfl⟩ := Prod.mk.inj (Option.some.inj hsome)
      exact absurd rfl (hno _)
  · rintro ⟨⟩

/-- A head that no brace follows is a field of its own. -/
theorem readFields_leaf (stack : List OpenField) (done : List Selection) (h : Head)
    {rest : List Token} (hrest : StartsAfterField rest) :
    readFields stack done (h.tokens ++ rest) = readFields stack (.leaf h :: done) rest := by
  have hread := readHead_tokens h hrest.1
  obtain ⟨n, more, heq⟩ := tokens_head h rest
  rw [heq] at hread ⊢
  rw [readFields]
  · split
    · next hnone => rw [hread] at hnone; cases hnone
    · next hsome =>
      rw [hread] at hsome
      obtain ⟨-, htail⟩ := Prod.mk.inj (Option.some.inj hsome)
      exact absurd (by rw [htail]; rfl) hrest.2
    · next hsome =>
      rw [hread] at hsome
      obtain ⟨rfl, rfl⟩ := Prod.mk.inj (Option.some.inj hsome)
      rfl
  · rintro ⟨⟩

theorem readFields_close (field : OpenField) (stack : List OpenField) (done : List Selection)
    (rest : List Token) : readFields (field :: stack) done (.punctuator .braceR :: rest) =
      readFields stack (.node field.head done.reverse :: field.before) rest := by
  rw [readFields]

theorem tokens_node_append (h : Head) (fields : List Selection) (rest : List Token) :
    (Selection.node h fields).tokens ++ rest = h.tokens ++ .punctuator .braceL ::
      (selectionTokens fields ++ .punctuator .braceR :: rest) := by
  simp [Selection.tokens]

/-- Fields start with a name, so that what follows a field may be further fields. -/
theorem startsAfterField_append (fields : List Selection) {rest : List Token}
    (hrest : StartsAfterField rest) : StartsAfterField (selectionTokens fields ++ rest) := by
  cases fields with
  | nil => exact hrest
  | cons s fields =>
    have hname : ∃ n more, s.tokens ++ (selectionTokens fields ++ rest) = .name n :: more := by
      cases s with
      | leaf h => exact tokens_head h _
      | node h children =>
        rw [tokens_node_append]
        exact tokens_head h _
    obtain ⟨n, more, heq⟩ := hname
    rw [selectionTokens, List.append_assoc, heq]
    simp [StartsAfterField, StartsAfterHead]

mutual

/-- The reader takes a written field as a whole. -/
theorem readFields_tokens (s : Selection) (stack : List OpenField) (done : List Selection)
    {rest : List Token} (hrest : StartsAfterField rest) :
    readFields stack done (s.tokens ++ rest) = readFields stack (s :: done) rest := by
  cases s with
  | leaf h => exact readFields_leaf stack done h hrest
  | node h fields =>
    have hclose : StartsAfterField (.punctuator .braceR :: rest) := by
      simp [StartsAfterField, StartsAfterHead]
    rw [tokens_node_append, readFields_open, readFields_selectionTokens fields _ _ hclose,
      readFields_close]
    simp

/-- The reader takes written fields as a whole. -/
theorem readFields_selectionTokens (fields : List Selection) (stack : List OpenField)
    (done : List Selection) {rest : List Token} (hrest : StartsAfterField rest) :
    readFields stack done (selectionTokens fields ++ rest) =
      readFields stack (fields.reverse ++ done) rest := by
  cases fields with
  | nil => rfl
  | cons s fields =>
    rw [selectionTokens, List.append_assoc,
      readFields_tokens s _ _ (startsAfterField_append fields hrest),
      readFields_selectionTokens fields _ _ hrest]
    simp

end

/-- A written document is read back. -/
theorem parseTokens?_documentTokens (fields : List Selection) :
    parseTokens? (documentTokens fields) = some fields := by
  rw [documentTokens, List.cons_append, List.cons_append, parseTokens?,
    readFields_selectionTokens fields _ _ (by simp [StartsAfterField, StartsAfterHead]), readFields]
  simp

end ScopeComposer.Graphql
