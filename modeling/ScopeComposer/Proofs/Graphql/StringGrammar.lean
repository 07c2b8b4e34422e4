import ScopeComposer.Proofs.Graphql.Token

/-!
# The grammar of string values

What may stand between the quotes of a string value and which text it is the value of: characters
that stand for themselves, escapes of one character and escapes of four hexadecimal digits. The
lexer reads exactly this, so where a string value ends and what it says is settled by its first
quote that is not escaped.
-/

namespace ScopeComposer.Graphql

/-- What stands between the quotes of a string value, with the text that it stands for. -/
inductive StringBody : List Char → List Char → Prop where
  | nil : StringBody [] []
  /-- A character that is no quote, no backslash and no line end stands for itself. -/
  | plain {c : Char} {body text : List Char} (hquote : c ≠ '"') (hback : c ≠ '\\')
    (hline : isLineEnd c = false) (h : StringBody body text) : StringBody (c :: body) (c :: text)
  /-- A backslash and one character. -/
  | escape {e c : Char} {body text : List Char} (he : simpleEscape? e = some c)
    (h : StringBody body text) : StringBody ('\\' :: e :: body) (c :: text)
  /-- A backslash, the letter `u` and a code point. -/
  | codePoint {h₁ h₂ h₃ h₄ c : Char} {body text : List Char}
    (hc : charOfHex? [h₁, h₂, h₃, h₄] = some c) (h : StringBody body text) :
    StringBody ('\\' :: 'u' :: h₁ :: h₂ :: h₃ :: h₄ :: body) (c :: text)

/-- A text starts with a string value and goes on with `after`. The quotes of the empty value are
only told apart from those of a block string if no third one follows. -/
def StartsWithString (cs : List Char) (value : String) (after : List Char) : Prop :=
  ∃ body, cs = '"' :: (body ++ '"' :: after) ∧ StringBody body value.toList ∧
    (body = [] → after.head? ≠ some '"')

/-! ## The lexer follows the grammar -/

section Reading

variable {cs body text after : List Char}

theorem readString_sound (h : readString cs = some (text, after)) :
    ∃ body, cs = body ++ '"' :: after ∧ StringBody body text := by
  fun_induction readString cs generalizing text after with
  | case1 => cases h
  | case2 rest =>
    obtain ⟨rfl, rfl⟩ : [] = text ∧ rest = after := by simpa using h
    exact ⟨[], rfl, .nil⟩
  | case3 h₁ h₂ h₃ h₄ rest ih =>
    obtain ⟨c, hc, ⟨⟨text', after'⟩, hread, heq⟩⟩ := by
      simpa only [Option.bind_eq_some_iff, Option.map_eq_some_iff] using h
    obtain ⟨rfl, rfl⟩ := Prod.mk.inj heq
    obtain ⟨body, rfl, hbody⟩ := ih hread
    exact ⟨_, rfl, .codePoint hc hbody⟩
  | case4 e rest _ ih =>
    obtain ⟨c, hc, ⟨⟨text', after'⟩, hread, heq⟩⟩ := by
      simpa only [Option.bind_eq_some_iff, Option.map_eq_some_iff] using h
    obtain ⟨rfl, rfl⟩ := Prod.mk.inj heq
    obtain ⟨body, rfl, hbody⟩ := ih hread
    exact ⟨_, rfl, .escape hc hbody⟩
  | case5 c rest => cases h
  | case6 c rest hquote _ _ hplain ih =>
    obtain ⟨⟨text', after'⟩, hread, heq⟩ := Option.map_eq_some_iff.1 h
    obtain ⟨rfl, rfl⟩ := Prod.mk.inj heq
    obtain ⟨body, rfl, hbody⟩ := ih hread
    obtain ⟨hback, hline⟩ : c ≠ '\\' ∧ isLineEnd c = false := by simpa using hplain
    exact ⟨_, rfl, .plain hquote hback hline hbody⟩

theorem readString_complete (h : StringBody body text) (after : List Char) :
    readString (body ++ '"' :: after) = some (text, after) := by
  induction h with
  | nil => rfl
  | plain hquote hback hline _ ih => simp [readString, hback, hline, ih, consChar]
  | @escape e c body text he _ ih =>
    have hu : e ≠ 'u' := by
      rintro rfl
      simp [simpleEscape?] at he
    simp [readString, hu, he, ih, consChar]
  | codePoint hc _ ih => simp [readString, hc, ih, consChar]

/-- Two quotes at the start of what follows the opening one are those of an empty value and of what
comes after it. -/
theorem startsBlock_eq_true_iff (h : StringBody body text) :
    startsBlock (body ++ '"' :: after) = true ↔ body = [] ∧ after.head? = some '"' := by
  cases h with
  | nil =>
    cases after with
    | nil => simp [startsBlock]
    | cons c after => by_cases hc : c = '"' <;> simp [startsBlock, hc]
  | plain hquote _ _ _ => simp [startsBlock, hquote]
  | escape _ _ => simp [startsBlock]
  | codePoint _ _ => simp [startsBlock]

theorem readToken_quote (cs : List Char) : readToken ('"' :: cs) =
    if startsBlock cs then none
    else (readString cs).map fun (text, after) => (.string (String.ofList text), after) := by
  have hp : punctuator? '"' = none := by decide
  have hstart : isNameStart '"' = false := by decide
  simp [readToken, hp, hstart]

/-- A string token is read where the text starts with a string value, and nowhere else. -/
theorem readToken_eq_string_iff {value : String} :
    readToken cs = some (.string value, after) ↔ StartsWithString cs value after := by
  constructor
  · intro h
    obtain ⟨rest, rfl⟩ : ∃ rest, cs = '"' :: rest := by
      cases cs with
      | nil => cases h
      | cons c rest =>
        refine ⟨rest, congrArg (· :: rest) ?_⟩
        by_contra hquote
        -- any other first character starts a token of another kind
        simp only [readToken, hquote, if_false] at h
        split at h
        · cases h
        · split_ifs at h <;> simp at h
    rw [readToken_quote] at h
    split at h
    · cases h
    · next hblock =>
      obtain ⟨⟨text, after'⟩, hread, heq⟩ := Option.map_eq_some_iff.1 h
      obtain ⟨htext, rfl⟩ := Prod.mk.inj heq
      obtain rfl := Token.string.inj htext
      obtain ⟨body, rfl, hbody⟩ := readString_sound hread
      rw [startsBlock_eq_true_iff hbody, not_and] at hblock
      exact ⟨body, rfl, by simpa using hbody, hblock⟩
  · rintro ⟨body, rfl, hbody, hblock⟩
    have hnoblock : ¬ startsBlock (body ++ '"' :: after) = true := by
      rw [startsBlock_eq_true_iff hbody, not_and]
      exact hblock
    rw [readToken_quote, if_neg hnoblock, readString_complete hbody]
    simp

end Reading

/-! ## String literals -/

/-- Between the quotes of a literal stands what is read as its text. -/
theorem stringBody_literal (cs : List Char) : StringBody (cs.flatMap literalChar) cs := by
  induction cs with
  | nil => exact .nil
  | cons c cs ih =>
    rw [List.flatMap_cons]
    unfold literalChar
    split_ifs with hquote hback hfeed hreturn htab
    · subst hquote
      exact .escape rfl ih
    · subst hback
      exact .escape rfl ih
    · subst hfeed
      exact .escape rfl ih
    · subst hreturn
      exact .escape rfl ih
    · subst htab
      exact .escape rfl ih
    · have hline : isLineEnd c = false := by simp [isLineEnd, hfeed, hreturn]
      exact .plain hquote hback hline ih

/-- A literal is a string value that ends where it ends, as long as no quote follows. -/
theorem startsWithString_literal (s : String) {rest : List Char} (hrest : rest.head? ≠ some '"') :
    StartsWithString ((literal s).toList ++ rest) s rest := by
  refine ⟨s.toList.flatMap literalChar, ?_, stringBody_literal s.toList, fun _ => hrest⟩
  simp [literal, literalChars]

end ScopeComposer.Graphql
