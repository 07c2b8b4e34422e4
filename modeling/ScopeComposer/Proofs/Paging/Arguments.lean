import ScopeComposer.Proofs.Compose.Collection
import ScopeComposer.Proofs.Graphql.StringGrammar
import ScopeComposer.Proofs.Paging.Window

/-!
# Windows read back from their arguments

A server finds in the arguments of a field the page size and the cursor that were written there.
Whatever a cursor says, its literal ends where it was meant to end and is the value of that text
alone, so that a window can be told from its arguments.
-/

namespace ScopeComposer

open Graphql

theorem Cursor.value_ofString {s : String} (h : s ∉ cursorPlaceholders) :
    (Cursor.ofString s).value = some s := by
  rw [ofString, dif_neg h]

/-- No text stands for the beginning of a collection, since `null` is no string value. -/
theorem Cursor.scalar_injective : Function.Injective Cursor.scalar := by
  intro a b h
  apply ext_value
  unfold scalar at h
  cases ha : a.value with
  | none =>
    cases hb : b.value with
    | none => rfl
    | some t =>
      rw [ha, hb] at h
      cases h
  | some s =>
    cases hb : b.value with
    | none =>
      rw [ha, hb] at h
      cases h
    | some t =>
      rw [ha, hb] at h
      exact congrArg some (Scalar.string.inj h)

namespace PageWindow

/-- The tokens of the arguments of a window. -/
def tokens (w : PageWindow) : List Token :=
  [.name "first", .punctuator .colon, .int w.pageSize.value, .name "after", .punctuator .colon,
    w.continueAfter.scalar.token]

theorem tokens?_arguments (w : PageWindow) : tokens? w.arguments = some w.tokens := by
  have hnamed : ∀ a ∈ w.argumentList, LexesTo a.text.toList a.tokens := by
    intro a ha
    have ha' := List.all_eq_true.1 (isNamed_arguments w) a ha
    obtain ⟨hname, hvalue⟩ := Bool.and_eq_true_iff.1 ha'
    exact lexesTo_argument hname hvalue
  have hlex := (lexesTo_intercalate Argument.text Argument.tokens hnamed).lex_append [] nofun
  rw [text_arguments, List.append_nil, lex_nil] at hlex
  exact hlex

theorem tokens_injective : Function.Injective tokens := by
  have htoken : Function.Injective Scalar.token := by
    intro v v' h
    cases v <;> cases v' <;> cases h <;> rfl
  intro w w' h
  unfold tokens at h
  simp only [List.cons.injEq, Token.int.injEq, Int.natCast_inj, true_and, and_true] at h
  obtain ⟨hsize, hcursor⟩ := h
  exact ext_parts hsize (Cursor.scalar_injective (htoken hcursor))

/-- Different windows have different arguments. -/
theorem arguments_injective : Function.Injective arguments := by
  intro w w' h
  have htokens := tokens?_arguments w
  rw [h, tokens?_arguments w'] at htokens
  exact (tokens_injective (Option.some.inj htokens)).symm

end PageWindow

/-- Reading undoes quoting. The literal of a text in front of anything but a quote is read as a
string value: the text itself, up to the end of the literal and in no other way. So the cursor of a
window is read back from its arguments, and the arguments tell windows apart. -/
theorem literal_readBack :
    (∀ (s : String) (rest : List Char), rest.head? ≠ some '"' →
      readToken ((literal s).toList ++ rest) = some (.string s, rest) ∧
      ∀ value after, StartsWithString ((literal s).toList ++ rest) value after ↔
        value = s ∧ after = rest) ∧
    (∀ (size : PageSize) (s : String), s ∉ cursorPlaceholders →
      tokens? (PageWindow.mk size (.ofString s)).arguments =
        some [.name "first", .punctuator .colon, .int size.value,
          .name "after", .punctuator .colon, .string s]) ∧
    ∀ w w' : PageWindow, w ≠ w' → w.arguments ≠ w'.arguments := by
  refine ⟨?_, ?_, ?_⟩
  · intro s rest hrest
    have hread : readToken ((literal s).toList ++ rest) = some (.string s, rest) :=
      readToken_eq_string_iff.2 (startsWithString_literal s hrest)
    refine ⟨hread, fun value after => ?_⟩
    rw [← readToken_eq_string_iff, hread]
    constructor
    · rintro ⟨⟩
      exact ⟨rfl, rfl⟩
    · rintro ⟨rfl, rfl⟩
      rfl
  · intro size s hs
    have hscalar : (Cursor.ofString s).scalar = .string s := by
      rw [Cursor.scalar, Cursor.value_ofString hs]
    rw [PageWindow.tokens?_arguments, PageWindow.tokens, hscalar]
    rfl
  · exact fun w w' hne h => hne (PageWindow.arguments_injective h)

/-- A text with quotes, a line break and a backslash at its end, and the empty text in front of a
closing parenthesis. -/
theorem literal_readBack_of_special_characters :
    readToken ((literal "\"a\"\r\n\\").toList ++ [')']) = some (.string "\"a\"\r\n\\", [')']) ∧
    readToken ((literal "").toList ++ [')']) = some (.string "", [')']) ∧
    tokens? (PageWindow.mk .one (.ofString "\\")).arguments =
      some [.name "first", .punctuator .colon, .int 1,
        .name "after", .punctuator .colon, .string "\\"] ∧
    (PageWindow.mk .one (.ofString "\\")).arguments ≠ (PageWindow.mk .one .none).arguments :=
  ⟨(literal_readBack.1 _ _ (by decide)).1, (literal_readBack.1 _ _ (by decide)).1,
    literal_readBack.2.1 _ _ (by decide), literal_readBack.2.2 _ _ (by decide)⟩

/-- A quote behind the empty literal would make it the start of a block string. -/
example : readToken ((literal "").toList ++ ['"']) = none := by decide

end ScopeComposer
