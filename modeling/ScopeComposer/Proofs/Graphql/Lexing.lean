import ScopeComposer.Proofs.Graphql.StringGrammar
import ScopeComposer.Proofs.Text.Numeral

/-!
# How tokens are read

What `lex` does at the start of each kind of token. A token that ends only where another character
tells it to (a name, an integer, a string value) is read back in full if a separator follows it, and
the end of a line separates whatever stands on its two sides.
-/

namespace ScopeComposer.Graphql

/-- The characters that stand between tokens or are tokens of their own. -/
def separators : List Char := ignoredChars ++ punctuators.map Prod.fst

/-- Whether a text is empty or starts with a character that cannot belong to the token before it. -/
def StartsApart (cs : List Char) : Prop := ∀ c ∈ cs.head?, c ∈ separators

/-! ## Classes of characters -/

theorem mem_separators_of_isIgnored {c : Char} (h : isIgnored c = true) : c ∈ separators :=
  List.mem_append_left _ (by simpa [isIgnored] using h)

theorem mem_separators_of_punctuator? {c : Char} {p : Punctuator} (h : punctuator? c = some p) :
    c ∈ separators := by
  obtain ⟨entry, hfind, -⟩ := Option.map_eq_some_iff.1 h
  have hchar : entry.1 = c := by simpa using List.find?_some hfind
  exact List.mem_append_right _ (List.mem_map.2 ⟨entry, List.mem_of_find?_eq_some hfind, hchar⟩)

/-- A separator neither goes on with a name or a number nor opens or closes a string value. -/
theorem not_part_of_separator {c : Char} (h : c ∈ separators) :
    isNamePart c = false ∧ isNameStart c = false ∧ c.isDigit = false ∧ c ≠ '.' ∧ c ≠ '"' ∧
      c ≠ '#' := by
  have hall : separators.all (fun c => !isNamePart c && !isNameStart c && !c.isDigit && c != '.' &&
      c != '"' && c != '#') = true := by decide
  simpa [and_assoc] using List.all_eq_true.1 hall c h

/-- A character that starts a name, an integer or a string value is no separator. -/
theorem not_separator {c : Char} (h : isNameStart c = true ∨ c.isDigit = true ∨ c = '"') :
    isIgnored c = false ∧ c ≠ '#' ∧ punctuator? c = none := by
  have hnot : c ∉ separators := by
    intro hsep
    obtain ⟨-, hstart, hdigit, -, hquote, -⟩ := not_part_of_separator hsep
    simp [hstart, hdigit, hquote] at h
  refine ⟨?_, ?_, ?_⟩
  · exact Bool.eq_false_iff.2 fun hc => hnot (mem_separators_of_isIgnored hc)
  · rintro rfl
    revert h
    decide
  · cases hp : punctuator? c with
    | none => rfl
    | some p => exact absurd (mem_separators_of_punctuator? hp) hnot

theorem isNamePart_bounds {c : Char} (h : isNamePart c = true) : 48 ≤ c.toNat ∧ c.toNat ≤ 122 := by
  rcases Bool.or_eq_true_iff.1 h with halnum | hunder
  · rcases Bool.or_eq_true_iff.1 halnum with halpha | hdigit
    · rcases Bool.or_eq_true_iff.1 halpha with hupper | hlower
      · have hbounds : 65 ≤ c.toNat ∧ c.toNat ≤ 90 := of_decide_eq_true hupper
        omega
      · obtain ⟨hfirst, hlast⟩ := Bool.and_eq_true_iff.1 hlower
        have hbounds : 97 ≤ c.toNat ∧ c.toNat ≤ 122 :=
          ⟨of_decide_eq_true hfirst, of_decide_eq_true hlast⟩
        omega
    · have hbounds : 48 ≤ c.toNat ∧ c.toNat ≤ 57 := Char.isDigit_iff_toNat.1 hdigit
      omega
  · obtain rfl : c = '_' := by simpa using hunder
    decide

theorem isNamePart_of_isName {s : String} (h : isName s = true) :
    ∀ c ∈ s.toList, isNamePart c = true := by
  unfold isName at h
  split at h
  · cases h
  · next c rest heq =>
    obtain ⟨hstart, hrest⟩ := by simpa using h
    intro d hd
    rw [heq] at hd
    rcases List.mem_cons.1 hd with rfl | hd
    · simp only [isNameStart, Bool.or_eq_true] at hstart
      rcases hstart with h | h <;> simp [isNamePart, Char.isAlphanum, h]
    · exact hrest d hd

/-! ## One token -/

theorem lex_nil : lex [] = some [] := by rw [lex]

theorem lex_ignored {c : Char} (h : isIgnored c = true) (cs : List Char) :
    lex (c :: cs) = lex cs := by
  rw [lex]
  simp [h]

/-- What `lex` does with a token that `readToken` finds. -/
theorem lex_of_readToken {c : Char} {cs after : List Char} {t : Token} (hi : isIgnored c = false)
    (hc : c ≠ '#') (h : readToken (c :: cs) = some (t, after)) :
    lex (c :: cs) = (lex after).map (t :: ·) := by
  rw [lex]
  simp only [hi, Bool.false_eq_true, ↓reduceIte, hc]
  split
  · next hn => rw [h] at hn; cases hn
  · next t' after' hs =>
    rw [h] at hs
    obtain ⟨rfl, rfl⟩ := Prod.mk.inj (Option.some.inj hs)
    rfl

theorem lex_punctuator {c : Char} {p : Punctuator} (h : punctuator? c = some p) (cs : List Char) :
    lex (c :: cs) = (lex cs).map (.punctuator p :: ·) := by
  have hmem := mem_separators_of_punctuator? h
  have hignored : isIgnored c = false := by
    have hall : ∀ entry ∈ punctuators, isIgnored entry.1 = false := by decide
    obtain ⟨entry, hfind, -⟩ := Option.map_eq_some_iff.1 h
    have hchar : entry.1 = c := by simpa using List.find?_some hfind
    rw [← hchar]
    exact hall entry (List.mem_of_find?_eq_some hfind)
  obtain ⟨-, -, -, -, -, hhash⟩ := not_part_of_separator hmem
  exact lex_of_readToken hignored hhash (by simp [readToken, h])

theorem lex_name {s : String} (hs : isName s = true) {rest : List Char} (hrest : StartsApart rest) :
    lex (s.toList ++ rest) = (lex rest).map (.name s :: ·) := by
  unfold isName at hs
  cases hcs : s.toList with
  | nil => simp [hcs] at hs
  | cons c cs =>
    simp only [hcs, Bool.and_eq_true, List.all_eq_true] at hs
    have hspan := Text.span_eq hs.2 fun d hd => (not_part_of_separator (hrest d hd)).1
    obtain ⟨hi, hhash, hp⟩ := not_separator (Or.inl hs.1)
    have hback : String.ofList (c :: cs) = s := by rw [← hcs, String.ofList_toList]
    refine lex_of_readToken hi hhash ?_
    simp [readToken, hp, hs.1, hspan, hback]

/-! ## Numerals -/

/-- A digit starts neither a name nor a string value nor a negative number. -/
theorem not_part_of_isDigit {c : Char} (h : c.isDigit = true) :
    isNameStart c = false ∧ c ≠ '"' ∧ c ≠ '-' := by
  have hall : ['0', '1', '2', '3', '4', '5', '6', '7', '8', '9'].all
      (fun c => !isNameStart c && c != '"' && c != '-') = true := by decide
  simpa [and_assoc] using List.all_eq_true.1 hall c (Text.mem_digits h)

theorem readNumber_toDigits (n : Nat) {rest : List Char} (hrest : StartsApart rest) :
    readNumber (Nat.toDigits 10 n ++ rest) = some (n, rest) := by
  have hdigits : ∀ c ∈ Nat.toDigits 10 n, c.isDigit = true := fun _ =>
    Text.isDigit_of_mem_toDigits
  have hspan := Text.span_eq hdigits fun d hd => (not_part_of_separator (hrest d hd)).2.2.1
  have hcut : (rest.head?.any fun c => isNameStart c || c == '.') = false := by
    cases hr : rest.head? with
    | none => rfl
    | some c =>
      obtain ⟨-, hstart, -, hdot, -⟩ := not_part_of_separator (hrest c hr)
      simp [hstart, hdot]
  have hzero : ¬ (1 < (Nat.toDigits 10 n).length ∧ (Nat.toDigits 10 n).head? = some '0') := by
    rintro ⟨hlen, hhead⟩
    rcases Nat.eq_zero_or_pos n with rfl | hpos
    · simp at hlen
    · exact Text.head?_toDigits_ne_zero hpos hhead
  simp [readNumber, hspan, hcut, hzero, Text.digitsValue_toDigits, Nat.toDigits_ne_nil]

theorem lex_nat (n : Nat) {rest : List Char} (hrest : StartsApart rest) :
    lex (Nat.toDigits 10 n ++ rest) = (lex rest).map (.int n :: ·) := by
  cases hcs : Nat.toDigits 10 n with
  | nil => exact absurd hcs Nat.toDigits_ne_nil
  | cons c cs =>
    have hdigit : c.isDigit = true :=
      Text.isDigit_of_mem_toDigits (hcs ▸ List.mem_cons_self : c ∈ Nat.toDigits 10 n)
    obtain ⟨hi, hhash, hp⟩ := not_separator (Or.inr (Or.inl hdigit))
    obtain ⟨hstart, hquote, hminus⟩ := not_part_of_isDigit hdigit
    have hread := readNumber_toDigits n hrest
    rw [hcs, List.cons_append] at hread
    refine lex_of_readToken hi hhash ?_
    simp [readToken, hp, hstart, hquote, hminus, hread]

/-! ## String literals -/

theorem lex_literal (s : String) {rest : List Char} (hrest : StartsApart rest) :
    lex ((literal s).toList ++ rest) = (lex rest).map (.string s :: ·) := by
  have hquote : rest.head? ≠ some '"' := fun hc =>
    (not_part_of_separator (hrest _ hc)).2.2.2.2.1 rfl
  have hstarts := startsWithString_literal s hquote
  have hread := readToken_eq_string_iff.2 hstarts
  obtain ⟨hi, hhash, -⟩ := not_separator (c := '"') (Or.inr (Or.inr rfl))
  obtain ⟨body, hcs, -⟩ := hstarts
  rw [hcs] at hread ⊢
  exact lex_of_readToken hi hhash hread

/-! ## Lines -/

/-- What stands after a string value does not change how the value is read. -/
theorem readString_append {cs text after : List Char} (h : readString cs = some (text, after))
    (rest : List Char) : readString (cs ++ rest) = some (text, after ++ rest) := by
  obtain ⟨body, rfl, hbody⟩ := readString_sound h
  rw [List.append_assoc, List.cons_append]
  exact readString_complete hbody (after ++ rest)

theorem startsBlock_append (cs rest : List Char) :
    startsBlock (cs ++ '\n' :: rest) = startsBlock cs := by
  match cs with
  | [] => rfl
  | [c] => by_cases hc : c = '"' <;> simp [startsBlock, hc]
  | c :: d :: cs => by_cases hc : c = '"' <;> by_cases hd : d = '"' <;> simp [startsBlock, hc, hd]

theorem readNumber_append {cs after : List Char} {n : Nat} (h : readNumber cs = some (n, after))
    (rest : List Char) : readNumber (cs ++ '\n' :: rest) = some (n, after ++ '\n' :: rest) := by
  have hspan := Text.span_append (p := Char.isDigit) cs ('\n' :: rest) (by simp)
  have hcut : ((cs.dropWhile Char.isDigit ++ '\n' :: rest).head?.any fun c =>
      isNameStart c || c == '.') =
      ((cs.dropWhile Char.isDigit).head?.any fun c => isNameStart c || c == '.') := by
    cases cs.dropWhile Char.isDigit with
    | nil => simp; decide
    | cons c r => rfl
  simp only [readNumber] at h ⊢
  rw [hspan.1, hspan.2, hcut]
  split at h
  · cases h
  · next hok =>
    obtain ⟨rfl, rfl⟩ := Prod.mk.inj (Option.some.inj h)
    rw [if_neg hok]

/-- The end of a line ends every token: what stands after it does not change the token. -/
theorem readToken_append {cs after : List Char} {t : Token} (h : readToken cs = some (t, after))
    (rest : List Char) : readToken (cs ++ '\n' :: rest) = some (t, after ++ '\n' :: rest) := by
  cases cs with
  | nil => simp [readToken] at h
  | cons c cs =>
    rw [List.cons_append]
    simp only [readToken] at h ⊢
    split at h
    · next p hp =>
      obtain ⟨rfl, rfl⟩ := Prod.mk.inj (Option.some.inj h)
      rfl
    · split_ifs at h ⊢ with hname hquote hblock hminus
      · obtain ⟨rfl, rfl⟩ := Prod.mk.inj (Option.some.inj h)
        have hspan := Text.span_append (p := isNamePart) cs ('\n' :: rest) (by simp; decide)
        rw [hspan.1, hspan.2]
      · rw [startsBlock_append] at *
        contradiction
      · obtain ⟨⟨text, after'⟩, hread, heq⟩ := Option.map_eq_some_iff.1 h
        obtain ⟨rfl, rfl⟩ := Prod.mk.inj heq
        rw [readString_append hread]
        rfl
      · obtain ⟨⟨n, after'⟩, hread, heq⟩ := Option.map_eq_some_iff.1 h
        obtain ⟨rfl, rfl⟩ := Prod.mk.inj heq
        rw [readNumber_append hread]
        rfl
      · obtain ⟨⟨n, after'⟩, hread, heq⟩ := Option.map_eq_some_iff.1 h
        obtain ⟨rfl, rfl⟩ := Prod.mk.inj heq
        rw [← List.cons_append, readNumber_append hread]
        rfl

/-- The tokens of a text whose first line ends where `cs` ends: those of `cs`, then those of the
rest. -/
theorem lex_append_line {cs : List Char} {ts : List Token} (h : lex cs = some ts)
    (rest : List Char) : lex (cs ++ '\n' :: rest) = (lex rest).map (ts ++ ·) := by
  fun_induction lex cs generalizing ts with
  | case1 =>
    obtain rfl : [] = ts := Option.some.inj h
    rw [List.nil_append, lex_ignored (by decide)]
    simp
  | case2 c cs hc ih =>
    rw [List.cons_append, lex_ignored hc, ih h]
  | case3 cs hi ih =>
    have hspan := Text.span_append (p := fun c => !isLineEnd c) cs ('\n' :: rest)
      (by simp; decide)
    rw [List.cons_append, lex]
    simp only [hi, Bool.false_eq_true, ↓reduceIte]
    rw [hspan.2, ih h]
  | case4 c cs hi hhash hread => cases h
  | case5 c cs hi hhash t after hread ih =>
    obtain ⟨ts', hts', rfl⟩ := Option.map_eq_some_iff.1 h
    have hfirst := readToken_append hread rest
    rw [List.cons_append] at hfirst ⊢
    rw [lex_of_readToken (by simpa using hi) hhash hfirst, ih hts']
    simp [Function.comp_def]

end ScopeComposer.Graphql
