import Mathlib.Data.List.DropRight
import ScopeComposer.Json.Decoder
import ScopeComposer.Proofs.Text.Numeral

/-!
# The tokens of a written value

What the printer writes for a text or an integer is read as one token. Of the characters of a text
each is written as one unit, and the units stand for that text; behind an integer the reader stops
at whatever cannot be a part of it.
-/

namespace ScopeComposer.Json

/-! ## Texts -/

/-- The unit by which a character is written. -/
def writtenUnit (c : Char) : TextUnit :=
  if c.toNat < 0x20 ∧ c ∉ ['\x08', '\x0c', '\n', '\r', '\t'] then .code c.toNat else .char c

/-- The digits that are written for a control character are the number of that character. -/
theorem hexNumber?_hexPair {n : Nat} (h : n < 0x20) :
    hexNumber? ('0' :: '0' :: hexPair n) = some n := by
  have hall : ∀ n < 0x20, hexNumber? ('0' :: '0' :: hexPair n) = some n := by decide
  exact hall n h

/-- A short escape is read as the character that it stands for. -/
theorem readUnits_short {e c : Char} (he : shortEscape? e = some c) (rest : List Char) :
    readUnits ('\\' :: e :: rest) =
      (readUnits rest).map fun found => (.char c :: found.1, found.2) := by
  have hne : e ≠ 'u' := by
    rintro rfl
    cases he
  rw [readUnits.eq_def]
  split
  · next h => cases h
  · next h => cases h
  · next h => cases h
  · next h =>
    cases h
    exact absurd rfl hne
  · next h =>
    cases h
    rw [he]
    cases readUnits rest <;> rfl
  · next h =>
    cases h
    simp_all

theorem readUnits_code {n : Nat} (h : n < 0x20) (rest : List Char) :
    readUnits ('\\' :: 'u' :: '0' :: '0' :: hexPair n ++ rest) =
      (readUnits rest).map fun found => (.code n :: found.1, found.2) := by
  have hread := hexNumber?_hexPair h
  rw [hexPair] at hread ⊢
  simp only [List.cons_append, List.nil_append]
  rw [readUnits, hread]
  cases readUnits rest <;> rfl

theorem readUnits_plain {c : Char} (hquote : c ≠ '"') (hslash : c ≠ '\\')
    (h : ¬ c.toNat < 0x20) (rest : List Char) : readUnits (c :: rest) =
      (readUnits rest).map fun found => (.char c :: found.1, found.2) := by
  rw [readUnits, if_neg h]
  · cases readUnits rest <;> rfl
  all_goals simp_all

/-- A written character is read as one unit. -/
theorem readUnits_escapedChar (c : Char) (rest : List Char) :
    readUnits (escapedChar c ++ rest) =
      (readUnits rest).map fun found => (writtenUnit c :: found.1, found.2) := by
  unfold escapedChar
  split_ifs with hquote hslash hback hfeed hline hreturn htab hcontrol
  iterate 7
    · subst c
      exact readUnits_short rfl rest
  · have hunit : writtenUnit c = .code c.toNat := if_pos ⟨hcontrol, by simp_all⟩
    rw [hunit]
    exact readUnits_code hcontrol rest
  · have hunit : writtenUnit c = .char c := if_neg (fun h => hcontrol h.1)
    rw [hunit]
    exact readUnits_plain hquote hslash hcontrol rest

/-- A written text is read up to its closing quote. -/
theorem readUnits_quoted (cs rest : List Char) :
    readUnits (cs.flatMap escapedChar ++ '"' :: rest) = some (cs.map writtenUnit, rest) := by
  induction cs with
  | nil => rw [List.flatMap_nil, List.nil_append, readUnits, List.map_nil]
  | cons c cs ih =>
    rw [List.flatMap_cons, List.append_assoc, readUnits_escapedChar, ih]
    rfl

/-- A unit below the surrogates is a character by itself. -/
theorem charsOfUnits_code {n : Nat} (h : n < 0xD800) (units : List TextUnit) :
    charsOfUnits (.code n :: units) = (charsOfUnits units).map (Char.ofNat n :: ·) := by
  rw [charsOfUnits.eq_def]
  exact if_pos (Or.inl h)

theorem toList_quoted_append (s : String) (rest : List Char) :
    (quoted s).toList ++ rest = '"' :: (s.toList.flatMap escapedChar ++ '"' :: rest) := by
  simp [quoted]

/-- The units of a written text stand for its characters. -/
theorem charsOfUnits_map_writtenUnit (cs : List Char) :
    charsOfUnits (cs.map writtenUnit) = some cs := by
  induction cs with
  | nil => rfl
  | cons c cs ih =>
    rw [List.map_cons, writtenUnit]
    split
    · next h =>
      rw [charsOfUnits_code (by omega), ih, Char.ofNat_toNat]
      rfl
    · rw [charsOfUnits, ih]
      rfl

theorem textOfUnits_written (s : String) : textOfUnits (s.toList.map writtenUnit) = some s := by
  rw [textOfUnits, charsOfUnits_map_writtenUnit, Option.map_some, String.ofList_toList]

/-! ## White space -/

theorem skipSpace_of_head {c : Char} (hc : isSpace c = false) (cs : List Char) :
    skipSpace (c :: cs) = c :: cs := List.dropWhile_cons_of_neg (by simp [hc])

theorem skipSpace_append {spaces : List Char} (h : ∀ c ∈ spaces, isSpace c = true)
    (cs : List Char) : skipSpace (spaces ++ cs) = skipSpace cs :=
  List.dropWhile_append_of_pos h

theorem skipSpace_skipSpace (cs : List Char) : skipSpace (skipSpace cs) = skipSpace cs :=
  List.dropWhile_idempotent _ cs

/-! ## Numerals -/

/-- Whether no numeral goes on with a text. -/
def EndsNumeral (rest : List Char) : Prop :=
  ∀ c ∈ rest.head?, c.isDigit = false ∧ c ≠ '.' ∧ c ≠ 'e' ∧ c ≠ 'E'

/-- The numeral of an integer. -/
def writtenNumeral (n : Int) : Numeral := ⟨decide (n < 0), Nat.toDigits 10 n.natAbs, none, none⟩

theorem endsNumeral_cons {c : Char} {rest : List Char} (hdigit : c.isDigit = false)
    (hc : c ∉ ['.', 'e', 'E']) : EndsNumeral (c :: rest) := by
  intro d hd
  obtain rfl : c = d := Option.some.inj hd
  simpa [hdigit] using hc

theorem endsNumeral_of_space {c : Char} (hc : isSpace c = true) (rest : List Char) :
    EndsNumeral (c :: rest) := by
  have hmem : c = ' ' ∨ c = '\n' ∨ c = '\t' ∨ c = '\r' := by
    simpa [isSpace, or_assoc] using hc
  rcases hmem with rfl | rfl | rfl | rfl <;> exact endsNumeral_cons (by decide) (by decide)

theorem endsNumeral_spaces {spaces : List Char} (h : ∀ c ∈ spaces, isSpace c = true)
    {close : Char} (hclose : EndsNumeral [close]) (rest : List Char) :
    EndsNumeral (spaces ++ close :: rest) := by
  cases spaces with
  | nil => exact hclose
  | cons c spaces => exact endsNumeral_of_space (h c List.mem_cons_self) _

/-- Neither closing bracket goes on with a numeral. -/
theorem endsNumeral_close : EndsNumeral [']'] ∧ EndsNumeral ['\x7d'] :=
  ⟨endsNumeral_cons (by decide) (by decide), endsNumeral_cons (by decide) (by decide)⟩

section Numerals

variable {rest : List Char}

/-- The digits of a number are read in full: they do not start with a zero unless there is no other.
-/
theorem readWhole_toDigits (n : Nat) (h : EndsNumeral rest) :
    readWhole (Nat.toDigits 10 n ++ rest) = some (Nat.toDigits 10 n, rest) := by
  have hall : ∀ c ∈ Nat.toDigits 10 n, c.isDigit = true := fun _ =>
    Text.isDigit_of_mem_toDigits
  obtain ⟨htake, hdrop⟩ := Text.span_eq hall fun c hc => (h c hc).1
  unfold readWhole spanDigits
  rw [htake, hdrop]
  split
  · next hdigits =>
    exact absurd (Prod.mk.inj hdigits).1 Nat.toDigits_ne_nil
  · next hdigits =>
    have hzero := (Prod.mk.inj hdigits).1
    rcases Nat.eq_zero_or_pos n with rfl | hpos
    · simp at hzero
    · exact absurd (by rw [hzero]; rfl) (Text.head?_toDigits_ne_zero hpos)
  · rfl

/-- Without a point there is no fraction. -/
theorem readFraction_of_ends (h : EndsNumeral rest) : readFraction rest = some (none, rest) := by
  unfold readFraction
  split
  · exact absurd rfl (h '.' rfl).2.1
  · rfl

/-- Without its letter there is no exponent. -/
theorem readExponent_of_ends (h : EndsNumeral rest) : readExponent rest = some (none, rest) := by
  unfold readExponent
  split
  · exact absurd rfl (h 'e' rfl).2.2.1
  · exact absurd rfl (h 'E' rfl).2.2.2
  · rfl

theorem toDigits_append_ne_minus (n : Nat) (cs : List Char) :
    Nat.toDigits 10 n ++ rest ≠ '-' :: cs := by
  intro hcs
  cases hn : Nat.toDigits 10 n with
  | nil => exact Nat.toDigits_ne_nil hn
  | cons c ds =>
    have hdigit : c.isDigit = true :=
      Text.isDigit_of_mem_toDigits (hn ▸ List.mem_cons_self : c ∈ Nat.toDigits 10 n)
    rw [hn] at hcs
    rw [(List.cons.inj hcs).1] at hdigit
    exact absurd hdigit (by decide)

/-- An integer is read in full if no numeral goes on behind it. -/
theorem readNumeral_toString (n : Int) (h : EndsNumeral rest) :
    readNumeral ((toString n).toList ++ rest) = some (writtenNumeral n, rest) := by
  unfold readNumeral
  split
  next negative digits hsign =>
    have hparts : negative = decide (n < 0) ∧ digits = Nat.toDigits 10 n.natAbs ++ rest := by
      cases n with
      | ofNat n =>
        rw [Text.toList_toString_ofNat] at hsign
        split at hsign
        · next heq => exact absurd heq (toDigits_append_ne_minus n _)
        · obtain ⟨rfl, rfl⟩ := Prod.mk.inj hsign
          exact ⟨by simp, rfl⟩
      | negSucc n =>
        rw [Text.toList_toString_negSucc] at hsign
        obtain ⟨rfl, rfl⟩ := Prod.mk.inj hsign
        exact ⟨by simp, rfl⟩
    obtain ⟨rfl, rfl⟩ := hparts
    simp only [readWhole_toDigits _ h, readFraction_of_ends h, readExponent_of_ends h,
      Option.bind_eq_bind, Option.bind_some]
    rfl

end Numerals

/-- An integer that fits in 64 bits, with or without a sign, is read as an integer. -/
theorem number?_writtenNumeral {n : Int} (hlow : -(Text.signedBound : Int) ≤ n)
    (hhigh : n < UInt64.size) : (writtenNumeral n).number? = some (.int n) := by
  unfold Numeral.number? writtenNumeral
  simp only [Text.digitsValue_toDigits]
  have hsigned : Text.signedBound < UInt64.size := by decide
  have hback : (if decide (n < 0) = true then -(n.natAbs : Int) else n.natAbs) = n := by
    by_cases hneg : n < 0
    · rw [if_pos (decide_eq_true hneg)]
      omega
    · rw [if_neg fun h => hneg (of_decide_eq_true h)]
      omega
  rw [if_pos, hback]
  simp only [Option.isNone_none, Bool.and_eq_true, Bool.or_eq_true, Bool.not_eq_true',
    decide_eq_true_eq, decide_eq_false_iff_not, true_and]
  omega

end ScopeComposer.Json
