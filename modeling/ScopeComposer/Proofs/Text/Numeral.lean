import Mathlib.Data.List.TakeWhile
import ScopeComposer.Proofs.Text.Entries
import ScopeComposer.Text.Numeral

/-!
# Integers and their numerals

The numeral of an integer reads back as that integer, and it is made of digits and a minus sign, so
that nothing is trimmed from it. It is one of many: the grammar below builds all numerals of a
number from its digits, and a text is read as a number just if it is one of these.
-/

namespace ScopeComposer.Text

/-! ## Runs of characters -/

/-- A run of characters of a class ends at the latest where a character outside the class stands. -/
theorem span_append {p : Char → Bool} (cs rest : List Char)
    (hrest : ∀ c ∈ rest.head?, p c = false) :
    (cs ++ rest).takeWhile p = cs.takeWhile p ∧
      (cs ++ rest).dropWhile p = cs.dropWhile p ++ rest := by
  induction cs with
  | nil =>
    cases rest with
    | nil => simp
    | cons c r => simp [hrest c (by simp)]
  | cons c cs ih => by_cases hc : p c <;> simp [hc, ih]

/-- A run of characters of a class is taken as a whole if the class does not go on after it. -/
theorem span_eq {p : Char → Bool} {cs rest : List Char} (hall : ∀ c ∈ cs, p c = true)
    (hrest : ∀ c ∈ rest.head?, p c = false) :
    (cs ++ rest).takeWhile p = cs ∧ (cs ++ rest).dropWhile p = rest := by
  obtain ⟨htake, hdrop⟩ := span_append cs rest hrest
  rw [htake, hdrop, List.takeWhile_eq_self_iff.2 hall, List.dropWhile_eq_nil_iff.2 hall]
  exact ⟨rfl, rfl⟩

/-! ## Digits -/

theorem mem_digits {c : Char} (h : c.isDigit = true) :
    c ∈ ['0', '1', '2', '3', '4', '5', '6', '7', '8', '9'] := by
  have hbounds : 48 ≤ c.toNat ∧ c.toNat ≤ 57 := by
    simpa [Char.isDigit, UInt32.le_iff_toNat_le] using h
  have hall : ∀ n < 58, 48 ≤ n →
      Char.ofNat n ∈ ['0', '1', '2', '3', '4', '5', '6', '7', '8', '9'] := by decide
  rw [← Char.ofNat_toNat c]
  exact hall c.toNat (by omega) hbounds.1

theorem isDigit_of_mem_toDigits {n : Nat} {c : Char} (h : c ∈ Nat.toDigits 10 n) :
    c.isDigit = true := Nat.isDigit_of_mem_toDigits (by decide) (by decide) h

/-- The numeral of a positive number does not start with a zero. -/
theorem head?_toDigits_ne_zero {n : Nat} (h : 0 < n) : (Nat.toDigits 10 n).head? ≠ some '0' := by
  induction n using Nat.strongRecOn with
  | _ n ih =>
    rw [Nat.toDigits_eq_if (by decide)]
    split
    · next hlt =>
      have hdigit : ∀ m < 10, 0 < m → some (Nat.digitChar m) ≠ some '0' := by decide
      exact hdigit n hlt h
    · have hdiv := ih (n / 10) (by omega) (by omega)
      rwa [List.head?_append_of_ne_nil _ Nat.toDigits_ne_nil]

theorem digitsValue_toDigits (n : Nat) : digitsValue (Nat.toDigits 10 n) = n := by
  have h := Nat.ofDigitChars_ten_toDigits (n := n)
  rwa [Nat.ofDigitChars_eq_foldl] at h

theorem readDigits_toDigits (n : Nat) : readDigits (Nat.toDigits 10 n) = some n := by
  have hall : (Nat.toDigits 10 n).all Char.isDigit = true :=
    List.all_eq_true.2 fun c hc => isDigit_of_mem_toDigits hc
  unfold readDigits
  rw [if_pos ⟨Nat.toDigits_ne_nil, hall⟩, digitsValue_toDigits]

theorem toList_toString_ofNat (n : Nat) : (toString (Int.ofNat n)).toList = Nat.toDigits 10 n :=
  Nat.toList_repr

theorem toList_toString_negSucc (n : Nat) :
    (toString (Int.negSucc n)).toList = '-' :: Nat.toDigits 10 (n + 1) := by
  have hcons : toString (Int.negSucc n) = "-" ++ Nat.repr (n + 1) := rfl
  rw [hcons, String.toList_append, Nat.toList_repr]
  rfl

theorem readSigned_toString (n : Int) : readSigned (toString n) = some n := by
  unfold readSigned
  cases n with
  | ofNat n =>
    rw [toList_toString_ofNat]
    have hread := readDigits_toDigits n
    have hdigit : ∀ c ∈ Nat.toDigits 10 n, c.isDigit = true := fun c hc =>
      isDigit_of_mem_toDigits hc
    split
    · next heq =>
      rw [heq] at hdigit
      exact absurd (hdigit '-' List.mem_cons_self) (by decide)
    · next heq =>
      rw [heq] at hdigit
      exact absurd (hdigit '+' List.mem_cons_self) (by decide)
    · rw [hread]
      rfl
  | negSucc n =>
    rw [toList_toString_negSucc]
    simp only [readDigits_toDigits]
    rfl

/-- The characters of a numeral. -/
theorem mem_toString {n : Int} {c : Char} (h : c ∈ (toString n).toList) :
    c = '-' ∨ c.isDigit = true := by
  cases n with
  | ofNat n =>
    rw [toList_toString_ofNat] at h
    exact Or.inr (isDigit_of_mem_toDigits h)
  | negSucc n =>
    rw [toList_toString_negSucc] at h
    rcases List.mem_cons.1 h with rfl | h
    · exact Or.inl rfl
    · exact Or.inr (isDigit_of_mem_toDigits h)

theorem toString_ne_empty (n : Int) : toString n ≠ "" := by
  intro heq
  have hread := readSigned_toString n
  rw [heq] at hread
  cases hread

/-- Nothing is trimmed from a numeral. -/
theorem trim_toString (n : Int) : trim (toString n) = toString n := by
  apply trim_eq_self
  intro c hc
  rcases mem_toString hc with rfl | hdigit
  · decide
  · have hbounds : 48 ≤ c.toNat ∧ c.toNat ≤ 57 := Char.isDigit_iff_toNat.1 hdigit
    exact isBlank_of_visible (by omega) (by omega)

/-! ## The grammar of numerals -/

/-- The runs of decimal digits, each with the number that it stands for. -/
inductive Digits : List Char → Nat → Prop where
  /-- A digit stands for itself. -/
  | single {d : Nat} (h : d < 10) : Digits [Nat.digitChar d] d
  /-- A further digit moves those before it up by one place. -/
  | append {cs : List Char} {n d : Nat} (hcs : Digits cs n) (h : d < 10) :
    Digits (cs ++ [Nat.digitChar d]) (10 * n + d)

/-- The unsigned numerals, each with its value. -/
inductive UnsignedNumeral : List Char → Nat → Prop where
  /-- Digits alone. -/
  | plain {cs : List Char} {n : Nat} (h : Digits cs n) : UnsignedNumeral cs n
  /-- Digits after a plus sign. -/
  | plus {cs : List Char} {n : Nat} (h : Digits cs n) : UnsignedNumeral ('+' :: cs) n

/-- The signed numerals, each with its value. -/
inductive SignedNumeral : List Char → Int → Prop where
  /-- A minus sign may only stand in front of digits. -/
  | minus {cs : List Char} {n : Nat} (h : Digits cs n) : SignedNumeral ('-' :: cs) (-n)
  /-- Without it, a numeral is an unsigned one. -/
  | unsigned {cs : List Char} {n : Nat} (h : UnsignedNumeral cs n) : SignedNumeral cs n

theorem isDigit_digitChar {d : Nat} (h : d < 10) :
    (Nat.digitChar d).isDigit = true ∧ digitValue (Nat.digitChar d) = d := by
  have hchar := Nat.toNat_digitChar_of_lt_ten h
  have hbounds : 48 ≤ (Nat.digitChar d).toNat ∧ (Nat.digitChar d).toNat ≤ 57 := by omega
  have hvalue : digitValue (Nat.digitChar d) = (Nat.digitChar d).toNat - 48 := rfl
  exact ⟨Char.isDigit_iff_toNat.2 hbounds, by omega⟩

/-- A digit is the character of its value. -/
theorem digitChar_digitValue {c : Char} (h : c.isDigit = true) :
    digitValue c < 10 ∧ Nat.digitChar (digitValue c) = c := by
  have hbounds : 48 ≤ c.toNat ∧ c.toNat ≤ 57 := Char.isDigit_iff_toNat.1 h
  have hvalue : digitValue c = c.toNat - 48 := rfl
  have hlt : digitValue c < 10 := by omega
  refine ⟨hlt, Char.toNat_inj.1 ?_⟩
  rw [Nat.toNat_digitChar_of_lt_ten hlt]
  omega

theorem digitsValue_append_singleton (cs : List Char) (c : Char) :
    digitsValue (cs ++ [c]) = 10 * digitsValue cs + digitValue c := by
  simp [digitsValue]

theorem Digits.all_isDigit {cs : List Char} {n : Nat} (h : Digits cs n) :
    cs ≠ [] ∧ cs.all Char.isDigit = true ∧ digitsValue cs = n := by
  induction h with
  | single h =>
    obtain ⟨hdigit, hvalue⟩ := isDigit_digitChar h
    exact ⟨List.cons_ne_nil _ _, by simp [hdigit], by simpa [digitsValue] using hvalue⟩
  | append hcs h ih =>
    obtain ⟨hne, hall, hvalue⟩ := ih
    obtain ⟨hdigit, hlast⟩ := isDigit_digitChar h
    refine ⟨by simp, by simp [hall, hdigit], ?_⟩
    rw [digitsValue_append_singleton, hvalue, hlast]

/-- Digits are read to the number that they stand for, and nothing else is read. -/
theorem readDigits_eq_some_iff {cs : List Char} {n : Nat} :
    readDigits cs = some n ↔ Digits cs n := by
  constructor
  · intro hread
    obtain ⟨⟨hne, hall⟩, rfl⟩ : (cs ≠ [] ∧ cs.all Char.isDigit = true) ∧ digitsValue cs = n := by
      simpa [readDigits] using hread
    clear hread
    -- a number grows at its end: by induction on the digits before the last one
    induction cs using List.reverseRecOn with
    | nil => exact absurd rfl hne
    | append_singleton front c ih =>
      obtain ⟨hfront, hc⟩ : front.all Char.isDigit = true ∧ c.isDigit = true := by
        simpa using hall
      obtain ⟨hlt, hchar⟩ := digitChar_digitValue hc
      rw [digitsValue_append_singleton, ← hchar]
      by_cases hnil : front = []
      · subst hnil
        have hsingle := Digits.single hlt
        simpa [digitsValue, hchar] using hsingle
      · have happend := (ih hnil hfront).append hlt
        rwa [hchar] at happend ⊢
  · intro h
    obtain ⟨hne, hall, hvalue⟩ := h.all_isDigit
    rw [readDigits, if_pos ⟨hne, hall⟩, hvalue]

/-- A sign is no digit. -/
theorem Digits.head_isDigit {c : Char} {cs : List Char} {n : Nat} (h : Digits (c :: cs) n) :
    c.isDigit = true := by
  obtain ⟨-, hall, -⟩ := h.all_isDigit
  exact List.all_eq_true.1 hall c List.mem_cons_self

theorem readUnsigned_eq_some_iff {s : String} {n : Nat} :
    readUnsigned s = some n ↔ UnsignedNumeral s.toList n := by
  unfold readUnsigned
  constructor
  · split
    · next heq =>
      rw [heq, readDigits_eq_some_iff]
      exact .plus
    · rw [readDigits_eq_some_iff]
      exact .plain
  · generalize s.toList = cs
    rintro (h | h)
    · split
      · exact absurd h.head_isDigit (by decide)
      · exact readDigits_eq_some_iff.2 h
    · exact readDigits_eq_some_iff.2 h

theorem readBelow_eq_some_iff {bound n : Nat} {s : String} :
    readBelow bound s = some n ↔ n < bound ∧ UnsignedNumeral s.toList n := by
  unfold readBelow
  rw [Option.filter_eq_some_iff, readUnsigned_eq_some_iff, decide_eq_true_iff, and_comm]

theorem readSigned_eq_some_iff {s : String} {z : Int} :
    readSigned s = some z ↔ SignedNumeral s.toList z := by
  unfold readSigned
  constructor
  · split
    · next heq =>
      rw [heq, Option.map_eq_some_iff]
      rintro ⟨_, hread, rfl⟩
      obtain ⟨n, hdigits, hn⟩ := Option.bind_eq_some_iff.1 hread
      obtain rfl := Option.some.inj hn
      exact .minus (readDigits_eq_some_iff.1 hdigits)
    · next heq =>
      rw [heq, Option.map_eq_some_iff]
      rintro ⟨n, hread, rfl⟩
      exact .unsigned (.plus (readDigits_eq_some_iff.1 hread))
    · rw [Option.map_eq_some_iff]
      rintro ⟨n, hread, rfl⟩
      exact .unsigned (.plain (readDigits_eq_some_iff.1 hread))
  · generalize s.toList = cs
    rintro (h | ⟨h⟩ | ⟨h⟩)
    · simp [readDigits_eq_some_iff.2 h]
    · split
      · exact absurd h.head_isDigit (by decide)
      · exact absurd h.head_isDigit (by decide)
      · simp [readDigits_eq_some_iff.2 h]
    · simp [readDigits_eq_some_iff.2 h]

end ScopeComposer.Text
