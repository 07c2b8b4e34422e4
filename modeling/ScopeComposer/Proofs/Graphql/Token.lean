import Mathlib.Data.List.Basic
import ScopeComposer.Graphql.Literal
import ScopeComposer.Text.Numeral

/-!
# Tokens of GraphQL documents

How a server cuts a text into tokens. Punctuators, names, integers and string values are read with
the rules of the GraphQL grammar; blanks, line ends, commas and comments stand between tokens and
mean nothing. A string value ends at the first quote without a backslash, may not hold a raw line
feed or carriage return, and is decoded while it is read.

Floats, spreads and block strings are refused: no composed document has any, and a refusal leaves no
doubt about how the rest is to be read.
-/

namespace ScopeComposer.Graphql

/-- The punctuators of one character. -/
inductive Punctuator where
  | bang
  | dollar
  | ampersand
  | parenL
  | parenR
  | colon
  | equals
  | at
  | bracketL
  | bracketR
  | braceL
  | pipe
  | braceR
deriving DecidableEq, Repr

/-- A token of a document. -/
inductive Token where
  /-- A punctuator. -/
  | punctuator (p : Punctuator)
  /-- A name, a keyword, `null`, a truth value or an enumeration value. -/
  | name (text : String)
  /-- An integer. -/
  | int (value : Int)
  /-- A string value, decoded. -/
  | string (text : String)
deriving DecidableEq, Repr

/-! ## Characters -/

/-- The characters that mean nothing between tokens: blanks, line ends, the comma and the byte-order
mark. -/
def ignoredChars : List Char := [' ', '\t', '\n', '\r', ',', '\uFEFF']

/-- Whether a character between tokens means nothing. -/
def isIgnored (c : Char) : Bool := c ∈ ignoredChars

/-- Whether a line ends with a character. -/
def isLineEnd (c : Char) : Bool := c == '\n' || c == '\r'

/-- Whether a name may start with a character. -/
def isNameStart (c : Char) : Bool := c.isAlpha || c == '_'

/-- Whether a name may go on with a character. -/
def isNamePart (c : Char) : Bool := c.isAlphanum || c == '_'

/-- Whether a text is a name. -/
def isName (s : String) : Bool :=
  match s.toList with
  | [] => false
  | c :: rest => isNameStart c && rest.all isNamePart

/-- The punctuators with their characters. -/
def punctuators : List (Char × Punctuator) :=
  [('!', .bang), ('$', .dollar), ('&', .ampersand), ('(', .parenL), (')', .parenR), (':', .colon),
    ('=', .equals), ('@', .at), ('[', .bracketL), (']', .bracketR), ('\x7b', .braceL), ('|', .pipe),
    ('\x7d', .braceR)]

/-- The punctuator of a character. -/
def punctuator? (c : Char) : Option Punctuator := (punctuators.find? (·.1 = c)).map (·.2)

/-! ## String values -/

/-- The character that a backslash and a single character stand for. -/
def simpleEscape? (c : Char) : Option Char :=
  if c = '"' ∨ c = '\\' ∨ c = '/' then some c
  else if c = 'b' then some '\x08'
  else if c = 'f' then some '\x0c'
  else if c = 'n' then some '\n'
  else if c = 'r' then some '\r'
  else if c = 't' then some '\t'
  else none

/-- The value of a hexadecimal digit of either case. -/
def hexValue? (c : Char) : Option Nat :=
  if c.isDigit then some (c.toNat - '0'.toNat)
  else if 'a' ≤ c ∧ c ≤ 'f' then some (c.toNat - 'a'.toNat + 10)
  else if 'A' ≤ c ∧ c ≤ 'F' then some (c.toNat - 'A'.toNat + 10)
  else none

/-- The character with a code point in hexadecimal digits, if there is one. -/
def charOfHex? (digits : List Char) : Option Char := do
  let n ← digits.foldlM (fun n c => (hexValue? c).map (16 * n + ·)) 0
  if n.isValidChar then some (Char.ofNat n) else none

/-- Puts a decoded character in front of what was read after it. -/
def consChar (c : Char) (read : List Char × List Char) : List Char × List Char :=
  (c :: read.1, read.2)

/-- The characters of a string value after its opening quote, decoded, and what follows the closing
quote. -/
def readString : List Char → Option (List Char × List Char)
  | [] => none
  | '"' :: rest => some ([], rest)
  | '\\' :: 'u' :: h₁ :: h₂ :: h₃ :: h₄ :: rest =>
    (charOfHex? [h₁, h₂, h₃, h₄]).bind fun c => (readString rest).map (consChar c)
  | '\\' :: e :: rest => (simpleEscape? e).bind fun c => (readString rest).map (consChar c)
  | c :: rest =>
    if c = '\\' ∨ isLineEnd c then none else (readString rest).map (consChar c)

/-! ## Tokens -/

/-- Whether a block string starts here, after its first quote. -/
def startsBlock : List Char → Bool
  | '"' :: '"' :: _ => true
  | _ => false

/-- The number at the start of a text, in digits without leading zeros, and what follows it. Neither
a name nor a point may follow it at once. -/
def readNumber (cs : List Char) : Option (Nat × List Char) :=
  let digits := cs.takeWhile Char.isDigit
  let rest := cs.dropWhile Char.isDigit
  let cut := rest.head?.any fun c => isNameStart c || c == '.'
  if digits = [] ∨ (1 < digits.length ∧ digits.head? = some '0') ∨ cut then none
  else some (Text.digitsValue digits, rest)

/-- The token at the start of a text, and what follows it. -/
def readToken : List Char → Option (Token × List Char)
  | [] => none
  | c :: rest =>
    match punctuator? c with
    | some p => some (.punctuator p, rest)
    | none =>
      if isNameStart c then
        some (.name (String.ofList (c :: rest.takeWhile isNamePart)), rest.dropWhile isNamePart)
      else if c = '"' then
        if startsBlock rest then none
        else (readString rest).map fun (text, after) => (.string (String.ofList text), after)
      else if c = '-' then (readNumber rest).map fun (n, after) => (.int (-n), after)
      else (readNumber (c :: rest)).map fun (n, after) => (.int n, after)

/-! ## Reading gets on -/

/-- What follows a string value is shorter than the value with its closing quote. -/
theorem readString_length {cs text after : List Char} (h : readString cs = some (text, after)) :
    after.length < cs.length := by
  fun_induction readString cs generalizing text after with
  | case1 => simp at h
  | case2 rest =>
    obtain ⟨-, rfl⟩ : [] = text ∧ rest = after := by simpa using h
    simp
  | case3 h₁ h₂ h₃ h₄ rest ih =>
    obtain ⟨c, -, ⟨⟨text', after'⟩, hread, heq⟩⟩ := by
      simpa only [Option.bind_eq_some_iff, Option.map_eq_some_iff] using h
    obtain ⟨-, rfl⟩ := Prod.mk.inj heq
    have hlt := ih hread
    simp only [List.length_cons]
    omega
  | case4 e rest _ ih =>
    obtain ⟨c, -, ⟨⟨text', after'⟩, hread, heq⟩⟩ := by
      simpa only [Option.bind_eq_some_iff, Option.map_eq_some_iff] using h
    obtain ⟨-, rfl⟩ := Prod.mk.inj heq
    have hlt := ih hread
    simp only [List.length_cons]
    omega
  | case5 c rest => simp at h
  | case6 c rest _ _ _ _ ih =>
    obtain ⟨⟨text', after'⟩, hread, heq⟩ := Option.map_eq_some_iff.1 h
    obtain ⟨-, rfl⟩ := Prod.mk.inj heq
    have hlt := ih hread
    simp only [List.length_cons]
    omega

/-- What follows a number is shorter than what starts with it. -/
theorem readNumber_length {cs after : List Char} {n : Nat} (h : readNumber cs = some (n, after)) :
    after.length < cs.length := by
  simp only [readNumber] at h
  split at h
  · simp at h
  · next hdigits =>
    have hne : cs.takeWhile Char.isDigit ≠ [] := fun hnil => hdigits (Or.inl hnil)
    have hpos := List.length_pos_iff.2 hne
    have hsum := congrArg List.length
      (List.takeWhile_append_dropWhile (p := Char.isDigit) (l := cs))
    simp only [Option.some.injEq, Prod.mk.injEq] at h
    rw [List.length_append] at hsum
    rw [← h.2]
    omega

/-- What follows a token is shorter than what starts with it. -/
theorem readToken_length {cs after : List Char} {t : Token} (h : readToken cs = some (t, after)) :
    after.length < cs.length := by
  cases cs with
  | nil => simp [readToken] at h
  | cons c rest =>
    simp only [readToken] at h
    split at h
    · obtain ⟨-, rfl⟩ := by simpa using h
      simp
    · split_ifs at h with hname hquote hblock hminus
      · obtain ⟨-, rfl⟩ := by simpa using h
        have hle := (List.dropWhile_suffix isNamePart (l := rest)).length_le
        simp only [List.length_cons]
        omega
      · obtain ⟨⟨text, after'⟩, hread, heq⟩ := Option.map_eq_some_iff.1 h
        obtain ⟨-, rfl⟩ := Prod.mk.inj heq
        exact Nat.lt_succ_of_lt (readString_length hread)
      · obtain ⟨⟨n, after'⟩, hread, heq⟩ := Option.map_eq_some_iff.1 h
        obtain ⟨-, rfl⟩ := Prod.mk.inj heq
        exact Nat.lt_succ_of_lt (readNumber_length hread)
      · obtain ⟨⟨n, after'⟩, hread, heq⟩ := Option.map_eq_some_iff.1 h
        obtain ⟨-, rfl⟩ := Prod.mk.inj heq
        exact readNumber_length hread

/-! ## Texts -/

/-- The tokens of a text, unless it has a part that is no token. -/
def lex : List Char → Option (List Token)
  | [] => some []
  | c :: rest =>
    if isIgnored c then lex rest
    else if c = '#' then lex (rest.dropWhile fun c => !isLineEnd c)
    else
      match _h : readToken (c :: rest) with
      | none => none
      | some (t, after) => (lex after).map (t :: ·)
termination_by cs => cs.length
decreasing_by
  · simp
  · exact Nat.lt_succ_of_le (List.dropWhile_suffix _).length_le
  · exact readToken_length _h

/-- The tokens of a text, unless it has a part that is no token. -/
def tokens? (s : String) : Option (List Token) := lex s.toList

end ScopeComposer.Graphql
