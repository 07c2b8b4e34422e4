/-!
# Numerals

Integers written in decimal: ASCII digits with any number of leading zeros, after at most one
sign. An unsigned numeral may only carry a plus sign.
-/

namespace ScopeComposer.Text

/-- The first number that does not fit in a signed word of 64 bits. -/
def signedBound : Nat := 9223372036854775808

/-- The value of a decimal digit. -/
def digitValue (c : Char) : Nat := c.toNat - '0'.toNat

/-- The number that a run of decimal digits stands for, most significant digit first. -/
def digitsValue (cs : List Char) : Nat := cs.foldl (fun n c => 10 * n + digitValue c) 0

/-- The value of a text that is one or more decimal digits. -/
def readDigits (cs : List Char) : Option Nat :=
  if cs ≠ [] ∧ cs.all Char.isDigit then some (digitsValue cs) else none

/-- The value of an unsigned numeral: digits, after at most one plus sign. -/
def readUnsigned (s : String) : Option Nat :=
  match s.toList with
  | '+' :: digits => readDigits digits
  | digits => readDigits digits

/-- The value of a signed numeral: digits, after at most one plus or minus sign. -/
def readSigned (s : String) : Option Int :=
  match s.toList with
  | '-' :: digits => (readDigits digits).map fun n => -(n : Int)
  | '+' :: digits => (readDigits digits).map Int.ofNat
  | digits => (readDigits digits).map Int.ofNat

/-- The value of an unsigned numeral below a bound. -/
def readBelow (bound : Nat) (s : String) : Option Nat :=
  (readUnsigned s).filter (· < bound)

end ScopeComposer.Text
