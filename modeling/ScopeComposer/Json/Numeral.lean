import ScopeComposer.Json.Basic
import ScopeComposer.Text.Numeral

/-!
# The numbers of a JSON text

A numeral without fraction and exponent is an integer if it fits in 64 bits, signed or unsigned;
every other one is a double. Minus zero is a double, too, since no integer carries a sign of zero.

A double is computed from the leading digits that fit in 64 bits and a power of ten, with one
rounding for each of the two and one for their product; digits beyond that only count as places.
-/

namespace ScopeComposer.Json

/-- A numeral as it is written. -/
structure Numeral where
  /-- Whether a minus sign stands before it. -/
  negative : Bool
  /-- The digits before the point. -/
  whole : List Char
  /-- The digits after the point, if there is one. -/
  fraction : Option (List Char)
  /-- The exponent, if there is one: whether it is negative, and its digits. -/
  exponent : Option (Bool × List Char)
deriving Repr

/-- Appends digits to a number as long as it fits in 64 bits; the rest is left over. -/
def absorb : Nat → List Char → Nat × List Char
  | acc, [] => (acc, [])
  | acc, c :: rest =>
    let next := 10 * acc + Text.digitValue c
    if next < UInt64.size then absorb next rest else (acc, c :: rest)

/-- A power of ten as a double. -/
def powerOfTen (n : Nat) : Float := Float.ofScientific 1 false n

/-- The largest power of ten that is a finite double. -/
def maxPower : Nat := 308

/-- Divides by a power of ten, in steps of the largest one there is. -/
def scaleDown : Nat → Float → Nat → Float
  | 0, f, _ => f
  | fuel + 1, f, places =>
    if places ≤ maxPower then f / powerOfTen places
    else if f == 0.0 then f
    else scaleDown fuel (f / powerOfTen maxPower) (places - maxPower)

/-- The double `significand * 10 ^ exponent`, if it is finite. -/
def doubleOf (significand : Nat) (exponent : Int) : Option Float :=
  let f := (UInt64.ofNat significand).toFloat
  if exponent < 0 then some (scaleDown 4 f exponent.natAbs)
  else if exponent.natAbs ≤ maxPower then
    let product := f * powerOfTen exponent.natAbs
    if product.isInf then none else some product
  else if significand = 0 then some f
  else none

/-- The bounds of a written exponent; beyond them only the sign of the exponent counts. -/
def exponentBound : Nat := 2147483648

/-- The exponent of ten that comes from `places` and a written exponent. -/
def totalExponent (significand : Nat) (places : Int) :
    Option (Bool × List Char) → Option (Nat × Int)
  | none => some (significand, places)
  | some (negative, digits) =>
    let written := Text.digitsValue digits
    if written < exponentBound then
      some (significand, if negative then places - written else places + written)
    else if significand = 0 ∨ negative then some (0, 0)
    else none

/-- The double that a numeral stands for, if it is finite. -/
def Numeral.double? (n : Numeral) : Option UInt64 := do
  let (head, surplus) := absorb 0 n.whole
  let fraction := n.fraction.getD []
  let (significand, ignored) := absorb head fraction
  let places : Int := surplus.length - (fraction.length - ignored.length : Nat)
  let (significand, exponent) ← totalExponent significand places n.exponent
  let f ← doubleOf significand exponent
  some (if n.negative then -f else f).toBits

/-- The number that a numeral stands for, if it is an integer of 64 bits or a finite double. -/
def Numeral.number? (n : Numeral) : Option Number :=
  let value := Text.digitsValue n.whole
  if n.fraction.isNone && n.exponent.isNone && value < UInt64.size &&
      (!n.negative || (0 < value && value ≤ Text.signedBound)) then
    some (.int (if n.negative then -(value : Int) else value))
  else n.double?.map .float

end ScopeComposer.Json
