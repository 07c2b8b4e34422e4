/-!
# The shortest decimal that reads back

A binary floating-point number lies between two halfway points to its neighbours; every decimal
between them reads back as that number. Among those decimals the one with the fewest significant
digits is chosen, and of two with equally many the nearer one (an exact tie goes to the even digit).

All arithmetic is exact: a value is a fraction of natural numbers, scaled by `10 ^ scale` so that
the grid of every digit count is a grid of whole numbers.
-/

namespace ScopeComposer.Decimal

/-- A finite positive binary number: `mantissa * 2 ^ exponent`. -/
structure Binary where
  /-- The whole-number factor. -/
  mantissa : Nat
  /-- The power of two. -/
  exponent : Int
  /-- Whether the number below lies only half as far away as the number above. -/
  narrowBelow : Bool
deriving Repr, DecidableEq

/-- A decimal number: `digits * 10 ^ exponent`. -/
structure Value where
  /-- The significant digits, read as one number. -/
  digits : Nat
  /-- The power of ten. -/
  exponent : Int
deriving Repr, DecidableEq

/-- The number of decimal places by which every value is scaled up. -/
def scale : Nat := 400

/-- The value, the halfway points below and above it, and their common denominator. -/
structure Interval where
  /-- Numerator of the halfway point below. -/
  low : Nat
  /-- Numerator of the value. -/
  mid : Nat
  /-- Numerator of the halfway point above. -/
  high : Nat
  /-- The denominator of all three. -/
  denominator : Nat
  /-- Whether the halfway points themselves read back as the value. -/
  closed : Bool

/-- The decimals that read back as a binary number, scaled up. -/
def Interval.ofBinary (b : Binary) : Interval :=
  let up := Nat.pow 2 (b.exponent - 2).toNat * Nat.pow 10 scale
  { low := (4 * b.mantissa - if b.narrowBelow then 1 else 2) * up
    mid := 4 * b.mantissa * up
    high := (4 * b.mantissa + 2) * up
    denominator := Nat.pow 2 (2 - b.exponent).toNat
    closed := b.mantissa % 2 == 0 }

/-- Whether `numerator / denominator` reads back as the value. -/
def Interval.contains (i : Interval) (numerator : Nat) : Bool :=
  if i.closed then i.low ≤ numerator && numerator ≤ i.high
  else i.low < numerator && numerator < i.high

/-- The multiple of `grid` next to the value that reads back as it, if one does; of two the nearer
one. -/
def Interval.onGrid (i : Interval) (grid : Nat) : Option Nat :=
  let step := grid * i.denominator
  let below := i.mid / step
  let above := below + 1
  match i.contains (below * step), i.contains (above * step) with
  | false, false => none
  | true, false => some below
  | false, true => some above
  | true, true =>
    let down := i.mid - below * step
    let upward := above * step - i.mid
    if down < upward then some below
    else if upward < down then some above
    else if below % 2 == 0 then some below else some above

/-- Tries ever finer grids, from `10 ^ place` (scaled) downwards. -/
def Interval.search (i : Interval) : Nat → Nat → Value
  | 0, place => ⟨i.mid / (Nat.pow 10 place * i.denominator), (place : Int) - scale⟩
  | fuel + 1, place =>
    match i.onGrid (Nat.pow 10 place) with
    | some digits => ⟨digits, (place : Int) - scale⟩
    | none => i.search fuel (place - 1)

/-- The same number without trailing zeros among its digits. -/
def Value.stripZeros : Nat → Value → Value
  | 0, d => d
  | fuel + 1, d =>
    if d.digits ≠ 0 ∧ d.digits % 10 = 0 then stripZeros fuel ⟨d.digits / 10, d.exponent + 1⟩ else d

/-- The shortest decimal that reads back as a binary number. -/
def shortest (b : Binary) : Value :=
  let i := Interval.ofBinary b
  let places := (toString (i.mid / i.denominator)).length
  Value.stripZeros 20 (i.search 17 (places - 1))

/-- The first number that does not fit in the fraction of a double, which has 52 bits. -/
def fractionBound : Nat := 4503599627370496

/-- The first number that does not fit in the exponent of a double, which has 11 bits. -/
def exponentBound : Nat := 2048

/-- The sign and the value of a finite double, from its bits; zero has no binary value. -/
def Binary.ofBits (bits : UInt64) : Bool × Option Binary :=
  let n : Nat := bits.toNat
  let fraction : Nat := n % fractionBound
  let biased : Nat := n / fractionBound % exponentBound
  let negative := n / (fractionBound * exponentBound) == 1
  if biased == 0 then
    (negative, if fraction == 0 then none else some ⟨fraction, -1074, false⟩)
  else
    (negative,
      some ⟨fraction + fractionBound, (biased : Int) - 1075, fraction == 0 && biased != 1⟩)

/-!
## The written form

Numbers from `10 ^ -5` up to `10 ^ 16` are written positionally, with at least one digit on either
side of the point. All others have one digit before the point and a signed exponent.
-/

/-- An exponent after its letter: always signed, without leading zeros. -/
def exponentText (e : Int) : String :=
  if e < 0 then "e-" ++ toString e.natAbs else "e+" ++ toString e.natAbs

/-- A decimal in written form. -/
def Value.text (d : Value) : String :=
  let digits := Nat.toDigits 10 d.digits
  let leading : Int := digits.length + d.exponent - 1
  if -5 ≤ leading ∧ leading < 16 then
    if d.exponent ≥ 0 then
      String.ofList (digits ++ List.replicate d.exponent.toNat '0') ++ ".0"
    else if leading ≥ 0 then
      let whole := leading.toNat + 1
      String.ofList (digits.take whole) ++ "." ++ String.ofList (digits.drop whole)
    else
      "0." ++ String.ofList (List.replicate (-leading - 1).toNat '0' ++ digits)
  else
    match digits with
    | [] => ""
    | [digit] => String.singleton digit ++ exponentText leading
    | digit :: rest =>
      String.singleton digit ++ "." ++ String.ofList rest ++ exponentText leading

/-- A finite double, given by its bits, in the shortest written form that reads back. -/
def textOfBits (bits : UInt64) : String :=
  let (negative, value) := Binary.ofBits bits
  let body := match value with
    | none => "0.0"
    | some b => (shortest b).text
  if negative then "-" ++ body else body

end ScopeComposer.Decimal
