import ScopeComposer.Text.Numeral
import ScopeComposer.Time.Calendar
import ScopeComposer.Toml.Text
import ScopeComposer.Toml.Value

/-!
# Numbers and dates of a TOML document

Integers of 64 bits in four bases, floating-point numbers, and dates and times. Underscores may
stand between digits.
-/

namespace ScopeComposer.Toml

/-- Reads one character of a class. -/
def charOf (accept : Char → Bool) : Scan Char := fun
  | [] => none
  | c :: rest => if accept c then some (c, rest) else none

/-- The digits at the start of a text after a first one, and what follows. An underscore is passed
over between digits and refused elsewhere. -/
def moreDigits (isDigit : Char → Bool) : List Char → Option (List Char × List Char)
  | [] => some ([], [])
  | '_' :: c :: rest =>
    if isDigit c then do
      let (digits, rest) ← moreDigits isDigit rest
      some (c :: digits, rest)
    else none
  | c :: rest =>
    if isDigit c then do
      let (digits, rest) ← moreDigits isDigit rest
      some (c :: digits, rest)
    else if c = '_' then none
    else some ([], c :: rest)

/-- Reads one or more digits. -/
def digits (isDigit : Char → Bool) : Scan (List Char) := do
  let first ← charOf isDigit
  let rest ← moreDigits isDigit
  return first :: rest

/-- Reads a sign, if there is one: whether it is a minus. -/
def sign : Scan Bool := fun
  | '-' :: rest => some (true, rest)
  | '+' :: rest => some (false, rest)
  | cs => some (false, cs)

/-- Reads the whole part of a number: a lone zero, or digits that do not start with one. -/
def wholeDigits : Scan (List Char) := fun
  | '0' :: rest => some (['0'], rest)
  | cs => digits Char.isDigit cs

/-- The integer of a sign and a size, if it fits in 64 bits. -/
def integerOf (negative : Bool) (size : Nat) : Option Int :=
  if negative then if size ≤ Text.signedBound then some (-(size : Int)) else none
  else if size < Text.signedBound then some size else none

/-- Whether a character is a digit of a base. -/
def isDigitOf (base : Nat) (c : Char) : Bool :=
  match Json.hexValue? c with
  | some n => n < base
  | none => false

/-- The number that digits of a base stand for. -/
def numberOf (base : Nat) (ds : List Char) : Nat :=
  ds.foldl (fun n c => base * n + (Json.hexValue? c).getD 0) 0

/-- Reads an integer in a base other than ten, after its mark. -/
def baseInteger (base : Nat) : Scan Value := do
  let ds ← digits (isDigitOf base)
  match integerOf false (numberOf base ds) with
  | some n => return .integer n
  | none => failure

/-- Reads an integer. -/
def integer : Scan Value := fun
  | '0' :: 'x' :: rest => baseInteger 16 rest
  | '0' :: 'o' :: rest => baseInteger 8 rest
  | '0' :: 'b' :: rest => baseInteger 2 rest
  | cs => (do
    let negative ← sign
    let ds ← wholeDigits
    match integerOf negative (Text.digitsValue ds) with
    | some n => return .integer n
    | none => failure : Scan Value) cs

/-- Reads an exponent after its letter. -/
def exponent : Scan Int := do
  let _ ← charOf fun c => c == 'e' || c == 'E'
  let negative ← sign
  let ds ← digits Char.isDigit
  let size := Text.digitsValue ds
  return if negative then -(size : Int) else size

/-- Reads the digits after a point. -/
def places : Scan (List Char) := do
  expect '.'
  digits Char.isDigit

/-- Whether `size * 10 ^ exponent` is too large for a floating-point number. -/
def isTooLarge (size : Nat) (exponent : Int) : Bool :=
  let leading := (toString size).length + exponent
  if size = 0 ∨ leading < 300 then false
  else if leading > 400 then true
  else (if exponent < 0 then Float.ofScientific size true exponent.natAbs
    else Float.ofScientific size false exponent.natAbs).isInf

/-- Reads what makes a number a floating-point number: the digits after its point and its exponent,
at least one of the two. -/
def floatTail : Scan (List Char × Int) :=
  (do return ([], ← exponent)) <|> do
    let fraction ← places
    let e ← exponent <|> pure 0
    return (fraction, e)

/-- Reads a floating-point number with digits. One that is positive may not be too large. -/
def decimalFloat : Scan Unit := do
  let negative ← sign
  let whole ← wholeDigits
  let (fraction, e) ← floatTail
  if !negative && isTooLarge (Text.digitsValue (whole ++ fraction)) (e - fraction.length) then
    failure

/-- Reads a floating-point number without digits. -/
def specialFloat : Scan Unit := do
  let _ ← sign
  expectAll ['i', 'n', 'f'] <|> expectAll ['n', 'a', 'n']

/-- Reads a number of exactly `width` digits between two bounds. -/
def fixedNumber (width low high : Nat) : Scan Nat := fun cs =>
  let ds := cs.take width
  if ds.length = width ∧ ds.all Char.isDigit then
    let n := Text.digitsValue ds
    if low ≤ n ∧ n ≤ high then some (n, cs.drop width) else none
  else none

/-- Reads a date. -/
def date : Scan Unit := do
  let year ← fixedNumber 4 0 9999
  expect '-'
  let month ← fixedNumber 2 1 12
  expect '-'
  let day ← fixedNumber 2 1 31
  if (Time.Date.mk year month day).isValid then return () else failure

/-- Reads a fraction of a second, if there is one. -/
def secondFraction : Scan Unit :=
  (do
    expect '.'
    let _ ← charOf Char.isDigit
    let _ ← takeAll Char.isDigit) <|> pure ()

/-- Reads a time of day. -/
def time : Scan Unit := do
  let _ ← fixedNumber 2 0 23
  expect ':'
  let _ ← fixedNumber 2 0 59
  expect ':'
  let _ ← fixedNumber 2 0 60
  secondFraction

/-- Reads an offset from UTC. -/
def timeOffset : Scan Unit :=
  (do let _ ← charOf fun c => c == 'Z' || c == 'z') <|> do
    let _ ← charOf fun c => c == '+' || c == '-'
    let _ ← fixedNumber 2 0 23
    expect ':'
    let _ ← fixedNumber 2 0 59

/-- Reads a date, a time, or both with or without an offset. -/
def dateTime : Scan Unit :=
  (do
    date
    (do
      let _ ← charOf fun c => c == 'T' || c == 't' || c == ' '
      time
      timeOffset <|> pure ()) <|> pure ()) <|> time

/-- Reads a part and gives the text of it. -/
def written (scan : Scan Unit) : Scan String := fun cs => do
  let ((), rest) ← scan cs
  some (String.ofList (cs.take (cs.length - rest.length)), rest)

/-- Reads a number or a date. -/
def number : Scan Value :=
  (do return .dateTime (← written dateTime)) <|>
    (do return .float (← written (decimalFloat <|> specialFloat))) <|> integer

end ScopeComposer.Toml
