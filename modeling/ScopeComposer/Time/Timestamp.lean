import ScopeComposer.Json.Decoder
import ScopeComposer.Text.Blank
import ScopeComposer.Text.Numeral
import ScopeComposer.Time.Calendar

/-!
# Timestamps

A point in time in UTC, read from and written in the form of RFC 3339. Reading is lenient in a few
places: blanks may stand between the parts, `T` may be a blank or in lower case, an offset may lack
its colon, and years may be signed and have more than four digits. A second 60 is a leap second; it
is kept as the nanoseconds beyond second 59.
-/

namespace ScopeComposer.Time

/-- A point in time. -/
structure Timestamp where
  /-- The seconds since the beginning of 1970. -/
  seconds : Int
  /-- The nanoseconds within the second, a thousand million more in a leap second. -/
  nanos : Nat
deriving DecidableEq, Repr, Inhabited

/-- Why a text is no timestamp. -/
inductive TimestampError where
  /-- The text ends too early. -/
  | tooShort
  /-- A character stands where it may not. -/
  | invalid
  /-- A number is too large or too small. -/
  | outOfRange
  /-- Something follows the timestamp. -/
  | trailing
  /-- The time is outside the years that can be represented. -/
  | impossible
deriving DecidableEq, Repr

/-- The text of an error. -/
def TimestampError.message : TimestampError → String
  | .tooShort => "premature end of input"
  | .invalid => "input contains invalid characters"
  | .outOfRange => "input is out of range"
  | .trailing => "trailing input"
  | .impossible => "no possible date and time matching input"

/-- A way to read a part of a timestamp off the front of a text. -/
abbrev Scan := StateT (List Char) (Except TimestampError)

/-!
## Reading
-/

/-- The years whose numbers fit in 32 bits with their sign reach from minus this one to the last one
before it. -/
def yearBound : Int := 2147483648

/-- The nanoseconds of a second. -/
def nanosPerSecond : Nat := 1000000000

/-- Passes over blanks. -/
def blanks : Scan Unit := modify Text.dropBlank

/-- Reads a number of at least one digit and, if there is a width, at most that many. -/
def number (width : Option Nat) : Scan Nat := fun cs =>
  let candidates := match width with
    | none => cs
    | some width => cs.take width
  let digits := candidates.takeWhile Char.isDigit
  match digits, cs with
  | [], [] => .error .tooShort
  | [], _ => .error .invalid
  | digits, cs =>
    let n := Text.digitsValue digits
    if n < Text.signedBound then .ok (n, cs.drop digits.length) else .error .outOfRange

/-- Reads a number of at most two digits that lies between two bounds, after blanks. -/
def twoDigits (low high : Nat) : Scan Nat := do
  blanks
  let n ← number (some 2)
  if low ≤ n ∧ n ≤ high then return n else throw .outOfRange

/-- Reads the sign of a year, if there is one: the factor that it stands for. -/
def yearSign : Scan (Option Int) := fun
  | '-' :: rest => .ok (some (-1), rest)
  | '+' :: rest => .ok (some 1, rest)
  | cs => .ok (none, cs)

/-- Reads a year after blanks: four digits, or a sign and any number of digits. -/
def yearNumber : Scan Int := do
  blanks
  let year ← match ← yearSign with
    | some sign => do pure (sign * (← number none))
    | none => do pure (Int.ofNat (← number (some 4)))
  if -yearBound ≤ year ∧ year < yearBound then return year else throw .outOfRange

/-- Reads one character that passes a test. -/
def expect (accept : Char → Bool) : Scan Unit := fun
  | [] => .error .tooShort
  | c :: rest => if accept c then .ok ((), rest) else .error .invalid

/-- Reads a fixed character after blanks. -/
def separator (c : Char) : Scan Unit := do
  blanks
  expect (· == c)

/-- Reads the character between date and time. -/
def dateEnd : Scan Unit := expect fun c => c == 'T' || c == 't' || c == ' '

/-- Reads the digits after the point of a second as nanoseconds; digits beyond the ninth are passed
over. -/
def fractionDigits : Scan Nat := do
  let before := (← get).length
  let n ← number (some 9)
  let width := before - (← get).length
  modify (·.dropWhile Char.isDigit)
  return n * Nat.pow 10 (9 - width)

/-- Reads a fraction of a second, if there is a point. -/
def fraction : Scan Nat := fun
  | '.' :: rest => fractionDigits rest
  | cs => .ok (0, cs)

/-- Reads two digits that stand side by side. -/
def digitPair : Scan (Nat × Nat) := fun
  | [] => .error .tooShort
  | [c] => if c.utf8Size < 2 then .error .tooShort else .error .invalid
  | c :: d :: rest =>
    if c.isDigit && d.isDigit then .ok ((Text.digitValue c, Text.digitValue d), rest)
    else .error .invalid

/-- Whether a character may stand between the hours and the minutes of an offset. -/
def isOffsetSeparator (c : Char) : Bool := c == ':' || Text.isBlank c

/-- Reads the hours and minutes of an offset, in seconds. -/
def offsetSeconds : Scan Nat := do
  let (h, h') ← digitPair
  modify (·.dropWhile isOffsetSeparator)
  let (m, m') ← digitPair
  if m < 6 then return (10 * h + h') * 3600 + (10 * m + m') * 60 else throw .outOfRange

/-- Reads the offset from UTC, in seconds. The name of UTC itself may be written out. -/
def offset : Scan Int := fun cs =>
  match cs with
  | [] => .error .tooShort
  | 'Z' :: rest | 'z' :: rest => .ok (0, rest)
  | '+' :: rest => (Int.ofNat <$> offsetSeconds) rest
  | '-' :: rest | '−' :: rest => ((fun n => -Int.ofNat n) <$> offsetSeconds) rest
  | u :: t :: c :: rest =>
    if u.toUpper = 'U' ∧ t.toUpper = 'T' ∧ c.toUpper = 'C' then .ok (0, rest)
    else .error .invalid
  | _ => .error .invalid

/-- Reads the end of the text, before which only blanks may stand. -/
def finish : Scan Unit := do
  blanks
  if (← get).isEmpty then return () else throw .trailing

/-- The years that can be represented. -/
def inYears (year : Int) : Bool := -262143 ≤ year && year ≤ 262142

/-- The seconds of a day. -/
def secondsPerDay : Int := 86400

/-- The point in time that a date, a time of day and an offset name. -/
def Timestamp.ofParts (date : Date) (hour minute second nanos : Nat) (offset : Int) :
    Except TimestampError Timestamp :=
  if !date.isValid || !inYears date.year || offset.natAbs ≥ secondsPerDay.natAbs then
    .error .outOfRange
  else
    let leap := second = 60
    let seconds := date.toDays * secondsPerDay + hour * 3600 + minute * 60 +
      (if leap then 59 else second : Nat) - offset
    if inYears (Date.ofDays (seconds.fdiv secondsPerDay)).year then
      .ok ⟨seconds, if leap then nanos + nanosPerSecond else nanos⟩
    else .error .impossible

/-- Reads a date: year, month and day between hyphens. -/
def readDate : Scan Date := do
  let year ← yearNumber
  separator '-'
  let month ← twoDigits 1 12
  separator '-'
  let day ← twoDigits 1 31
  return ⟨year, month, day⟩

/-- Reads a whole timestamp. -/
def readTimestamp : Scan Timestamp := do
  let date ← readDate
  dateEnd
  let hour ← twoDigits 0 23
  separator ':'
  let minute ← twoDigits 0 59
  separator ':'
  let second ← twoDigits 0 60
  let nanos ← fraction
  blanks
  let offset ← offset
  finish
  Timestamp.ofParts date hour minute second nanos offset

/-- The timestamp that a text stands for. -/
def Timestamp.ofText (s : String) : Except TimestampError Timestamp :=
  readTimestamp.run' s.toList

/-!
## Writing
-/

/-- A number in at least `width` digits. -/
def padded (width n : Nat) : String :=
  let digits := Nat.toDigits 10 n
  String.ofList (List.replicate (width - digits.length) '0' ++ digits)

/-- A year: four digits, or a sign and at least four digits outside the first ten thousand. -/
def yearText (year : Int) : String :=
  if 0 ≤ year ∧ year ≤ 9999 then padded 4 year.natAbs
  else (if year < 0 then "-" else "+") ++ padded 4 year.natAbs

/-- A fraction of a second in as few groups of three digits as it takes. -/
def fractionText (nanos : Nat) : String :=
  if nanos = 0 then ""
  else if nanos % 1000000 = 0 then "." ++ padded 3 (nanos / 1000000)
  else if nanos % 1000 = 0 then "." ++ padded 6 (nanos / 1000)
  else "." ++ padded 9 nanos

/-- A timestamp in UTC, with the given text for the offset. -/
def Timestamp.textWith (zone : String) (t : Timestamp) : String :=
  let days := t.seconds.fdiv secondsPerDay
  let date := Date.ofDays days
  let second := (t.seconds - days * secondsPerDay).toNat
  let leap := nanosPerSecond ≤ t.nanos
  yearText date.year ++ "-" ++ padded 2 date.month ++ "-" ++ padded 2 date.day ++ "T" ++
    padded 2 (second / 3600) ++ ":" ++ padded 2 (second / 60 % 60) ++ ":" ++
    padded 2 (second % 60 + if leap then 1 else 0) ++
    fractionText (if leap then t.nanos - nanosPerSecond else t.nanos) ++ zone

/-- A timestamp as JSON. -/
def Timestamp.toJson (t : Timestamp) : Json := .str (t.textWith "Z")

/-- Decodes a timestamp from its text. -/
def Timestamp.decoder : Json.Decoder Timestamp where
  run
    | .str s =>
      match Timestamp.ofText s with
      | .ok t => .ok t
      | .error e => .error (.refused e.message)
    | other => .error (.wrongType other "an RFC 3339 formatted date and time string")

end ScopeComposer.Time
