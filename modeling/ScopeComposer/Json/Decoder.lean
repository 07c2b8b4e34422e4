import ScopeComposer.Json.Printer
import ScopeComposer.Json.Raw
import ScopeComposer.Text.Quoted

/-!
# Decoding JSON values

A decoder turns a JSON value into a value of a domain type or says why it cannot. It also knows the
shape of what it looks at, so that it can be run on a text of which it needs only a part.
-/

namespace ScopeComposer.Json

/-- Why a JSON value is not the encoding of a value of the wanted type. -/
inductive DecodeError where
  /-- A value of another form stands where `expected` was wanted. -/
  | wrongType (got : Json) (expected : String)
  /-- An integer does not fit in the integer type `expected`. -/
  | outOfRange (value : Int) (expected : String)
  /-- A required field is not there. -/
  | missingField (name : String)
  /-- A field is there twice, under one name or under two. -/
  | duplicateField (name : String)
  /-- A name is none of the allowed ones. -/
  | unknownVariant (name : String) (allowed : List String)
  /-- A variant that carries a value is given without one. -/
  | missingPayload
  /-- An object that names a variant does not have exactly one key. -/
  | notSingleKey
  /-- None of the alternatives of a type fits. -/
  | noAlternative (type : String)
  /-- An array ends before the required fields of `expected`. -/
  | tooShort (length : Nat) (expected : String)
  /-- An array goes on after the last field. -/
  | tooLong (length : Nat)
  /-- A value of the right form is refused by its type for a reason of its own. -/
  | refused (reason : String)
deriving Inhabited

/-- How a message names a value that stands in the wrong place. -/
def describe : Json → String
  | .null => "null"
  | .bool true => "boolean `true`"
  | .bool false => "boolean `false`"
  | .num (.int n) => "integer `" ++ toString n ++ "`"
  | .num (.float bits) => "floating point `" ++ Decimal.textOfBits bits ++ "`"
  | .str s => "string " ++ Text.quoted s
  | .arr _ => "sequence"
  | .obj _ => "map"

/-- The names that were possible, as a message lists them. -/
def allowedNames (names : List String) : String :=
  match names.map fun name => "`" ++ name ++ "`" with
  | [] => "there are no variants"
  | [one] => "expected " ++ one
  | [one, two] => "expected " ++ one ++ " or " ++ two
  | many => "expected one of " ++ ", ".intercalate many

/-- The text of a decode error. -/
def DecodeError.message : DecodeError → String
  | .wrongType got expected => "invalid type: " ++ describe got ++ ", expected " ++ expected
  | .outOfRange value expected =>
    "invalid value: integer `" ++ toString value ++ "`, expected " ++ expected
  | .missingField name => "missing field `" ++ name ++ "`"
  | .duplicateField name => "duplicate field `" ++ name ++ "`"
  | .unknownVariant name allowed => "unknown variant `" ++ name ++ "`, " ++ allowedNames allowed
  | .missingPayload => "invalid type: unit variant, expected newtype variant"
  | .notSingleKey => "invalid value: map, expected map with a single key"
  | .noAlternative type => "data did not match any variant of untagged enum " ++ type
  | .tooShort length expected =>
    "invalid length " ++ toString length ++ ", expected " ++ expected
  | .tooLong length =>
    "invalid length " ++ toString length ++ ", expected fewer elements in array"
  | .refused reason => reason

/-- What decoding gives. -/
abbrev Decoded (α : Type) := Except DecodeError α

/-- A way to decode values of a type. -/
structure Decoder (α : Type) where
  /-- Decodes a JSON value. -/
  run : Json → Decoded α
  /-- The parts of a text that are looked at. -/
  shape : Shape := .free

namespace Decoder

variable {α β : Type}

/-- Goes on with the decoded value. -/
def andThen (d : Decoder α) (f : α → Decoded β) : Decoder β where
  run value := do f (← d.run value)
  shape := d.shape

/-- Applies a function to the decoded value. -/
def map (f : α → β) (d : Decoder α) : Decoder β := d.andThen fun a => .ok (f a)

/-- Any value, as it is. -/
def value : Decoder Json where
  run := .ok

/-- A text. -/
def string : Decoder String where
  run
    | .str s => .ok s
    | other => .error (.wrongType other "a string")

/-- A truth value. -/
def bool : Decoder Bool where
  run
    | .bool b => .ok b
    | other => .error (.wrongType other "a boolean")

/-- An integer from `low` up to, not including, `bound`. -/
def integer (name : String) (low bound : Int) : Decoder Int where
  run
    | .num (.int n) =>
      if low ≤ n ∧ n < bound then .ok n else .error (.outOfRange n name)
    | other => .error (.wrongType other name)

/-- A signed integer of 64 bits. -/
def int64 : Decoder Int := integer "i64" (-Text.signedBound) Text.signedBound

/-- An unsigned integer of 64 bits. -/
def uint64 : Decoder UInt64 := (integer "u64" 0 UInt64.size).map fun n => UInt64.ofNat n.toNat

/-- An unsigned integer of 32 bits. -/
def uint32 : Decoder UInt32 := (integer "u32" 0 UInt32.size).map fun n => UInt32.ofNat n.toNat

/-- An unsigned integer of 16 bits. -/
def uint16 : Decoder UInt16 := (integer "u16" 0 UInt16.size).map fun n => UInt16.ofNat n.toNat

/-- A value that may be `null`. -/
def option (d : Decoder α) : Decoder (Option α) where
  run
    | .null => .ok none
    | other => do .ok (some (← d.run other))
  shape := d.shape

/-- An array of values of one type. -/
def list (d : Decoder α) : Decoder (List α) where
  run
    | .arr items => items.mapM d.run
    | other => .error (.wrongType other "a sequence")
  shape := .items d.shape

/-- An object with values of one type under arbitrary keys. -/
def dictionary (d : Decoder α) : Decoder (List (String × α)) where
  run
    | .obj members => members.mapM fun (key, value) => do .ok (key, ← d.run value)
    | other => .error (.wrongType other "a map")

/-- The variant with a name. -/
def variantNamed (variants : List (String × α)) (name : String) : Decoded α :=
  match variants.lookup name with
  | some a => .ok a
  | none => .error (.unknownVariant name (variants.map (·.1)))

/-- The name of a variant, or an object with that name as its only key and `null` under it. -/
def variant (variants : List (String × α)) : Decoder α where
  run
    | .str name => variantNamed variants name
    | .obj [(name, payload)] => do
      let a ← variantNamed variants name
      match payload with
      | .null => .ok a
      | other => .error (.wrongType other "unit")
    | .obj _ => .error .notSingleKey
    | other => .error (.wrongType other "string or map")

/-- The first of two readings that fits; if neither does, only the name of the type is reported. -/
def either (type : String) (first second : Decoder α) : Decoder α where
  run value :=
    match first.run value with
    | .ok a => .ok a
    | .error _ =>
      match second.run value with
      | .ok a => .ok a
      | .error _ => .error (.noAlternative type)

/-- Decodes a text that is one value. A text that breaks the grammar gives none. -/
def ofText? (d : Decoder α) (text : String) : Option α := do
  let raw ← Raw.ofText? text
  let value ← raw.value? d.shape maxDepth
  (d.run value).toOption

/-- Decodes the value at the start of a text. -/
def ofPrefix? (d : Decoder α) (text : String) : Option α := do
  let (raw, _) ← Raw.ofPrefix? text
  let value ← raw.value? d.shape maxDepth
  (d.run value).toOption

end Decoder

end ScopeComposer.Json
