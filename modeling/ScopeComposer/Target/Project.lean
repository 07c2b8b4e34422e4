import ScopeComposer.Json.Decoder
import ScopeComposer.Text.Blank
import ScopeComposer.Text.Numeral

/-!
# Projects

How a single project is addressed: exactly by its number, or fuzzily by a name. A raw identifier
that is a numeral of 64 bits is a number; anything else is a name.
-/

namespace ScopeComposer

open Json (Decoder Decoded)

/-- The address of a project within its account. -/
inductive ProjectIdentity where
  /-- Any project that matches a name. -/
  | name (text : String)
  /-- The project with a number. -/
  | number (value : UInt64)
deriving DecidableEq, Repr, Inhabited

namespace ProjectIdentity

/-- The project that a raw identifier addresses. -/
def ofRaw (raw : String) : ProjectIdentity :=
  let trimmed := Text.trim raw
  match Text.readBelow UInt64.size trimmed with
  | some n => .number (UInt64.ofNat n)
  | none => .name trimmed

/-- An identity in messages. -/
def text : ProjectIdentity → String
  | .name s => s
  | .number n => "#" ++ toString n

/-- An identity as JSON: its kind next to its value. -/
def toJson : ProjectIdentity → Json
  | .name s => .obj [("kind", .str "name"), ("value", .str s)]
  | .number n => .obj [("kind", .str "number"), ("value", .nat n.toNat)]

/-- Whether an identity is a name or a number. -/
inductive Kind where
  | name
  | number
deriving DecidableEq, Repr, Inhabited

/-- The kinds with their names. -/
def Kind.variants : List (String × Kind) := [("name", .name), ("number", .number)]

/-- Decodes the kind of an identity. -/
def Kind.decoder : Decoder Kind := .variant variants

/-- Decodes the kind of an identity from its name alone. -/
def Kind.nameDecoder : Decoder Kind where
  run
    | .str s => Decoder.variantNamed variants s
    | other => .error (.wrongType other "variant identifier")

/-- Decodes the value of an identity of a known kind. -/
def decodeValue (kind : Kind) (value : Json) : Decoded ProjectIdentity :=
  match kind with
  | .name => do .ok (.name (← Decoder.string.run value))
  | .number => do .ok (.number (← Decoder.uint64.run value))

/-- How messages name the type of identities. -/
def typeName : String := "adjacently tagged enum TargetIdentity"

/-- Passes over the members that follow kind and value, which may not be given again. -/
def checkRest : List (String × Json) → Decoded Unit
  | [] => .ok ()
  | (key, _) :: rest =>
    if key = "kind" ∨ key = "value" then .error (.duplicateField key) else checkRest rest

/-- Decodes the value of an identity whose kind came first. -/
def decodeAfterKind (kind : Kind) : List (String × Json) → Decoded ProjectIdentity
  | [] => .error (.missingField "value")
  | (key, value) :: rest =>
    if key = "kind" then .error (.duplicateField "kind")
    else if key = "value" then do
      let identity ← decodeValue kind value
      checkRest rest
      .ok identity
    else decodeAfterKind kind rest

/-- Decodes an identity whose value came before its kind. -/
def decodeAfterValue (value : Json) : List (String × Json) → Decoded ProjectIdentity
  | [] => .error (.missingField "kind")
  | (key, kind) :: rest =>
    if key = "value" then .error (.duplicateField "value")
    else if key = "kind" then do
      let identity ← decodeValue (← Kind.decoder.run kind) value
      checkRest rest
      .ok identity
    else decodeAfterValue value rest

/-- Decodes an identity from the members of an object; members that are neither its kind nor its
value are passed over. -/
def decodeMembers : List (String × Json) → Decoded ProjectIdentity
  | [] => .error (.missingField "kind")
  | (key, value) :: rest =>
    if key = "kind" then do decodeAfterKind (← Kind.decoder.run value) rest
    else if key = "value" then decodeAfterValue value rest
    else decodeMembers rest

/-- Decodes an identity from an object with kind and value, or from an array of the two, in which
the kind has to be a name. -/
def decoder : Decoder ProjectIdentity where
  run
    | .obj members => decodeMembers members
    | .arr [] => .error (.tooShort 0 typeName)
    | .arr (kind :: rest) => do
      let kind ← Kind.nameDecoder.run kind
      match rest with
      | [] => .error (.tooShort 1 typeName)
      | value :: more => do
        let identity ← decodeValue kind value
        if more.isEmpty then .ok identity else .error (.tooLong (more.length + 2))
    | other => .error (.wrongType other typeName)

end ProjectIdentity

end ScopeComposer
