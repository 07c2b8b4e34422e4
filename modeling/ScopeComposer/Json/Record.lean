import ScopeComposer.Json.Decoder

/-!
# Decoding records

A record is described field by field, in the order of its declaration. It is decoded from an object
(fields by name, in any order, unknown members passed over) or from an array (fields by position).

Of several faults in an object the one that stands first is reported; a field that is not there is
reported only if no field that is there is at fault, and then the first such field in the order of
declaration.
-/

namespace ScopeComposer.Json

/-- What a field that is not there stands for, in an object and in an array. -/
structure Absence (α : Type) where
  /-- The value of the field if an object does not have it. -/
  inObject : Option α
  /-- The value of the field if an array ends before it. -/
  inArray : Option α

namespace Absence

variable {α : Type}

/-- The field has to be there. -/
def never : Absence α := ⟨none, none⟩

/-- The field may be left out everywhere. -/
def orElse (a : α) : Absence α := ⟨some a, some a⟩

/-- The field may be left out of an object, but it has its place in an array. -/
def inObjectOnly (a : α) : Absence α := ⟨some a, none⟩

end Absence

/-- What is known of a field before its type is. -/
structure Slot where
  /-- The names of the field; messages use the first one. -/
  names : List String
  /-- The parts of its value that are looked at. -/
  shape : Shape
  /-- Whether a value can be decoded. -/
  check : Json → Decoded Unit

/-- The name by which messages call a field. -/
def Slot.name (s : Slot) : String := s.names.headD ""

/-- A description of a record, or of the first fields of one. -/
structure Record (α : Type) where
  /-- The fields, in the order of declaration. -/
  slots : List Slot
  /-- Takes the fields from the members of an object. -/
  ofMembers : List (String × Json) → Decoded α
  /-- Takes the fields from the items of an array that remain, given the number of items before
  them and the name of the record for messages. -/
  ofItems : String → Nat → List Json → Decoded (α × List Json)

namespace Record

variable {α β : Type}

/-- A record without fields. -/
def pure (a : α) : Record α where
  slots := []
  ofMembers _ := .ok a
  ofItems _ _ items := .ok (a, items)

/-- Two descriptions one after the other. -/
def seq (f : Record (α → β)) (x : Record α) : Record β where
  slots := f.slots ++ x.slots
  ofMembers members := do
    let g ← f.ofMembers members
    let a ← x.ofMembers members
    .ok (g a)
  ofItems type done items := do
    let (g, rest) ← f.ofItems type done items
    let (a, rest) ← x.ofItems type (done + f.slots.length) rest
    .ok (g a, rest)

/-- A record whose value is computed from that of another. -/
def map (f : α → β) (x : Record α) : Record β := seq (pure f) x

instance : Functor Record where
  map := map

instance : Seq Record where
  seq f x := seq f (x ())

/-- One field. -/
def field (names : List String) (d : Decoder α) (absence : Absence α) : Record α where
  slots := [{ names, shape := d.shape, check := fun value => do let _ ← d.run value }]
  ofMembers members :=
    match members.find? fun (key, _) => names.contains key with
    | some (_, value) => d.run value
    | none =>
      match absence.inObject with
      | some a => .ok a
      | none => .error (.missingField (names.headD ""))
  ofItems type done items :=
    match items with
    | value :: rest => do .ok (← d.run value, rest)
    | [] =>
      match absence.inArray with
      | some a => .ok (a, [])
      | none => .error (.tooShort done type)

/-- A field that has to be there. -/
def required (name : String) (d : Decoder α) : Record α := field [name] d .never

/-- A field with a value of its own for when it is not there. -/
def orElse (name : String) (d : Decoder α) (a : α) : Record α := field [name] d (.orElse a)

/-- A field that may be `null`, which it also is in an object that does not have it. -/
def nullable (name : String) (d : Decoder α) : Record (Option α) :=
  field [name] d.option (.inObjectOnly none)

/-- A field that may be `null`, which it also is when it is not there. -/
def optional (name : String) (d : Decoder α) : Record (Option α) :=
  field [name] d.option (.orElse none)

/-- Goes through the members in order: the first field that is there for the second time or that
cannot be decoded is an error. `seen` are the names of the fields met before. -/
def checkMembers (slots : List Slot) : List String → List (String × Json) → Decoded Unit
  | _, [] => .ok ()
  | seen, (key, value) :: rest =>
    match slots.find? (·.names.contains key) with
    | none => checkMembers slots seen rest
    | some slot =>
      if seen.contains slot.name then .error (.duplicateField slot.name)
      else do
        slot.check value
        checkMembers slots (slot.name :: seen) rest

/-- How messages name a record with its number of fields. -/
def lengthText (type : String) (count : Nat) : String :=
  "struct " ++ type ++ " with " ++ toString count ++ if count = 1 then " element" else " elements"

/-- The decoder of a record with the given type name. -/
def decoder (type : String) (r : Record α) : Decoder α where
  run
    | .obj members => do
      checkMembers r.slots [] members
      r.ofMembers members
    | .arr items => do
      let (a, rest) ← r.ofItems (lengthText type r.slots.length) 0 items
      if rest.isEmpty then .ok a else .error (.tooLong items.length)
    | other => .error (.wrongType other ("struct " ++ type))
  shape := .record (r.slots.map fun slot => (slot.names, slot.shape))

end Record

end ScopeComposer.Json
