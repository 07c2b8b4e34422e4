import ScopeComposer.Proofs.Json.ReadBack
import ScopeComposer.Proofs.Json.Tokens

/-!
# Written values are read again

A value is read again from its text, compact or indented, if its numbers are integers of 64 bits and
its arrays and objects do not nest too deep. A decoder gets of it what it looks at: the fields of a
record in the order in which they stand, and free values in canonical form.
-/

namespace ScopeComposer.Json

/-! ## Values as read -/

mutual

/-- What is seen of a value through a shape: the fields of a record as they stand, everything else
in canonical form. -/
def seen (shape : Shape) : Json → Json
  | .null => .null
  | .bool b => .bool b
  | .num n => .num n
  | .str s => .str s
  | .arr items =>
    match shape with
    | .record fields => .arr (seenPositions fields items)
    | .items item => .arr (seenItems item items)
    | .free => .arr (seenItems .free items)
  | .obj members =>
    match shape with
    | .record fields => .obj (seenFields fields members)
    | _ => .obj (sortMembers (seenMembers members))

/-- What is seen of items of one shape. -/
def seenItems (shape : Shape) : List Json → List Json
  | [] => []
  | item :: rest => seen shape item :: seenItems shape rest

/-- What is seen of the fields of a record that are given by position. -/
def seenPositions (fields : List (List String × Shape)) : List Json → List Json
  | [] => []
  | item :: rest => seen (Shape.pop fields).1 item :: seenPositions (Shape.pop fields).2 rest

/-- What is seen of the members of a free object. -/
def seenMembers : List (String × Json) → List (String × Json)
  | [] => []
  | (key, value) :: rest => (key, seen .free value) :: seenMembers rest

/-- What is seen of the members of an object that are fields of a record. -/
def seenFields (fields : List (List String × Shape)) :
    List (String × Json) → List (String × Json)
  | [] => []
  | (key, value) :: rest =>
    match Shape.field? key fields with
    | none => seenFields fields rest
    | some shape => (key, seen shape value) :: seenFields fields rest

end

/-! ## Literals, texts and numerals -/

/-- Whether a text is what a raw value is read from: with enough fuel, and whatever stands behind
it. -/
def Writes (cs : List Char) (raw : Raw) : Prop :=
  ∀ fuel rest, 2 * cs.length < fuel → EndsNumeral rest →
    readValue fuel (cs ++ rest) = some (raw, rest)

/-- Whether a raw value stands for a value where `room` levels are allowed. -/
def Raw.StandsFor (room : Nat) (raw : Raw) (value : Json) : Prop :=
  ∀ shape, raw.value? shape room = some (value.seen shape)

/-- Whether a text is a written form of a value, read in both stages. -/
def ReadAs (room : Nat) (cs : List Char) (value : Json) : Prop :=
  ∃ raw, Writes cs raw ∧ raw.StandsFor room value

section Values

variable {room : Nat}

/-- A reader passes over white space before it looks at anything. -/
theorem readValue_skipSpace (fuel : Nat) (cs : List Char) :
    readValue fuel (skipSpace cs) = readValue fuel cs := by
  cases fuel with
  | zero => simp only [readValue]
  | succ fuel => simp only [readValue, skipSpace_skipSpace]

theorem readItems_skipSpace (fuel : Nat) (cs : List Char) :
    readItems fuel (skipSpace cs) = readItems fuel cs := by
  cases fuel with
  | zero => simp only [readItems]
  | succ fuel => simp only [readItems, readValue_skipSpace]

theorem readMembers_skipSpace (fuel : Nat) (cs : List Char) :
    readMembers fuel (skipSpace cs) = readMembers fuel cs := by
  cases fuel with
  | zero => simp only [readMembers]
  | succ fuel => simp only [readMembers, skipSpace_skipSpace]

/-- White space before a value is passed over. -/
theorem Writes.spaces {spaces cs : List Char} {raw : Raw}
    (hspaces : ∀ c ∈ spaces, isSpace c = true) (h : Writes cs raw) : Writes (spaces ++ cs) raw := by
  intro fuel rest hfuel hrest
  rw [List.length_append] at hfuel
  rw [List.append_assoc, ← readValue_skipSpace, skipSpace_append hspaces, readValue_skipSpace]
  exact h fuel rest (by omega) hrest

theorem ReadAs.spaces {cs : List Char} {value : Json} (h : ReadAs room cs value)
    (spaces : List Char) (hspaces : ∀ c ∈ spaces, isSpace c = true) :
    ReadAs room (spaces ++ cs) value := by
  obtain ⟨raw, hwrites, hstands⟩ := h
  exact ⟨raw, hwrites.spaces hspaces, hstands⟩

theorem ReadAs.null : ReadAs room "null".toList .null := by
  refine ⟨.null, fun fuel rest hfuel _ => ?_, fun shape => by rw [Raw.value?, seen]⟩
  obtain ⟨fuel, rfl⟩ := Nat.exists_eq_add_of_lt hfuel
  rfl

theorem ReadAs.bool (b : Bool) :
    ReadAs room (bif b then "true" else "false").toList (.bool b) := by
  refine ⟨.bool b, fun fuel rest hfuel _ => ?_, fun shape => by rw [Raw.value?, seen]⟩
  obtain ⟨fuel, rfl⟩ := Nat.exists_eq_add_of_lt hfuel
  cases b <;> rfl

theorem ReadAs.str (s : String) : ReadAs room (quoted s).toList (.str s) := by
  refine ⟨.str (s.toList.map writtenUnit), fun fuel rest hfuel _ => ?_, fun shape => ?_⟩
  · obtain ⟨fuel, rfl⟩ := Nat.exists_eq_add_of_lt hfuel
    have hquote : isSpace '"' = false := by decide
    rw [toList_quoted_append, readValue, skipSpace_of_head hquote]
    simp only [readUnits_quoted, Option.bind_eq_bind, Option.bind_some]
  · rw [Raw.value?, textOfUnits_written, seen]
    rfl

/-- The first character of a numeral starts no other value. -/
theorem readValue_of_numeral {c : Char} (hc : c = '-' ∨ c.isDigit = true) (fuel : Nat)
    (cs : List Char) : readValue (fuel + 1) (c :: cs) = (do
      let (numeral, rest) ← readNumeral (c :: cs)
      some (.num numeral, rest)) := by
  have hmem : c ∈ ['-', '0', '1', '2', '3', '4', '5', '6', '7', '8', '9'] :=
    List.mem_cons.2 (hc.imp_right Text.mem_digits)
  simp only [List.mem_cons, List.not_mem_nil, or_false] at hmem
  rcases hmem with rfl | rfl | rfl | rfl | rfl | rfl | rfl | rfl | rfl | rfl | rfl <;> rfl

theorem ReadAs.int {n : Int} (hlow : -(Text.signedBound : Int) ≤ n) (hhigh : n < UInt64.size) :
    ReadAs room (toString n).toList (.num (.int n)) := by
  refine ⟨.num (writtenNumeral n), fun fuel rest hfuel hrest => ?_, fun shape => ?_⟩
  · obtain ⟨fuel, rfl⟩ := Nat.exists_eq_add_of_lt hfuel
    have hread := readNumeral_toString n hrest
    have hne : (toString n).toList ≠ [] := fun h =>
      Text.toString_ne_empty n (String.toList_eq_nil_iff.1 h)
    obtain ⟨c, cs, hn⟩ := List.exists_cons_of_ne_nil hne
    have hc : c = '-' ∨ c.isDigit = true := Text.mem_toString (hn ▸ List.mem_cons_self)
    rw [hn, List.cons_append] at hread ⊢
    rw [readValue_of_numeral hc, hread]
    rfl
  · rw [Raw.value?, number?_writtenNumeral hlow hhigh, seen]
    rfl

/-! ## Items and members -/

/-- How a reader of lists reads a part: as the last one before the closing character, or with a
comma and more behind it. -/
structure ReadsPart {β : Type} (reader : Nat → List Char → Option (List β × List Char))
    (close : Char) (part : List Char) (b : β) : Prop where
  last : ∀ {fuel after rest}, 2 * part.length < fuel → EndsNumeral after →
    skipSpace after = close :: rest → reader (fuel + 1) (part ++ after) = some ([b], rest)
  more : ∀ {fuel after next bs rest}, 2 * part.length < fuel → EndsNumeral after →
    skipSpace after = ',' :: next → reader fuel next = some (bs, rest) →
    reader (fuel + 1) (part ++ after) = some (b :: bs, rest)

/-- Parts with commas between them are read one after the other; each leaves two units of fuel for
its comma. -/
theorem reads_parts {β γ : Type} {reader : Nat → List Char → Option (List β × List Char)}
    {close : Char} (hclose : EndsNumeral [close]) (hspace : isSpace close = false)
    {part : γ → List Char} {value : γ → β} {items : List γ} (hne : items ≠ [])
    (h : ∀ item ∈ items, ReadsPart reader close (part item) (value item)) {spaces : List Char}
    (hspaces : ∀ c ∈ spaces, isSpace c = true) (fuel : Nat) (rest : List Char)
    (hfuel : 2 * ([','].intercalate (items.map part)).length + 2 ≤ fuel) :
    reader fuel ([','].intercalate (items.map part) ++ (spaces ++ close :: rest)) =
      some (items.map value, rest) := by
  induction items generalizing fuel with
  | nil => exact absurd rfl hne
  | cons item items ih =>
    obtain ⟨fuel, rfl⟩ := Nat.exists_eq_add_of_le' (show 1 ≤ fuel by omega)
    have hitem := h item List.mem_cons_self
    cases items with
    | nil =>
      rw [List.map_singleton, List.intercalate_singleton] at hfuel ⊢
      refine hitem.last (by omega) (endsNumeral_spaces hspaces hclose rest) ?_
      rw [skipSpace_append hspaces, skipSpace_of_head hspace]
    | cons next items =>
      have hmore := ih (List.cons_ne_nil _ _) fun i hi => h i (List.mem_cons_of_mem _ hi)
      rw [List.map_cons, List.map_cons, List.intercalate_cons_cons] at hfuel ⊢
      simp only [List.length_append, List.length_singleton] at hfuel
      rw [List.append_assoc, List.append_assoc]
      refine hitem.more (by omega) (endsNumeral_cons (by decide) (by decide)) ?_
        (hmore fuel (by rw [List.map_cons]; omega))
      exact skipSpace_of_head (by decide) _

/-- An item that is written stands as a part of an array. -/
theorem Writes.readsPart {part : List Char} {raw : Raw} (h : Writes part raw) :
    ReadsPart readItems ']' part raw where
  last hfuel hafter hclose := by
    simp only [readItems, h _ _ hfuel hafter, hclose, Option.bind_eq_bind, Option.bind_some]
  more hfuel hafter hcomma hmore := by
    simp only [readItems, h _ _ hfuel hafter, hcomma, hmore, Option.bind_eq_bind, Option.bind_some]

/-- A key and a value that is written stand as a part of an object, with white space before the
key. -/
theorem Writes.member_readsPart {before text : List Char} {raw : Raw} (key : String)
    (hbefore : ∀ c ∈ before, isSpace c = true) (h : Writes text raw) :
    ReadsPart readMembers '\x7d' (before ++ ((quoted key).toList ++ ':' :: text))
      (key.toList.map writtenUnit, raw) := by
  have hspace : isSpace '"' = false := by decide
  have hcolon : isSpace ':' = false := by decide
  have hkey : ∀ after, (quoted key).toList ++ ':' :: text ++ after =
      '"' :: (key.toList.flatMap escapedChar ++ '"' :: ':' :: (text ++ after)) := fun after => by
    rw [List.append_assoc, toList_quoted_append, List.cons_append]
  have hlength : text.length ≤ (before ++ ((quoted key).toList ++ ':' :: text)).length := by
    simp only [List.length_append, List.length_cons]
    omega
  constructor
  · intro fuel after rest hfuel hafter hclose
    rw [List.append_assoc, hkey, readMembers, skipSpace_append hbefore, skipSpace_of_head hspace]
    simp only [readUnits_quoted, skipSpace_of_head hcolon, h fuel after (by omega) hafter, hclose,
      Option.bind_eq_bind, Option.bind_some]
  · intro fuel after next bs rest hfuel hafter hcomma hmore
    rw [List.append_assoc, hkey, readMembers, skipSpace_append hbefore, skipSpace_of_head hspace]
    simp only [readUnits_quoted, skipSpace_of_head hcolon, h fuel after (by omega) hafter, hcomma,
      hmore, Option.bind_eq_bind, Option.bind_some]

/-! ## Arrays and objects -/

theorem readItems_close (fuel : Nat) (rest : List Char) : readItems fuel (']' :: rest) = none := by
  have hvalue : ∀ fuel, readValue fuel (']' :: rest) = none := by
    intro fuel
    cases fuel <;> rfl
  cases fuel with
  | zero => rfl
  | succ fuel => simp only [readItems, hvalue, Option.bind_eq_bind, Option.bind_none]

theorem readMembers_close (fuel : Nat) (rest : List Char) :
    readMembers fuel ('\x7d' :: rest) = none := by
  cases fuel <;> rfl

/-- Where items can be read no array is closed, so that its items are read. -/
theorem readValue_arr {fuel : Nat} {cs rest : List Char} {raws : List Raw}
    (h : readItems fuel cs = some (raws, rest)) :
    readValue (fuel + 1) ('[' :: cs) = some (.arr raws, rest) := by
  have hopen : isSpace '[' = false := by decide
  rw [← readItems_skipSpace] at h
  rw [readValue, skipSpace_of_head hopen]
  simp only
  split
  · next hclose =>
    rw [hclose, readItems_close] at h
    cases h
  · simp only [h, Option.bind_eq_bind, Option.bind_some]

/-- Where members can be read no object is closed, so that its members are read. -/
theorem readValue_obj {fuel : Nat} {cs rest : List Char} {raws : List (List TextUnit × Raw)}
    (h : readMembers fuel cs = some (raws, rest)) :
    readValue (fuel + 1) ('\x7b' :: cs) = some (.obj raws, rest) := by
  have hopen : isSpace '\x7b' = false := by decide
  rw [← readMembers_skipSpace] at h
  rw [readValue, skipSpace_of_head hopen]
  simp only
  split
  · next hclose =>
    rw [hclose, readMembers_close] at h
    cases h
  · simp only [h, Option.bind_eq_bind, Option.bind_some]

/-- Brackets around nothing but white space. -/
theorem readValue_empty (fuel : Nat) {spaces : List Char} (h : ∀ c ∈ spaces, isSpace c = true)
    (rest : List Char) :
    readValue (fuel + 1) ('[' :: (spaces ++ ']' :: rest)) = some (.arr [], rest) ∧
      readValue (fuel + 1) ('\x7b' :: (spaces ++ '\x7d' :: rest)) = some (.obj [], rest) := by
  have harray : isSpace '[' = false ∧ isSpace ']' = false := by decide
  have hobject : isSpace '\x7b' = false ∧ isSpace '\x7d' = false := by decide
  constructor
  · rw [readValue, skipSpace_of_head harray.1]
    simp only [skipSpace_append h, skipSpace_of_head harray.2]
  · rw [readValue, skipSpace_of_head hobject.1]
    simp only [skipSpace_append h, skipSpace_of_head hobject.2]

/-- The items of an array may have white space before them and behind the last one. -/
theorem Writes.arr {form : Json → List Char} {raw : Json → Raw} {items : List Json}
    (h : ∀ item ∈ items, Writes (form item) (raw item)) {spaces : List Char}
    (hspaces : ∀ c ∈ spaces, isSpace c = true) :
    Writes ('[' :: ([','].intercalate (items.map form) ++ (spaces ++ [']'])))
      (.arr (items.map raw)) := by
  intro fuel rest hfuel _
  simp only [List.length_cons, List.length_append] at hfuel
  obtain ⟨fuel, rfl⟩ := Nat.exists_eq_add_of_le' (show 1 ≤ fuel by omega)
  have htext : '[' :: ([','].intercalate (items.map form) ++ (spaces ++ [']'])) ++ rest =
      '[' :: ([','].intercalate (items.map form) ++ (spaces ++ ']' :: rest)) := by simp
  rw [htext]
  rcases eq_or_ne items [] with rfl | hne
  · exact (readValue_empty fuel hspaces rest).1
  · exact readValue_arr (reads_parts endsNumeral_close.1 (by decide) hne
      (fun i hi => (h i hi).readsPart) hspaces fuel rest (by omega))

/-- The members of an object may have white space before them and behind the last one. -/
theorem Writes.obj {before : List Char} {text : String × Json → List Char}
    {raw : String × Json → Raw} {members : List (String × Json)}
    (hbefore : ∀ c ∈ before, isSpace c = true) (h : ∀ m ∈ members, Writes (text m) (raw m))
    {spaces : List Char} (hspaces : ∀ c ∈ spaces, isSpace c = true) :
    Writes ('\x7b' :: ([','].intercalate
        (members.map fun m => before ++ ((quoted m.1).toList ++ ':' :: text m)) ++
          (spaces ++ ['\x7d'])))
      (.obj (members.map fun m => (m.1.toList.map writtenUnit, raw m))) := by
  intro fuel rest hfuel _
  simp only [List.length_cons, List.length_append] at hfuel
  obtain ⟨fuel, rfl⟩ := Nat.exists_eq_add_of_le' (show 1 ≤ fuel by omega)
  have htext : ∀ body, '\x7b' :: (body ++ (spaces ++ ['\x7d'])) ++ rest =
      '\x7b' :: (body ++ (spaces ++ '\x7d' :: rest)) := by simp
  rw [htext]
  rcases eq_or_ne members [] with rfl | hne
  · exact (readValue_empty fuel hspaces rest).2
  · exact readValue_obj (reads_parts endsNumeral_close.2 (by decide) hne
      (fun m hm => (h m hm).member_readsPart m.1 hbefore) hspaces fuel rest (by omega))

/-! ## What stands for what -/

/-- Items that stand for values give these values, whatever the shape. -/
theorem Raw.items?_of_standsFor {raw : Json → Raw} {items : List Json}
    (h : ∀ item ∈ items, (raw item).StandsFor room item) (shape : Shape) :
    Raw.items? shape room (items.map raw) = some (seenItems shape items) := by
  induction items with
  | nil => rfl
  | cons item items ih =>
    have hrest := ih fun i hi => h i (List.mem_cons_of_mem _ hi)
    rw [List.map_cons, Raw.items?, h item List.mem_cons_self, hrest]
    rfl

theorem Raw.positions?_of_standsFor {raw : Json → Raw} {items : List Json}
    (h : ∀ item ∈ items, (raw item).StandsFor room item) (fields : List (List String × Shape)) :
    Raw.positions? fields room (items.map raw) = some (seenPositions fields items) := by
  induction items generalizing fields with
  | nil => rfl
  | cons item items ih =>
    have hrest := ih (fun i hi => h i (List.mem_cons_of_mem _ hi)) (Shape.pop fields).2
    rw [List.map_cons, Raw.positions?, h item List.mem_cons_self, hrest]
    rfl

theorem Raw.StandsFor.arr {raw : Json → Raw} {items : List Json}
    (h : ∀ item ∈ items, (raw item).StandsFor room item) :
    (Raw.arr (items.map raw)).StandsFor (room + 1) (.arr items) := by
  intro shape
  cases shape with
  | free => rw [Raw.value?, Raw.items?_of_standsFor h, Option.map_some, seen]
  | record fields => rw [Raw.value?, Raw.positions?_of_standsFor h, Option.map_some, seen]
  | items item => rw [Raw.value?, Raw.items?_of_standsFor h, Option.map_some, seen]

section Members

variable {raw : String × Json → Raw} {members : List (String × Json)}

theorem Raw.members?_of_standsFor (h : ∀ m ∈ members, (raw m).StandsFor room m.2) :
    Raw.members? room (members.map fun m => (m.1.toList.map writtenUnit, raw m)) =
      some (seenMembers members) := by
  induction members with
  | nil => rfl
  | cons m members ih =>
    have hrest := ih fun i hi => h i (List.mem_cons_of_mem _ hi)
    rw [List.map_cons, Raw.members?, textOfUnits_written, h m List.mem_cons_self, hrest]
    rfl

/-- A member under a name that is none of the fields is passed over. -/
theorem Raw.fields?_of_standsFor (h : ∀ m ∈ members, (raw m).StandsFor room m.2)
    (fields : List (List String × Shape)) :
    Raw.fields? fields room (members.map fun m => (m.1.toList.map writtenUnit, raw m)) =
      some (seenFields fields members) := by
  induction members with
  | nil => rfl
  | cons m members ih =>
    have hrest := ih fun i hi => h i (List.mem_cons_of_mem _ hi)
    rw [List.map_cons, Raw.fields?, textOfUnits_written, seenFields]
    cases hfield : Shape.field? m.1 fields with
    | none => simpa only [hfield, Option.bind_eq_bind, Option.bind_some] using hrest
    | some shape =>
      simp only [hfield, h m List.mem_cons_self shape, hrest, Option.bind_eq_bind,
        Option.bind_some]

theorem Raw.StandsFor.obj (h : ∀ m ∈ members, (raw m).StandsFor room m.2) :
    (Raw.obj (members.map fun m => (m.1.toList.map writtenUnit, raw m))).StandsFor (room + 1)
      (.obj members) := by
  intro shape
  cases shape with
  | record fields => rw [Raw.value?, Raw.fields?_of_standsFor h, Option.map_some, seen]
  | free => simp only [Raw.value?, Raw.members?_of_standsFor h, Option.map_some, seen]
  | items item => simp only [Raw.value?, Raw.members?_of_standsFor h, Option.map_some, seen]

end Members

/-- An array is read if its items are; it takes one level. -/
theorem ReadAs.arr {form : Json → List Char} {items : List Json}
    (h : ∀ item ∈ items, ReadAs room (form item) item) (spaces : List Char)
    (hspaces : ∀ c ∈ spaces, isSpace c = true) :
    ReadAs (room + 1) ('[' :: ([','].intercalate (items.map form) ++ (spaces ++ [']'])))
      (.arr items) := by
  choose! raw hwrites hstands using h
  exact ⟨.arr (items.map raw), .arr hwrites hspaces, .arr hstands⟩

/-- An object is read if its values are; it takes one level. -/
theorem ReadAs.obj {text : String × Json → List Char} {members : List (String × Json)}
    (h : ∀ m ∈ members, ReadAs room (text m) m.2) (before spaces : List Char)
    (hbefore : ∀ c ∈ before, isSpace c = true) (hspaces : ∀ c ∈ spaces, isSpace c = true) :
    ReadAs (room + 1) ('\x7b' :: ([','].intercalate
        (members.map fun m => before ++ ((quoted m.1).toList ++ ':' :: text m)) ++
          (spaces ++ ['\x7d']))) (.obj members) := by
  choose! raw hwrites hstands using h
  exact ⟨_, .obj hbefore hwrites hspaces, .obj hstands⟩

end Values

/-! ## The two printers -/

/-- Whether a value can be read again from its text: every number is an integer that fits in 64
bits, and there are at most `room` levels of arrays and objects. -/
inductive Readable : Nat → Json → Prop
  | null {room} : Readable room .null
  | bool {room} (b : Bool) : Readable room (.bool b)
  | int {room} {n : Int} (hlow : -(Text.signedBound : Int) ≤ n) (hhigh : n < UInt64.size) :
      Readable room (.num (.int n))
  | str {room} (s : String) : Readable room (.str s)
  | arr {room} {items : List Json} (h : ∀ item ∈ items, Readable room item) :
      Readable (room + 1) (.arr items)
  | obj {room} {members : List (String × Json)} (h : ∀ m ∈ members, Readable room m.2) :
      Readable (room + 1) (.obj members)

theorem compactItems_eq_map (items : List Json) : compactItems items = items.map compact := by
  induction items with
  | nil => rfl
  | cons item items ih => rw [compactItems, ih, List.map_cons]

theorem compactMembers_eq_map (members : List (String × Json)) :
    compactMembers members = members.map fun m => quoted m.1 ++ ":" ++ m.2.compact := by
  induction members with
  | nil => rfl
  | cons m members ih => rw [compactMembers, ih, List.map_cons]

theorem prettyItems_eq_map (level : Nat) (items : List Json) :
    prettyItems level items = items.map (prettyAt level) := by
  induction items with
  | nil => rfl
  | cons item items ih => rw [prettyItems, ih, List.map_cons]

theorem prettyMembers_eq_map (level : Nat) (members : List (String × Json)) :
    prettyMembers level members =
      members.map fun m => quoted m.1 ++ ": " ++ m.2.prettyAt level := by
  induction members with
  | nil => rfl
  | cons m members ih => rw [prettyMembers, ih, List.map_cons]

/-- In the compact form there is no white space. The induction is on the value. -/
theorem Readable.readAs_compact {room : Nat} {value : Json} (h : value.Readable room) :
    ReadAs room value.compact.toList value := by
  induction h with
  | null => exact .null
  | bool b =>
    cases b with
    | false => exact .bool false
    | true => exact .bool true
  | int hlow hhigh => exact .int hlow hhigh
  | str s => exact .str s
  | @arr room items h ih =>
    have hread := ReadAs.arr ih [] (by simp)
    rw [compact, compactItems_eq_map]
    simpa [String.toList_intercalate, Function.comp_def] using hread
  | @obj room members h ih =>
    have hread := ReadAs.obj ih [] [] (by simp) (by simp)
    rw [compact, compactMembers_eq_map]
    simpa [String.toList_intercalate, Function.comp_def] using hread

/-- Line breaks before the items of a list and after its commas. -/
theorem newline_intercalate {parts : List (List Char)} (hne : parts ≠ []) :
    '\n' :: [',', '\n'].intercalate parts = [','].intercalate (parts.map ('\n' :: ·)) := by
  induction parts with
  | nil => exact absurd rfl hne
  | cons part parts ih =>
    cases parts with
    | nil => simp
    | cons next parts =>
      have hrest := ih (List.cons_ne_nil _ _)
      simp only [List.map_cons, List.intercalate_cons_cons, List.append_assoc, List.cons_append,
        List.nil_append] at hrest ⊢
      rw [← hrest]

/-- The white space before an item that stands on a line of its own. -/
def lineStart (level : Nat) : List Char := '\n' :: (indent level).toList

/-- The white space before a closing bracket. -/
def closingStart (level : Nat) (parts : List String) : List Char :=
  if parts.isEmpty then [] else lineStart level

theorem isSpace_of_mem_lineStart (level : Nat) : ∀ c ∈ lineStart level, isSpace c = true := by
  intro c hc
  have hmem : c = '\n' ∨ c ∈ List.replicate (2 * level) ' ' := by
    simpa [lineStart, indent] using hc
  rcases hmem with rfl | hspace
  · decide
  · rw [List.eq_of_mem_replicate hspace]
    decide

theorem isSpace_of_mem_closingStart (level : Nat) (parts : List String) :
    ∀ c ∈ closingStart level parts, isSpace c = true := by
  intro c hc
  unfold closingStart at hc
  split at hc
  · exact absurd hc List.not_mem_nil
  · exact isSpace_of_mem_lineStart level c hc

/-- A bracketed list is a list with commas, whose items start with a line break and white space. -/
theorem toList_bracketed (level : Nat) (opening closing : String) (parts : List String) :
    (bracketed level opening closing parts).toList = opening.toList ++
      ([','].intercalate (parts.map fun part => lineStart (level + 1) ++ part.toList) ++
        (closingStart level parts ++ closing.toList)) := by
  rcases eq_or_ne parts [] with rfl | hne
  · simp [bracketed, closingStart]
  · have hparts : parts.map (fun part => lineStart (level + 1) ++ part.toList) =
        (parts.map fun part => (indent (level + 1)).toList ++ part.toList).map ('\n' :: ·) := by
      rw [List.map_map]
      rfl
    rw [hparts, ← newline_intercalate (by simpa using hne), bracketed, closingStart,
      if_neg (by simpa using hne), if_neg (by simpa using hne)]
    simp [String.toList_intercalate, Function.comp_def, lineStart]

/-- In the indented form white space stands before items, keys, values and closing brackets. -/
theorem Readable.readAs_prettyAt {room : Nat} {value : Json} (h : value.Readable room)
    (level : Nat) : ReadAs room (value.prettyAt level).toList value := by
  induction h generalizing level with
  | null => exact .null
  | bool b =>
    cases b with
    | false => exact .bool false
    | true => exact .bool true
  | int hlow hhigh => exact .int hlow hhigh
  | str s => exact .str s
  | @arr room items h ih =>
    have hitems := fun item hitem =>
      ReadAs.spaces (ih item hitem (level + 1)) _ (isSpace_of_mem_lineStart (level + 1))
    have hread := ReadAs.arr hitems _
      (isSpace_of_mem_closingStart level (items.map (prettyAt (level + 1))))
    rw [prettyAt, prettyItems_eq_map, toList_bracketed, List.map_map]
    exact hread
  | @obj room members h ih =>
    have hspace : ∀ c ∈ [' '], isSpace c = true := List.forall_mem_singleton.2 (by decide)
    have hvalues := fun m hm => ReadAs.spaces (ih m hm (level + 1)) [' '] hspace
    have hread := ReadAs.obj hvalues _ _ (isSpace_of_mem_lineStart (level + 1))
      (isSpace_of_mem_closingStart level (prettyMembers (level + 1) members))
    rw [prettyAt, toList_bracketed]
    rw [prettyMembers_eq_map] at hread ⊢
    rw [List.map_map]
    simpa [Function.comp_def] using hread

/-! ## Reading the text again -/

mutual

/-- Through the free shape a value is seen in canonical form. -/
theorem seen_free : ∀ value : Json, value.seen .free = value.canonical
  | .null => rfl
  | .bool _ => rfl
  | .num _ => rfl
  | .str _ => rfl
  | .arr items => by rw [seen, canonical, seenItems_free items]
  | .obj members => by
    simp only [seen, canonical, seenMembers_eq_canonicalMembers members]

theorem seenItems_free : ∀ items, seenItems .free items = canonicalItems items
  | [] => rfl
  | item :: rest => by rw [seenItems, canonicalItems, seen_free item, seenItems_free rest]

theorem seenMembers_eq_canonicalMembers : ∀ members, seenMembers members = canonicalMembers members
  | [] => rfl
  | (key, value) :: rest => by
    rw [seenMembers, canonicalMembers, seen_free value, seenMembers_eq_canonicalMembers rest]

end

/-- Nothing stands behind a whole text, and its length gives fuel enough. -/
theorem ReadAs.ofText? {room : Nat} {text : String} {value : Json}
    (h : ReadAs room text.toList value) :
    ∃ raw, Raw.ofText? text = some raw ∧ raw.StandsFor room value := by
  obtain ⟨raw, hwrites, hstands⟩ := h
  have hread := hwrites (2 * text.toList.length + 2) [] (by omega) (by simp [EndsNumeral])
  rw [List.append_nil] at hread
  refine ⟨raw, ?_, hstands⟩
  simp only [Raw.ofText?, Raw.ofPrefix?, hread, Option.bind_eq_bind, Option.bind_some]
  rfl

/-- A decoder gets of a written value what is seen of it through the shape of the decoder. -/
theorem ReadAs.decoder_ofText? {α : Type} {text : String} {value : Json}
    (h : ReadAs maxDepth text.toList value) (d : Decoder α) :
    d.ofText? text = (d.run (value.seen d.shape)).toOption := by
  obtain ⟨raw, hraw, hstands⟩ := h.ofText?
  simp only [Decoder.ofText?, hraw, hstands d.shape, Option.bind_eq_bind, Option.bind_some]

/-- A free value is read from its text in canonical form. -/
theorem Readable.parse? {value : Json} (h : value.Readable maxDepth) :
    parse? value.compact = some value.canonical ∧ parse? value.pretty = some value.canonical := by
  have hparse : ∀ text : String, ReadAs maxDepth text.toList value →
      Json.parse? text = some value.canonical := by
    intro text htext
    obtain ⟨raw, hraw, hstands⟩ := ReadAs.ofText? htext
    rw [Json.parse?, hraw, Option.bind_eq_bind, Option.bind_some, hstands, seen_free]
  exact ⟨hparse _ h.readAs_compact, hparse _ (h.readAs_prettyAt 0)⟩

/-! ## Reading back from the text -/

/-- Whether a value can be read again from its text and is seen through a shape as it stands. -/
structure Fits (shape : Shape) (room : Nat) (value : Json) : Prop where
  readable : value.Readable room
  seen_eq : value.seen shape = value

/-- Whether the members of an object are fields of a record and fit the shapes of these. -/
def MembersFit (fields : List (List String × Shape)) (room : Nat)
    (members : List (String × Json)) : Prop :=
  ∀ m ∈ members, ∃ shape, Shape.field? m.1 fields = some shape ∧ m.2.Fits shape room

section Fits

variable {shape : Shape} {room : Nat}

/-- A free value in canonical form is seen as it stands. -/
theorem Fits.free {value : Json} (h : value.Readable room) (hcanonical : value.canonical = value) :
    value.Fits .free room := ⟨h, by rw [seen_free, hcanonical]⟩

theorem Fits.null : Json.null.Fits shape room := ⟨.null, rfl⟩

theorem Fits.str (s : String) : (Json.str s).Fits shape room := ⟨.str s, rfl⟩

theorem Fits.nat {n : Nat} (h : n < UInt64.size) : (Json.nat n).Fits shape room :=
  ⟨.int (by omega) (by omega), rfl⟩

theorem Fits.ofOption {α : Type} (encode : α → Json) (value : Option α)
    (h : ∀ a ∈ value, (encode a).Fits shape room) :
    (Json.ofOption encode value).Fits shape room := by
  cases value with
  | none => exact .null
  | some a => exact h a rfl

theorem Fits.list {α : Type} (encode : α → Json) (items : List α)
    (h : ∀ a ∈ items, (encode a).Fits shape room) :
    (Json.ofList encode items).Fits (.items shape) (room + 1) := by
  have hseen : seenItems shape (items.map encode) = items.map encode := by
    induction items with
    | nil => rfl
    | cons a items ih =>
      rw [List.map_cons, seenItems, (h a List.mem_cons_self).seen_eq,
        ih fun b hb => h b (List.mem_cons_of_mem _ hb)]
  constructor
  · refine .arr fun item hitem => ?_
    obtain ⟨a, ha, rfl⟩ := List.mem_map.1 hitem
    exact (h a ha).readable
  · rw [ofList, seen, hseen]

theorem MembersFit.nil {fields : List (List String × Shape)} : MembersFit fields room [] :=
  nofun

theorem MembersFit.cons {fields : List (List String × Shape)} {key : String} {value : Json}
    {members : List (String × Json)} (hfield : Shape.field? key fields = some shape)
    (hvalue : value.Fits shape room) (hrest : MembersFit fields room members) :
    MembersFit fields room ((key, value) :: members) :=
  List.forall_mem_cons.2 ⟨⟨shape, hfield, hvalue⟩, hrest⟩

/-- A record is seen as it stands if its members are fields whose values are. -/
theorem Fits.record {fields : List (List String × Shape)} {members : List (String × Json)}
    (h : MembersFit fields room members) : (Json.obj members).Fits (.record fields) (room + 1) := by
  have hseen : seenFields fields members = members := by
    induction members with
    | nil => rfl
    | cons m members ih =>
      obtain ⟨shape, hfield, hfits⟩ := h m List.mem_cons_self
      rw [seenFields, hfield]
      simp only [hfits.seen_eq, ih fun m hm => h m (List.mem_cons_of_mem _ hm)]
  constructor
  · refine .obj fun m hm => ?_
    obtain ⟨shape, -, hfits⟩ := h m hm
    exact hfits.readable
  · rw [seen, hseen]

end Fits

/-- Whether a decoder reads a value back from the text of what was written for it, be it compact or
indented. -/
def Decoder.ReadsText {α : Type} (d : Decoder α) (written : Json) (a : α) : Prop :=
  d.ofText? written.compact = some a ∧ d.ofText? written.pretty = some a

/-- What is read back from a value of which all is seen is read back from its text. -/
theorem Decoder.ReadsBack.readsText {α : Type} {d : Decoder α} {written : Json} {a : α}
    (h : d.ReadsBack .declared written a) (hfits : written.Fits d.shape maxDepth) :
    d.ReadsText written a := by
  have hread : ∀ text : String, ReadAs maxDepth text.toList written → d.ofText? text = some a := by
    intro text htext
    have hrun : d.run written = .ok a := h
    rw [ReadAs.decoder_ofText? htext, hfits.seen_eq, hrun]
    rfl
  exact ⟨hread _ hfits.readable.readAs_compact, hread _ (hfits.readable.readAs_prettyAt 0)⟩

end ScopeComposer.Json
