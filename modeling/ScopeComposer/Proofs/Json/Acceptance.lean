import Mathlib.Data.List.Pairwise
import ScopeComposer.Json.Record
import ScopeComposer.Proofs.Checks
import ScopeComposer.Proofs.Json.ReadBack

/-!
# What decoders accept

Which values a decoder accepts and what it takes them for: decoder by decoder, and for records field
by field. A field only sees the values that stand under its names: with one value it is what that
value decodes to, with none it may have a value of its own, and with more it is refused. So neither
the order of the members matters, nor under which of its names a field is told, nor what else the
object holds.
-/

namespace ScopeComposer.Json

/-! ## Decoders -/

namespace Decoder

variable {α β : Type} {d : Decoder α} {value : Json}

theorem andThen_run_eq_ok_iff {f : α → Decoded β} {b : β} :
    (d.andThen f).run value = .ok b ↔ ∃ a, d.run value = .ok a ∧ f a = .ok b := by
  unfold andThen
  exact bind_eq_ok_iff

theorem map_run_eq_ok_iff {f : α → β} {b : β} :
    (d.map f).run value = .ok b ↔ ∃ a, d.run value = .ok a ∧ f a = b := by
  unfold map
  simp [andThen_run_eq_ok_iff]

theorem string_run_eq_ok_iff {s : String} : string.run value = .ok s ↔ value = .str s := by
  unfold string
  cases value <;> simp

theorem integer_run_eq_ok_iff {name : String} {low bound n : Int} :
    (integer name low bound).run value = .ok n ↔ value = .int n ∧ low ≤ n ∧ n < bound := by
  unfold integer
  dsimp only
  split
  · next m =>
    split
    · next hrange =>
      constructor
      · rintro ⟨⟩
        exact ⟨rfl, hrange⟩
      · rintro ⟨⟨⟩, -⟩
        rfl
    · next hrange =>
      refine ⟨nofun, ?_⟩
      rintro ⟨⟨⟩, hrange'⟩
      exact absurd hrange' hrange
  · next hother =>
    refine ⟨nofun, ?_⟩
    rintro ⟨rfl, -⟩
    exact absurd rfl (hother n)

/-- An optional value is none for `null` only; the decoder below is not asked then. -/
theorem option_run_eq_ok_iff {result : Option α} : d.option.run value = .ok result ↔
    value = .null ∧ result = none ∨ value ≠ .null ∧ ∃ a, d.run value = .ok a ∧ some a = result := by
  unfold option
  dsimp only
  split
  · simp [eq_comm]
  · next hother =>
    have hne : value ≠ .null := hother
    rw [bind_eq_ok_iff]
    simp [hne]

/-- A list is decoded item by item, and one that fails fails the list. -/
theorem list_run_arr_eq_ok_iff {items : List Json} {results : List α} :
    d.list.run (.arr items) = .ok results ↔
      List.Forall₂ (fun item a => d.run item = .ok a) items results := by
  change items.mapM d.run = .ok results ↔ _
  exact mapM_eq_ok_iff

/-- Every item of an array that is accepted is accepted. -/
theorem exists_run_item {items : List Json} {results : List α}
    (h : d.list.run (.arr items) = .ok results) : ∀ item ∈ items, ∃ a, d.run item = .ok a := by
  rw [list_run_arr_eq_ok_iff] at h
  induction h with
  | nil => simp
  | cons hitem _ ih => exact List.forall_mem_cons.2 ⟨⟨_, hitem⟩, ih⟩

/-- The second alternative is asked only for what the first one refuses. -/
theorem either_run_eq_ok_iff {type : String} {first second : Decoder α} {a : α} :
    (either type first second).run value = .ok a ↔ first.run value = .ok a ∨
      (∀ b, first.run value ≠ .ok b) ∧ second.run value = .ok a := by
  unfold either
  dsimp only
  cases first.run value with
  | ok b => simp
  | error e => cases second.run value <;> simp

end Decoder

/-! ## Values under names -/

/-- The values under some names, in the order in which they stand. -/
def valuesUnder (names : List String) (members : List (String × Json)) : List Json :=
  (members.filter fun m => names.contains m.1).map (·.2)

section Values

variable {names : List String} {members members' : List (String × Json)}

theorem valuesUnder_cons_of_mem {m : String × Json} (h : m.1 ∈ names) :
    valuesUnder names (m :: members) = m.2 :: valuesUnder names members := by
  simp [valuesUnder, h]

theorem valuesUnder_cons_of_not_mem {m : String × Json} (h : m.1 ∉ names) :
    valuesUnder names (m :: members) = valuesUnder names members := by
  simp [valuesUnder, h]

theorem mem_valuesUnder {value : Json} :
    value ∈ valuesUnder names members ↔ ∃ key ∈ names, (key, value) ∈ members := by
  simp [valuesUnder, and_comm]

/-- Reordering members reorders the values of a field and changes nothing else. -/
theorem valuesUnder_perm (h : members.Perm members') :
    (valuesUnder names members).Perm (valuesUnder names members') :=
  (h.filter _).map _

/-- The first member under the names of a field has its first value. -/
theorem find?_eq_head?_valuesUnder (names : List String) (members : List (String × Json)) :
    (members.find? fun m => names.contains m.1).map (·.2) = (valuesUnder names members).head? := by
  rw [valuesUnder, List.head?_map, List.head?_filter]

/-- A name that no member has adds nothing. -/
theorem valuesUnder_pair {name other : String} (h : other ∉ memberKeys members) :
    valuesUnder [name, other] members = valuesUnder [name] members := by
  have hcongr : ∀ m ∈ members, [name, other].contains m.1 = [name].contains m.1 := by
    intro m hm
    have hne : m.1 ≠ other := fun heq => h (heq ▸ List.mem_map_of_mem hm)
    simp [hne]
  rw [valuesUnder, List.filter_congr hcongr, valuesUnder]

/-- Two members under different names are two values. -/
theorem two_le_length_valuesUnder {key key' : String} (hkey : key ∈ names) (hkey' : key' ∈ names)
    (hne : key ≠ key') (h : key ∈ memberKeys members) (h' : key' ∈ memberKeys members) :
    2 ≤ (valuesUnder names members).length := by
  obtain ⟨m, hm, rfl⟩ := List.mem_map.1 h
  obtain ⟨m', hm', rfl⟩ := List.mem_map.1 h'
  have hmem : m ∈ members.filter fun m => names.contains m.1 := by simp [hm, hkey]
  have hmem' : m' ∈ members.filter fun m => names.contains m.1 := by simp [hm', hkey']
  rw [valuesUnder, List.length_map]
  rcases hfound : members.filter fun m => names.contains m.1 with _ | ⟨first, _ | ⟨second, rest⟩⟩
  · rw [hfound] at hmem
    cases hmem
  · rw [hfound] at hmem hmem'
    have heq : m = m' := (List.mem_singleton.1 hmem).trans (List.mem_singleton.1 hmem').symm
    exact absurd (congrArg Prod.fst heq) hne
  · rw [hfound]
    simp

end Values

/-! ## What is told of a field -/

/-- What the values under the names of a field say. -/
inductive Told {α : Type} (d : Decoder α) (absence : Absence α) : List Json → α → Prop where
  /-- One value, which can be decoded. -/
  | once {value : Json} {a : α} (h : d.run value = .ok a) : Told d absence [value] a
  /-- No value, and the field may be left out. -/
  | nowhere {a : α} (h : absence.inObject = some a) : Told d absence [] a

namespace Told

variable {α : Type} {d : Decoder α} {absence : Absence α} {values values' : List Json} {a : α}

/-- A field that is told by values is told by one of them at most. -/
theorem length_le_one (h : Told d absence values a) : values.length ≤ 1 := by
  cases h <;> simp

theorem decodes (h : Told d absence values a) : ∀ value ∈ values, d.run value = .ok a := by
  cases h with
  | once h => simpa using h
  | nowhere h => simp

/-- What a field is told to be does not depend on the order of members. -/
theorem of_perm (hperm : values.Perm values') (h : Told d absence values a) :
    Told d absence values' a := by
  cases h with
  | once h =>
    obtain rfl := List.singleton_perm.1 hperm
    exact .once h
  | nowhere h =>
    obtain rfl := List.nil_perm.1 hperm
    exact .nowhere h

theorem perm_iff (hperm : values.Perm values') :
    Told d absence values a ↔ Told d absence values' a :=
  ⟨of_perm hperm, of_perm hperm.symm⟩

end Told

/-! ## Acceptance -/

/-- Members that a field accepts: it is there at most once, and what is there can be decoded. -/
structure Slot.Accepts (slot : Slot) (members : List (String × Json)) : Prop where
  /-- The field is there at most once. -/
  once : (valuesUnder slot.names members).length ≤ 1
  /-- Its value can be decoded. -/
  check : ∀ value ∈ valuesUnder slot.names members, slot.check value = .ok ()

namespace Slot

variable {slot : Slot} {m : String × Json} {members : List (String × Json)}

/-- A field that has a name at all is called by one of its names. -/
theorem name_mem {key : String} (h : key ∈ slot.names) : slot.name ∈ slot.names := by
  unfold name
  cases hnames : slot.names with
  | nil => simp [hnames] at h
  | cons first rest => simp

/-- A field that is not there cannot be at fault. -/
theorem accepts_of_no_value (h : valuesUnder slot.names members = []) : slot.Accepts members where
  once := by simp [h]
  check := by simp [h]

/-- A member of a field has to be decoded, and it has to be the only one of that field. -/
theorem accepts_cons_of_mem (h : m.1 ∈ slot.names) : slot.Accepts (m :: members) ↔
    slot.check m.2 = .ok () ∧ valuesUnder slot.names members = [] := by
  constructor
  · rintro ⟨honce, hcheck⟩
    rw [valuesUnder_cons_of_mem h] at honce hcheck
    exact ⟨hcheck m.2 List.mem_cons_self, by simpa using honce⟩
  · rintro ⟨hcheck, hnone⟩
    have hvalues : valuesUnder slot.names (m :: members) = [m.2] := by
      rw [valuesUnder_cons_of_mem h, hnone]
    exact ⟨by simp [hvalues], by simpa [hvalues] using hcheck⟩

/-- A member under another name does not concern a field. -/
theorem accepts_cons_of_not_mem (h : m.1 ∉ slot.names) :
    slot.Accepts (m :: members) ↔ slot.Accepts members := by
  constructor
  · rintro ⟨honce, hcheck⟩
    rw [valuesUnder_cons_of_not_mem h] at honce hcheck
    exact ⟨honce, hcheck⟩
  · rintro ⟨honce, hcheck⟩
    rw [← valuesUnder_cons_of_not_mem h] at honce hcheck
    exact ⟨honce, hcheck⟩

/-- Whether two fields have no name in common. -/
def Apart (s t : Slot) : Prop := ∀ name ∈ s.names, name ∉ t.names

instance : Std.Symm Apart := ⟨fun _ _ h name ht hs => h name hs ht⟩

end Slot

/-- Fields of which no two have a name in common. -/
def NamesApart (slots : List Slot) : Prop := slots.Pairwise Slot.Apart

section NamesApart

variable {slots : List Slot} {s t : Slot}

/-- A name belongs to one field at most. -/
theorem NamesApart.eq_of_mem (h : NamesApart slots) (hs : s ∈ slots) (ht : t ∈ slots)
    {name : String} (hname : name ∈ s.names) (hname' : name ∈ t.names) : s = t := by
  by_contra hne
  exact List.Pairwise.forall h hs ht hne name hname hname'

/-- Only a field without any name is called like another one. -/
theorem NamesApart.valuesUnder_of_name_eq (h : NamesApart slots) (hs : s ∈ slots) (ht : t ∈ slots)
    (hne : s ≠ t) {key : String} (hkey : key ∈ t.names) (hsame : s.name = t.name)
    (members : List (String × Json)) : valuesUnder s.names members = [] := by
  have hnone : s.names = [] := by
    refine List.eq_nil_iff_forall_not_mem.2 fun name hname => hne ?_
    refine h.eq_of_mem hs ht (Slot.name_mem hname) ?_
    rw [hsame]
    exact Slot.name_mem hkey
  simp [hnone, valuesUnder]

end NamesApart

/-- The members are gone through one by one, and the names of the fields met before are kept: a
field that was met before may not be there again, and any other field has to accept the members that
are left. -/
theorem Record.checkMembers_eq_ok_iff {slots : List Slot} (hapart : NamesApart slots)
    (seen : List String) (members : List (String × Json)) :
    checkMembers slots seen members = .ok () ↔ ∀ slot ∈ slots,
      slot.Accepts members ∧ (slot.name ∈ seen → valuesUnder slot.names members = []) := by
  induction members generalizing seen with
  | nil => simp [checkMembers, valuesUnder, Slot.accepts_of_no_value]
  | cons m members ih =>
    unfold checkMembers
    cases hfind : slots.find? (·.names.contains m.1) with
    | none =>
      have hnone : ∀ slot ∈ slots, m.1 ∉ slot.names := by simpa using hfind
      dsimp only
      rw [ih]
      refine forall₂_congr fun slot hslot => ?_
      rw [Slot.accepts_cons_of_not_mem (hnone slot hslot),
        valuesUnder_cons_of_not_mem (hnone slot hslot)]
    | some found =>
      have hmem : found ∈ slots := List.mem_of_find?_eq_some hfind
      have hname : m.1 ∈ found.names := by simpa using List.find?_some hfind
      have hvalue : valuesUnder found.names (m :: members) ≠ [] := by
        simp [valuesUnder_cons_of_mem hname]
      dsimp only
      by_cases hseen : found.name ∈ seen
      · rw [if_pos (by simpa using hseen)]
        exact ⟨nofun, fun h => absurd ((h found hmem).2 hseen) hvalue⟩
      rw [if_neg (by simpa using hseen)]
      cases hcheck : found.check m.2 with
      | error e =>
        refine ⟨nofun, fun h => ?_⟩
        have haccepts := (Slot.accepts_cons_of_mem hname).1 (h found hmem).1
        rw [hcheck] at haccepts
        cases haccepts.1
      | ok _ =>
        change checkMembers slots (found.name :: seen) members = .ok () ↔ _
        rw [ih]
        refine forall₂_congr fun slot hslot => ?_
        by_cases heq : slot = found
        · subst heq
          rw [Slot.accepts_cons_of_mem hname]
          simp only [hseen, hcheck, List.mem_cons_self]
          simp only [true_and, forall_const, false_implies, and_true]
          exact and_iff_right_of_imp Slot.accepts_of_no_value
        · have hother : m.1 ∉ slot.names := fun h => heq (hapart.eq_of_mem hslot hmem h hname)
          have hnames : slot.name = found.name → valuesUnder slot.names members = [] := fun hsame =>
            hapart.valuesUnder_of_name_eq hslot hmem heq hname hsame members
          rw [Slot.accepts_cons_of_not_mem hother, valuesUnder_cons_of_not_mem hother]
          refine and_congr_right fun _ => ?_
          rw [List.mem_cons, or_imp]
          exact and_iff_right hnames

/-- Whether a description of a record accepts members and takes them for a value. -/
structure Record.Accepts {α : Type} (r : Record α) (members : List (String × Json)) (a : α) :
    Prop where
  /-- Every field accepts the members. -/
  slots : ∀ slot ∈ r.slots, slot.Accepts members
  /-- The value is what the members say. -/
  ofMembers : r.ofMembers members = .ok a

namespace Record

variable {α β : Type} {members : List (String × Json)}

@[simp]
theorem slots_map (f : α → β) (x : Record α) : (f <$> x).slots = x.slots := rfl

@[simp]
theorem slots_seq (f : Record (α → β)) (x : Record α) : (f <*> x).slots = f.slots ++ x.slots := rfl

@[simp]
theorem slots_field (names : List String) (d : Decoder α) (absence : Absence α) :
    (field names d absence).slots =
      [{ names, shape := d.shape, check := fun value => do let _ ← d.run value }] := rfl

@[simp]
theorem slots_required (name : String) (d : Decoder α) :
    (required name d).slots = (field [name] d .never).slots := rfl

@[simp]
theorem slots_orElse (name : String) (d : Decoder α) (a : α) :
    (orElse name d a).slots = (field [name] d (.orElse a)).slots := rfl

@[simp]
theorem slots_optional (name : String) (d : Decoder α) :
    (optional name d).slots = (field [name] d.option (.orElse none)).slots := rfl

theorem accepts_map_iff {f : α → β} {x : Record α} {b : β} :
    (f <$> x).Accepts members b ↔ ∃ a, x.Accepts members a ∧ f a = b := by
  have hrun : (f <$> x).ofMembers members = (do let a ← x.ofMembers members; Except.ok (f a)) := rfl
  constructor
  · rintro ⟨hfields, hb⟩
    rw [hrun] at hb
    obtain ⟨a, ha, hb⟩ := bind_eq_ok_iff.1 hb
    exact ⟨a, ⟨hfields, ha⟩, Except.ok.inj hb⟩
  · rintro ⟨a, ⟨hfields, ha⟩, rfl⟩
    refine ⟨hfields, ?_⟩
    rw [hrun, ha]
    rfl

/-- An object is accepted if every field accepts its members. -/
theorem decoder_run_obj_eq_ok_iff {r : Record α} {type : String} {a : α}
    (hapart : NamesApart r.slots) :
    (r.decoder type).run (.obj members) = .ok a ↔ r.Accepts members a := by
  have hcheck : checkMembers r.slots [] members = .ok () ↔
      ∀ slot ∈ r.slots, slot.Accepts members := by
    rw [checkMembers_eq_ok_iff hapart]
    simp
  change (do checkMembers r.slots [] members; r.ofMembers members) = .ok a ↔ _
  constructor
  · intro h
    obtain ⟨_, hpassed, ha⟩ := bind_eq_ok_iff.1 h
    exact ⟨hcheck.1 hpassed, ha⟩
  · rintro ⟨hslots, ha⟩
    exact bind_eq_ok_iff.2 ⟨(), hcheck.2 hslots, ha⟩

/-- Fields are accepted one by one, each from all of the members. -/
theorem accepts_seq_iff {f : Record (α → β)} {x : Record α} {b : β} :
    (f <*> x).Accepts members b ↔
      ∃ g a, f.Accepts members g ∧ x.Accepts members a ∧ g a = b := by
  have hrun : (f <*> x).ofMembers members =
      (do let g ← f.ofMembers members; let a ← x.ofMembers members; Except.ok (g a)) := rfl
  constructor
  · rintro ⟨hfields, hb⟩
    rw [slots_seq, List.forall_mem_append] at hfields
    rw [hrun] at hb
    obtain ⟨g, hg, hb⟩ := bind_eq_ok_iff.1 hb
    obtain ⟨a, ha, hb⟩ := bind_eq_ok_iff.1 hb
    exact ⟨g, a, ⟨hfields.1, hg⟩, ⟨hfields.2, ha⟩, Except.ok.inj hb⟩
  · rintro ⟨g, a, ⟨hf, hg⟩, ⟨hx, ha⟩, rfl⟩
    refine ⟨?_, ?_⟩
    · rw [slots_seq, List.forall_mem_append]
      exact ⟨hf, hx⟩
    · rw [hrun, hg, ha]
      rfl

section Field

variable {names : List String} {d : Decoder α} {absence : Absence α} {a : α} {value : Json}

/-- The value that stands first is the one that is decoded. -/
theorem ofMembers_field_of_values {rest : List Json}
    (h : valuesUnder names members = value :: rest) :
    (field names d absence).ofMembers members = d.run value := by
  have hfirst := find?_eq_head?_valuesUnder names members
  rw [h, List.head?_cons, Option.map_eq_some_iff] at hfirst
  obtain ⟨m, hfind, rfl⟩ := hfirst
  simp only [field, hfind]

/-- A field that is not there has a value only if it may be left out. -/
theorem ofMembers_field_of_no_value (h : valuesUnder names members = []) :
    (field names d absence).ofMembers members = .ok a ↔ absence.inObject = some a := by
  have hfirst := find?_eq_head?_valuesUnder names members
  rw [h, List.head?_nil, Option.map_eq_none_iff] at hfirst
  simp only [field, hfirst]
  cases absence.inObject <;> simp

/-- A field gives what is told of it. -/
theorem accepts_field_iff :
    (field names d absence).Accepts members a ↔ Told d absence (valuesUnder names members) a := by
  constructor
  · rintro ⟨hslots, ha⟩
    rw [slots_field] at hslots
    have honce : (valuesUnder names members).length ≤ 1 :=
      (hslots _ List.mem_cons_self).once
    rcases hvalues : valuesUnder names members with _ | ⟨value, _ | ⟨second, rest⟩⟩
    · exact .nowhere ((ofMembers_field_of_no_value hvalues).1 ha)
    · rw [ofMembers_field_of_values hvalues] at ha
      exact .once ha
    · simp [hvalues] at honce
  · intro h
    constructor
    · rw [slots_field, List.forall_mem_singleton]
      refine ⟨h.length_le_one, fun value hvalue => ?_⟩
      change (do let _ ← d.run value; Except.ok ()) = _
      rw [h.decodes value hvalue]
      rfl
    · generalize hvalues : valuesUnder names members = values at h
      cases h with
      | once ha => rw [ofMembers_field_of_values hvalues, ha]
      | nowhere ha => exact (ofMembers_field_of_no_value hvalues).2 ha

end Field

/-- A record of three fields is accepted if something is told of each of them. -/
theorem decoder_run_three_fields_eq_ok_iff {δ ε : Type} {make : α → β → δ → ε}
    {names₁ names₂ names₃ : List String} {d₁ : Decoder α} {d₂ : Decoder β} {d₃ : Decoder δ}
    {absence₁ : Absence α} {absence₂ : Absence β} {absence₃ : Absence δ} {type : String} {e : ε}
    (hapart : NamesApart (make <$> field names₁ d₁ absence₁ <*> field names₂ d₂ absence₂
      <*> field names₃ d₃ absence₃ : Record ε).slots) :
    ((make <$> field names₁ d₁ absence₁ <*> field names₂ d₂ absence₂
        <*> field names₃ d₃ absence₃ : Record ε).decoder type).run (.obj members) = .ok e ↔
      ∃ a b c, Told d₁ absence₁ (valuesUnder names₁ members) a ∧
        Told d₂ absence₂ (valuesUnder names₂ members) b ∧
        Told d₃ absence₃ (valuesUnder names₃ members) c ∧ make a b c = e := by
  rw [decoder_run_obj_eq_ok_iff hapart]
  simp only [accepts_seq_iff, accepts_map_iff, accepts_field_iff]
  constructor
  · rintro ⟨_, c, ⟨_, b, ⟨a, ha, rfl⟩, hb, rfl⟩, hc, rfl⟩
    exact ⟨a, b, c, ha, hb, hc, rfl⟩
  · rintro ⟨a, b, c, ha, hb, hc, rfl⟩
    exact ⟨_, c, ⟨_, b, ⟨a, ha, rfl⟩, hb, rfl⟩, hc, rfl⟩

end Record

end ScopeComposer.Json
