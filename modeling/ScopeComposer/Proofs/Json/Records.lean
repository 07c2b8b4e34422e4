import Mathlib.Data.List.Nodup
import ScopeComposer.Proofs.Json.Acceptance

/-!
# Reading records back

A record is read back from the members that were written for it, in whatever order they stand: a
field that was written is there with the value that was written and with no other. So the members
are accepted field by field, and the proof for a record follows its description.
-/

namespace ScopeComposer.Json

/-- Members as they reach a decoder: none is there twice, and all that were written are there, and
no others. -/
structure Presents (order : MemberOrder) (written members : List (String × Json)) : Prop where
  /-- No key is there twice. -/
  nodup : (memberKeys members).Nodup
  /-- There are no other keys. -/
  keys : ∀ key ∈ memberKeys members, key ∈ memberKeys written
  /-- Every member is there. -/
  mem : ∀ m ∈ written, (m.1, m.2.inOrder order) ∈ members

theorem exists_presents (order : MemberOrder) {written : List (String × Json)}
    (h : (memberKeys written).Nodup) : ∃ members,
      (Json.obj written).inOrder order = .obj members ∧ Presents order written members := by
  obtain ⟨members, hobj, hperm⟩ := inOrder_obj order h
  have hkeys : (memberKeys members).Perm (memberKeys written) := by
    have hmap := hperm.map (·.1)
    simpa [memberKeys, Function.comp_def] using hmap
  refine ⟨members, hobj, hkeys.nodup_iff.2 h, fun key => hkeys.mem_iff.1, fun m hm => ?_⟩
  exact hperm.mem_iff.2 (List.mem_map_of_mem hm)

section Presents

variable {order : MemberOrder} {written members : List (String × Json)} {name : String}
  {others : List String} {value : Json}

/-- The member with a key is the only one. -/
theorem Presents.eq_of_key (h : Presents order written members) {m m' : String × Json}
    (hm : m ∈ members) (hm' : m' ∈ members) (hkey : m.1 = m'.1) : m = m' :=
  List.inj_on_of_nodup_map h.nodup hm hm' hkey

/-- Under names of which the first one was written, and none of the others, there is the value that
was written. -/
theorem Presents.valuesUnder_eq (h : Presents order written members)
    (hmem : (name, value) ∈ written) (hothers : ∀ other ∈ others, other ∉ memberKeys written) :
    valuesUnder (name :: others) members = [value.inOrder order] := by
  have hfound := h.mem _ hmem
  have honly : ∀ m, m ∈ members.filter (fun m => (name :: others).contains m.1) ↔
      m ∈ [(name, value.inOrder order)] := by
    intro m
    rw [List.mem_filter, List.contains_iff_mem, List.mem_singleton]
    constructor
    · rintro ⟨hm, hname⟩
      rcases List.mem_cons.1 hname with hname | hother
      · exact h.eq_of_key hm hfound hname
      · exact absurd (h.keys m.1 (List.mem_map_of_mem hm)) (hothers m.1 hother)
    · rintro rfl
      exact ⟨hfound, List.mem_cons_self⟩
  have hnodup : members.Nodup := List.Nodup.of_map _ h.nodup
  have hperm := (List.perm_ext_iff_of_nodup (hnodup.filter _) (List.nodup_singleton _)).2 honly
  rw [valuesUnder, List.perm_singleton.1 hperm, List.map_singleton]

end Presents

/-! ## Members under their keys -/

section Lookup

variable {order : MemberOrder} {members : List (String × Json)} {key : String} {value : Json}

theorem lookup_eq_some_iff_mem (hkeys : (memberKeys members).Nodup) :
    members.lookup key = some value ↔ (key, value) ∈ members := by
  rw [List.lookup_eq_some_iff]
  constructor
  · rintro ⟨before, after, rfl, -⟩
    simp
  · intro h
    obtain ⟨before, after, rfl⟩ := List.append_of_mem h
    refine ⟨before, after, rfl, fun m hm => ?_⟩
    have hsplit : (memberKeys before ++ key :: memberKeys after).Nodup := by
      simpa [memberKeys] using hkeys
    have hapart := (List.nodup_append.1 hsplit).2.2
    have hne : m.1 ≠ key := hapart m.1 (List.mem_map_of_mem hm) key List.mem_cons_self
    simpa using hne.symm

theorem lookup_cons_eq_ite (m : String × Json) (members : List (String × Json)) (key : String) :
    (m :: members).lookup key = if key = m.1 then some m.2 else members.lookup key := by
  rw [List.lookup_cons]
  by_cases hkey : key = m.1
  · simp [hkey]
  · rw [beq_false_of_ne hkey, if_neg hkey]

theorem lookup_map_value (f : Json → Json) (members : List (String × Json)) (key : String) :
    (members.map fun m => (m.1, f m.2)).lookup key = (members.lookup key).map f := by
  induction members with
  | nil => rfl
  | cons m members ih =>
    rw [List.map_cons, lookup_cons_eq_ite, lookup_cons_eq_ite, ih]
    by_cases hkey : key = m.1 <;> simp [hkey]

/-- The members of an object are found under their keys in every order. -/
theorem member?_inOrder (order : MemberOrder) (hkeys : (memberKeys members).Nodup) (key : String) :
    ((Json.obj members).inOrder order).member? key =
      (members.lookup key).map (inOrder order) := by
  obtain ⟨ordered, hobj, hperm⟩ := inOrder_obj order hkeys
  have hkeys' : (memberKeys (members.map fun m => (m.1, m.2.inOrder order))).Nodup := by
    simpa [memberKeys, Function.comp_def] using hkeys
  have hordered : (memberKeys ordered).Nodup := (hperm.map _).nodup_iff.2 hkeys'
  rw [hobj, ← lookup_map_value]
  refine Option.ext fun value => ?_
  change ordered.lookup key = some value ↔ _
  rw [lookup_eq_some_iff_mem hordered, lookup_eq_some_iff_mem hkeys', hperm.mem_iff]

theorem lookup_optionalMember {α : Type} (name : String) (encode : α → Json) (a : Option α)
    (key : String) :
    (optionalMember name encode a).lookup key = if key = name then a.map encode else none := by
  cases a with
  | none => simp [optionalMember]
  | some a => rw [optionalMember, lookup_cons_eq_ite, List.lookup_nil, Option.map_some]

end Lookup

namespace Record

variable {α β : Type} {members : List (String × Json)}

namespace Accepts

theorem map {x : Record α} {a : α} (f : α → β) (h : x.Accepts members a) :
    (f <$> x).Accepts members (f a) :=
  accepts_map_iff.2 ⟨a, h, rfl⟩

theorem seq {f : Record (α → β)} {x : Record α} {g : α → β} {a : α} (hf : f.Accepts members g)
    (hx : x.Accepts members a) : (f <*> x).Accepts members (g a) :=
  accepts_seq_iff.2 ⟨g, a, hf, hx, rfl⟩

variable {order : MemberOrder} {written : List (String × Json)} {d : Decoder α} {value : Json}
  {a : α}

/-- A field that was written under its first name, and under none of its other names. -/
theorem field (name : String) (others : List String) (h : Presents order written members)
    (hmem : (name, value) ∈ written) (hothers : ∀ other ∈ others, other ∉ memberKeys written)
    (hd : d.ReadsBack order value a) (absence : Absence α) :
    (Record.field (name :: others) d absence).Accepts members a := by
  rw [accepts_field_iff, h.valuesUnder_eq hmem hothers]
  exact .once hd

theorem required (name : String) (h : Presents order written members)
    (hmem : (name, value) ∈ written) (hd : d.ReadsBack order value a) :
    (Record.required name d).Accepts members a := field name [] h hmem (by simp) hd .never

theorem orElse (name : String) (b : α) (h : Presents order written members)
    (hmem : (name, value) ∈ written) (hd : d.ReadsBack order value a) :
    (Record.orElse name d b).Accepts members a := field name [] h hmem (by simp) hd (.orElse b)

/-- A field that is left out if it has no value, and is written like any other if it has one. -/
theorem optionalMember (name : String) (encode : α → Json) (b : Option α)
    (h : Presents order written members) (hlookup : written.lookup name = b.map encode)
    (hnull : ∀ a ∈ b, encode a ≠ .null) (hd : ∀ a ∈ b, d.ReadsBack order (encode a) a) :
    (Record.optional name d).Accepts members b := by
  have hread := Decoder.ReadsBack.option encode b hnull hd
  cases b with
  | none =>
    have hwritten : name ∉ memberKeys written := by
      intro hmem
      obtain ⟨m, hm, rfl⟩ := List.mem_map.1 hmem
      simpa using List.lookup_eq_none_iff.1 hlookup m hm
    have hnone : valuesUnder [name] members = [] := by
      refine List.eq_nil_iff_forall_not_mem.2 fun value hvalue => ?_
      obtain ⟨key, hkey, hmem⟩ := mem_valuesUnder.1 hvalue
      obtain rfl := List.mem_singleton.1 hkey
      exact hwritten (h.keys key (List.mem_map_of_mem hmem))
    unfold Record.optional
    rw [accepts_field_iff, hnone]
    exact .nowhere rfl
  | some a =>
    obtain ⟨before, after, hsplit, -⟩ := List.lookup_eq_some_iff.1 hlookup
    have hmem : (name, encode a) ∈ written := by simp [hsplit]
    exact field name [] h hmem (by simp) hread (.orElse none)

end Accepts

/-- A record whose fields have names of their own is read back if the members that were written for
it are accepted in every order. -/
theorem readsBack {r : Record α} {type : String} {order : MemberOrder}
    {written : List (String × Json)} {a : α} (hnodup : (memberKeys written).Nodup)
    (hapart : NamesApart r.slots)
    (h : ∀ members, Presents order written members → r.Accepts members a) :
    (r.decoder type).ReadsBack order (.obj written) a := by
  obtain ⟨members, hobj, hpresents⟩ := exists_presents order hnodup
  rw [Decoder.ReadsBack, hobj]
  exact (decoder_run_obj_eq_ok_iff hapart).2 (h members hpresents)

end Record

end ScopeComposer.Json
