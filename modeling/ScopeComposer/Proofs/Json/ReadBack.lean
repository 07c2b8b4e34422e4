import Mathlib.Data.List.Perm.Basic
import ScopeComposer.Json.Decoder

/-!
# Reading values back

What an encoder writes is read back by the decoder of the same type. A written value reaches the
decoder in one of two forms: with the members of its objects in the order in which the encoder lists
them, or in canonical form, sorted by their keys. A decoder that reads a value back does so from
both.
-/

namespace ScopeComposer.Json

/-- The order in which the members of objects reach a decoder. -/
inductive MemberOrder where
  /-- The order in which the encoder lists them. -/
  | declared
  /-- By their keys. -/
  | sorted
deriving DecidableEq, Repr

/-- A value with the members of its objects in an order. -/
def inOrder (order : MemberOrder) (value : Json) : Json :=
  match order with
  | .declared => value
  | .sorted => value.canonical

/-! ## Values in order -/

theorem canonicalItems_eq_map (items : List Json) : canonicalItems items = items.map canonical := by
  induction items with
  | nil => rfl
  | cons item items ih => rw [canonicalItems, ih, List.map_cons]

theorem canonicalMembers_eq_map (members : List (String × Json)) :
    canonicalMembers members = members.map fun m => (m.1, m.2.canonical) := by
  induction members with
  | nil => rfl
  | cons m members ih => rw [canonicalMembers, ih, List.map_cons]

/-- The items of an array keep their order, whatever that of members is. -/
theorem inOrder_arr (order : MemberOrder) (items : List Json) :
    (Json.arr items).inOrder order = .arr (items.map (inOrder order)) := by
  cases order with
  | declared =>
    change Json.arr items = .arr (items.map id)
    rw [List.map_id]
  | sorted =>
    change Json.arr (canonicalItems items) = .arr (items.map canonical)
    rw [canonicalItems_eq_map]

@[simp]
theorem inOrder_null (order : MemberOrder) : Json.null.inOrder order = .null := by
  cases order <;> rfl

@[simp]
theorem inOrder_bool (order : MemberOrder) (b : Bool) : (Json.bool b).inOrder order = .bool b := by
  cases order <;> rfl

@[simp]
theorem inOrder_str (order : MemberOrder) (s : String) : (Json.str s).inOrder order = .str s := by
  cases order <;> rfl

@[simp]
theorem inOrder_nat (order : MemberOrder) (n : Nat) : (Json.nat n).inOrder order = .nat n := by
  cases order <;> rfl

/-- Only `null` becomes `null`, so that an optional value stays one in either order. -/
theorem inOrder_ne_null {order : MemberOrder} {value : Json} (h : value ≠ .null) :
    value.inOrder order ≠ .null := by
  cases order with
  | declared => exact h
  | sorted => cases value <;> simp_all [inOrder, canonical]

/-! ## Members in order -/

/-- The keys of members. -/
def memberKeys (members : List (String × Json)) : List String := members.map (·.1)

/-- A member with a new key joins the others and displaces none of them. -/
theorem insertMember_perm {key : String} {value : Json} {members : List (String × Json)}
    (h : key ∉ memberKeys members) :
    (insertMember key value members).Perm ((key, value) :: members) := by
  induction members with
  | nil => exact List.Perm.refl _
  | cons m members ih =>
    obtain ⟨hne, hrest⟩ : key ≠ m.1 ∧ key ∉ memberKeys members := by
      simpa [memberKeys] using h
    unfold insertMember
    split_ifs
    · exact List.Perm.refl _
    · exact ((ih hrest).cons m).trans (List.Perm.swap _ _ _)

/-- Sorting loses a member only if its key is there twice. -/
theorem sortMembers_perm {members : List (String × Json)} (h : (memberKeys members).Nodup) :
    (sortMembers members).Perm members := by
  -- the members sorted so far and those to come have no key in common
  have hfold : ∀ (rest done : List (String × Json)), (memberKeys (done ++ rest)).Nodup →
      (rest.foldl (fun sorted m => insertMember m.1 m.2 sorted) done).Perm (done ++ rest) := by
    intro rest
    induction rest with
    | nil =>
      intro done _
      rw [List.append_nil]
      exact List.Perm.refl _
    | cons m rest ih =>
      intro done hkeys
      have hperm : (done ++ m :: rest).Perm (m :: done ++ rest) := List.perm_middle
      have hkeys' : (memberKeys (m :: done ++ rest)).Nodup := (hperm.map _).nodup_iff.1 hkeys
      have hnew : m.1 ∉ memberKeys done := fun hmem =>
        (List.nodup_cons.1 hkeys').1 (List.map_subset _ (List.subset_append_left _ _) hmem)
      have hinserted : (insertMember m.1 m.2 done ++ rest).Perm (m :: done ++ rest) :=
        (insertMember_perm hnew).append_right rest
      rw [List.foldl_cons]
      refine (ih _ ((hinserted.map _).nodup_iff.2 hkeys')).trans ?_
      exact hinserted.trans hperm.symm
  exact hfold members [] (by simpa using h)

/-- The members of an object in an order, if no key is there twice. -/
theorem inOrder_obj (order : MemberOrder) {members : List (String × Json)}
    (h : (memberKeys members).Nodup) : ∃ ordered, (Json.obj members).inOrder order = .obj ordered ∧
      ordered.Perm (members.map fun m => (m.1, m.2.inOrder order)) := by
  cases order with
  | declared =>
    refine ⟨members, rfl, ?_⟩
    simp [inOrder]
  | sorted =>
    refine ⟨sortMembers (canonicalMembers members), by simp [inOrder, canonical], ?_⟩
    have hkeys : (memberKeys (canonicalMembers members)).Nodup := by
      simpa [memberKeys, canonicalMembers_eq_map, Function.comp_def] using h
    change (sortMembers (canonicalMembers members)).Perm
      (members.map fun m => (m.1, m.2.canonical))
    rw [← canonicalMembers_eq_map]
    exact sortMembers_perm hkeys

/-! ## Reading back -/

/-- Whether a decoder reads a value back from what was written for it. -/
def Decoder.ReadsBack {α : Type} (d : Decoder α) (order : MemberOrder) (written : Json) (a : α) :
    Prop := d.run (written.inOrder order) = .ok a

namespace Decoder.ReadsBack

variable {α β : Type} {order : MemberOrder}

theorem string (s : String) : Decoder.string.ReadsBack order (.str s) s := by
  rw [Decoder.ReadsBack, inOrder_str]
  rfl

theorem integer {name : String} {low bound : Int} {n : Nat} (hlow : low ≤ n) (hbound : n < bound) :
    (Decoder.integer name low bound).ReadsBack order (.nat n) n := by
  rw [Decoder.ReadsBack, inOrder_nat]
  exact if_pos ⟨hlow, hbound⟩

/-- A check that goes on from the decoded value has to let it pass. -/
theorem andThen {d : Decoder α} {f : α → Decoded β} {written : Json} {a : α} {b : β}
    (h : d.ReadsBack order written a) (hf : f a = .ok b) :
    (d.andThen f).ReadsBack order written b := by
  unfold Decoder.ReadsBack at h ⊢
  simp only [Decoder.andThen, h]
  exact hf

theorem map {d : Decoder α} {written : Json} {a : α} (h : d.ReadsBack order written a)
    (f : α → β) : (d.map f).ReadsBack order written (f a) := h.andThen rfl

/-- A word is written as the number that it stands for and fits the bounds of its decoder. -/
theorem uint64 (n : UInt64) : Decoder.uint64.ReadsBack order (.nat n.toNat) n := by
  have hbound : (n.toNat : Int) < UInt64.size := by exact_mod_cast n.toNat_lt
  have hinteger : (Decoder.integer "u64" 0 UInt64.size).ReadsBack order (.nat n.toNat) n.toNat :=
    integer (Int.natCast_nonneg n.toNat) hbound
  have hread := hinteger.map fun n => UInt64.ofNat n.toNat
  have hback : UInt64.ofNat (n.toNat : Int).toNat = n := by simp
  simp only [hback] at hread
  exact hread

/-- A written `null` stands for none, so that nothing else may be written as `null`. -/
theorem option {d : Decoder α} (encode : α → Json) (value : Option α)
    (hnull : ∀ a ∈ value, encode a ≠ .null) (h : ∀ a ∈ value, d.ReadsBack order (encode a) a) :
    d.option.ReadsBack order (.ofOption encode value) value := by
  unfold Decoder.ReadsBack at h ⊢
  cases value with
  | none =>
    rw [ofOption, inOrder_null]
    rfl
  | some a =>
    have hother : (encode a).inOrder order ≠ .null := inOrder_ne_null (hnull a rfl)
    have hread := h a rfl
    simp only [ofOption, Decoder.option]
    rw [hread]
    rfl

/-- The items of a list are read back one by one, in their order. -/
theorem list {d : Decoder α} (encode : α → Json) (items : List α)
    (h : ∀ a ∈ items, d.ReadsBack order (encode a) a) :
    d.list.ReadsBack order (.ofList encode items) items := by
  unfold Decoder.ReadsBack at h ⊢
  rw [ofList, inOrder_arr]
  change List.mapM d.run _ = _
  induction items with
  | nil => rfl
  | cons a items ih =>
    have hfirst := h a List.mem_cons_self
    have hrest := ih fun b hb => h b (List.mem_cons_of_mem _ hb)
    rw [List.map_cons, List.map_cons, List.mapM_cons, hfirst, hrest]
    rfl

/-- Names are told apart by looking them up. -/
theorem variant {variants : List (String × α)} {name : String} {a : α}
    (h : variants.lookup name = some a) :
    (Decoder.variant variants).ReadsBack order (.str name) a := by
  rw [Decoder.ReadsBack, inOrder_str]
  simp only [Decoder.variant, variantNamed, h]

theorem either_first {type : String} {first second : Decoder α} {written : Json} {a : α}
    (h : first.ReadsBack order written a) :
    (Decoder.either type first second).ReadsBack order written a := by
  unfold Decoder.ReadsBack at h ⊢
  simp only [Decoder.either, h]

/-- What is written for the second alternative must not fit the first, which is tried before. -/
theorem either_second {type : String} {first second : Decoder α} {written : Json} {a : α}
    (hfirst : ∃ e, first.run (written.inOrder order) = .error e)
    (h : second.ReadsBack order written a) :
    (Decoder.either type first second).ReadsBack order written a := by
  obtain ⟨e, hfirst⟩ := hfirst
  unfold Decoder.ReadsBack at h ⊢
  simp only [Decoder.either, hfirst, h]

end Decoder.ReadsBack

end ScopeComposer.Json
