import ScopeComposer.Proofs.Json.Records
import ScopeComposer.Reply.Envelope

/-!
# Envelopes on the wire

An envelope is written as one object, in which the members of a failure stand beside `success`. What
it carries can be looked up there under keys that are never shared, so that nothing of it is lost,
whatever free values it holds and whether the members stand as they are listed or by their keys.
-/

namespace ScopeComposer

open Json

variable {order : MemberOrder}

/-! ## Failures -/

namespace FailureKind

theorem ofText?_text (kind : FailureKind) : ofText? kind.text = some kind := by
  cases kind <;> decide

theorem text_injective {kind kind' : FailureKind} (h : kind.text = kind'.text) : kind = kind' := by
  have hread := kind.ofText?_text
  rw [h, kind'.ofText?_text] at hread
  exact (Option.some.inj hread).symm

theorem readsBack (kind : FailureKind) : decoder.ReadsBack order (.str kind.text) kind := by
  have hlookup : (all.map fun kind => (kind.text, kind)).lookup kind.text = some kind := by
    cases kind <;> rfl
  exact Decoder.ReadsBack.variant hlookup

end FailureKind

namespace Failure

/-- The free values of a failure stand in an order already. -/
structure InOrder (order : MemberOrder) (f : Failure) : Prop where
  /-- The cause does. -/
  cause : ∀ v ∈ f.cause, v.inOrder order = v
  /-- The parts of the path do. -/
  path : ∀ parts ∈ f.path, ∀ v ∈ parts, v.inOrder order = v

theorem memberKeys_sublist (f : Failure) :
    (memberKeys f.members).Sublist ["error", "message", "cause", "path", "type"] := by
  have hoption : ∀ {α : Type} (name : String) (encode : α → Json) (a : Option α),
      (memberKeys (optionalMember name encode a)).Sublist [name] := by
    intro α name encode a
    cases a with
    | none => exact List.nil_sublist _
    | some a => exact List.Sublist.refl _
  have hfixed : (["error", "message"] : List String).Sublist ["error", "message"] :=
    List.Sublist.refl _
  unfold members memberKeys
  rw [List.map_append, List.map_append, List.map_append]
  exact ((hfixed.append (hoption _ _ _)).append (hoption _ _ _)).append (hoption _ _ _)

/-- Each part of a failure has a key of its own. -/
theorem lookup_members (f : Failure) (key : String) :
    f.members.lookup key =
      if key = "error" then some (.str f.kind.text)
      else if key = "message" then some (.str f.message)
      else if key = "cause" then f.cause
      else if key = "path" then f.path.map Json.arr
      else if key = "type" then f.type.map Json.str
      else none := by
  unfold members
  simp only [List.lookup_append, lookup_optionalMember, lookup_cons_eq_ite, List.lookup_nil]
  split_ifs <;> simp_all

theorem map_lookup_members {f : Failure} (h : f.InOrder order) (key : String) :
    (f.members.lookup key).map (inOrder order) = f.members.lookup key := by
  rw [lookup_members]
  split_ifs with herror hmessage hcause hpath htype
  · simp
  · simp
  · cases hvalue : f.cause with
    | none => rfl
    | some v => exact congrArg some (h.cause v hvalue)
  · cases hvalue : f.path with
    | none => rfl
    | some parts =>
      have hparts : parts.map (inOrder order) = parts := by
        have hsame := List.map_congr_left (h.path parts hvalue)
        rwa [List.map_id'] at hsame
      simp [inOrder_arr, hparts]
  · cases f.type <;> simp
  · rfl

/-- A failure is known as soon as it is known what stands under each key. -/
theorem ext_lookup {f g : Failure} (h : ∀ key, f.members.lookup key = g.members.lookup key) :
    f = g := by
  simp only [lookup_members] at h
  have hkind : f.kind.text = g.kind.text := by simpa using h "error"
  have hmessage : f.message = g.message := by simpa using h "message"
  have hcause : f.cause = g.cause := by simpa using h "cause"
  have hpath : f.path.map Json.arr = g.path.map Json.arr := by simpa using h "path"
  have htype : f.type.map Json.str = g.type.map Json.str := by simpa using h "type"
  have hpath' := Option.map_injective (fun _ _ => Json.arr.inj) hpath
  have htype' := Option.map_injective (fun _ _ => Json.str.inj) htype
  cases f
  cases g
  cases FailureKind.text_injective hkind
  simp_all

end Failure

/-! ## Envelopes -/

namespace Envelope

variable {α : Type}

/-- The members of an envelope as JSON. -/
def members (encode : α → Json) : Envelope α → List (String × Json)
  | .success data => [("success", .bool true), ("data", encode data)]
  | .failure reason => ("success", .bool false) :: reason.members

/-- The free values of an envelope stand in an order already. -/
def InOrder (order : MemberOrder) : Envelope Json → Prop
  | .success data => data.inOrder order = data
  | .failure reason => reason.InOrder order

theorem toJson_eq (encode : α → Json) (e : Envelope α) :
    e.toJson encode = .obj (e.members encode) := by
  cases e <;> rfl

theorem nodup_memberKeys (encode : α → Json) (e : Envelope α) :
    (memberKeys (e.members encode)).Nodup := by
  cases e with
  | success data => simp [memberKeys, members]
  | failure reason =>
    have hsub := reason.memberKeys_sublist.cons_cons "success"
    exact hsub.nodup (by decide)

theorem member?_toJson (order : MemberOrder) (encode : α → Json) (e : Envelope α) (key : String) :
    ((e.toJson encode).inOrder order).member? key =
      ((e.members encode).lookup key).map (inOrder order) := by
  rw [toJson_eq, member?_inOrder order (e.nodup_memberKeys encode)]

theorem lookup_members_failure (encode : α → Json) (reason : Failure) (key : String) :
    ((failure reason : Envelope α).members encode).lookup key =
      if key = "success" then some (.bool false) else reason.members.lookup key :=
  lookup_cons_eq_ite _ _ _

theorem map_lookup_members {e : Envelope Json} (h : e.InOrder order) (key : String) :
    ((e.members id).lookup key).map (inOrder order) = (e.members id).lookup key := by
  cases e with
  | success data =>
    have hdata : data.inOrder order = data := h
    simp only [members, lookup_cons_eq_ite, List.lookup_nil]
    split_ifs <;> simp [hdata]
  | failure reason =>
    rw [lookup_members_failure]
    split_ifs
    · simp
    · exact Failure.map_lookup_members h key

/-- An envelope is known as soon as it is known what stands under each key. -/
theorem ext_lookup {e e' : Envelope Json}
    (h : ∀ key, (e.members id).lookup key = (e'.members id).lookup key) : e = e' := by
  have hsuccess := h "success"
  cases e with
  | success data =>
    cases e' with
    | success data' =>
      have hdata : data = data' := by simpa [members, lookup_cons_eq_ite] using h "data"
      rw [hdata]
    | failure reason' => simp [members] at hsuccess
  | failure reason =>
    cases e' with
    | success data' => simp [members] at hsuccess
    | failure reason' =>
      have hreason : reason = reason' := by
        refine Failure.ext_lookup fun key => ?_
        by_cases hkey : key = "success"
        · subst hkey
          simp [Failure.lookup_members]
        · have hlookup := h key
          rwa [lookup_members_failure, lookup_members_failure, if_neg hkey, if_neg hkey] at hlookup
      rw [hreason]

/-! ## Reading failures back -/

/-- The members beside those of the failure are passed over by whoever reads the failure. -/
theorem readsBack_of_cause {f : Failure} (h : f.InOrder order) {cause : Option Json}
    (hcause : ∀ ms, Presents order ((failure f : Envelope Json).members id) ms →
      (Record.optional "cause" .value).Accepts ms cause) :
    Failure.decoder.ReadsBack order ((failure f : Envelope Json).toJson id) { f with cause } := by
  rw [toJson_eq]
  refine Record.readsBack (nodup_memberKeys id _) (by simp [NamesApart, Slot.Apart])
    fun ms hms => ?_
  have hkind := Record.Accepts.required "error" hms (by simp [members, Failure.members])
    f.kind.readsBack
  have hmessage := Record.Accepts.required "message" hms (by simp [members, Failure.members])
    (Decoder.ReadsBack.string f.message)
  have hparts : ∀ parts ∈ f.path, Decoder.value.list.ReadsBack order (.arr parts) parts := by
    intro parts hparts
    have hread : Decoder.value.list.ReadsBack order (.ofList id parts) parts := by
      refine .list id parts fun v hv => ?_
      rw [Decoder.ReadsBack, id, h.path parts hparts v hv]
      rfl
    rwa [ofList, List.map_id] at hread
  have hpath := Record.Accepts.optionalMember "path" Json.arr f.path hms
    (by simp [lookup_members_failure, Failure.lookup_members]) (by simp) hparts
  have htype := Record.Accepts.optionalMember "type" Json.str f.type hms
    (by simp [lookup_members_failure, Failure.lookup_members]) (by simp)
    fun s _ => Decoder.ReadsBack.string s
  exact ((((hkind.map Failure.mk).seq hmessage).seq (hcause ms hms)).seq hpath).seq htype

/-- A failure is read back unless its cause is `null`, which is read as no cause. -/
theorem readsBack_failure_iff {f : Failure} (h : f.InOrder order) :
    Failure.decoder.ReadsBack order ((failure f : Envelope Json).toJson id) f ↔
      f.cause ≠ some .null := by
  constructor
  · intro hread hnull
    have hcause : ∀ ms, Presents order ((failure f : Envelope Json).members id) ms →
        (Record.optional "cause" .value).Accepts ms none := by
      intro ms hms
      have hmem : ("cause", Json.null) ∈ (failure f : Envelope Json).members id := by
        simp [members, Failure.members, hnull, optionalMember]
      have hvalue : Decoder.value.option.ReadsBack order .null none :=
        .option id none (by simp) (by simp)
      exact Record.Accepts.field "cause" [] hms hmem (by simp) hvalue (.orElse none)
    have hdropped := readsBack_of_cause h hcause
    unfold Decoder.ReadsBack at hread hdropped
    have hsame := congrArg Failure.cause (Except.ok.inj (hread.symm.trans hdropped))
    rw [hnull] at hsame
    cases hsame
  · intro hnull
    refine readsBack_of_cause h fun ms hms => ?_
    refine Record.Accepts.optionalMember "cause" id f.cause hms
      (by simp [lookup_members_failure, Failure.lookup_members]) ?_ fun v hv => ?_
    · rintro v hv rfl
      exact hnull hv
    · rw [Decoder.ReadsBack, id, h.cause v hv]
      rfl

/-! ## The wire form -/

/-- An envelope is written as an object that has `data` just if it has no `error`, which is so just
if `success` is true. Envelopes that are written alike are equal, data stand under `data` as they
are, and a failure is read back from the same object, unless its cause is `null`. Mapping reaches
the data and nothing else. All of this is about the object as a value and not about its text, from
which that value is read as `Json.Readable.parse?` says. -/
theorem wireForm_faithful :
    (∀ (order : MemberOrder) (e : Envelope Json),
      let written := (e.toJson id).inOrder order
      (∃ ms, written = .obj ms ∧ (memberKeys ms).Nodup) ∧
      ((written.member? "data").isSome ↔ written.member? "error" = none) ∧
      (written.member? "error" = none ↔ written.member? "success" = some (.bool true))) ∧
    (∀ (order : MemberOrder) (e e' : Envelope Json), e.InOrder order → e'.InOrder order →
      (e.toJson id).inOrder order = (e'.toJson id).inOrder order → e = e') ∧
    (∀ (order : MemberOrder) (data : Json),
      (((success data).toJson id).inOrder order).member? "data" = some (data.inOrder order)) ∧
    (∀ (order : MemberOrder) (f : Failure), f.InOrder order →
      (Failure.decoder.ReadsBack order ((failure f : Envelope Json).toJson id) f ↔
        f.cause ≠ some .null)) ∧
    ∀ (β : Type) (f : Json → β) (encode : β → Json) (e : Envelope Json),
      (∀ data, e = success data →
        (e.map f).toJson encode = (success (encode (f data))).toJson id) ∧
      (∀ reason, e = failure reason → (e.map f).toJson encode = e.toJson id) ∧
      (e.map f).toResult = e.toResult.map f := by
  refine ⟨fun order e => ?_, fun order e e' he he' h => ?_, fun order data => ?_,
    fun order f h => readsBack_failure_iff h, fun β f encode e => ?_⟩
  · have hlookup := member?_toJson order id e
    obtain ⟨ms, hms, hpresents⟩ := exists_presents order (nodup_memberKeys id e)
    rw [← toJson_eq] at hms
    refine ⟨⟨ms, hms, hpresents.nodup⟩, ?_⟩
    cases e with
    | success data => simp [hlookup, members, lookup_cons_eq_ite]
    | failure reason => simp [hlookup, lookup_members_failure, Failure.lookup_members]
  · refine ext_lookup fun key => ?_
    rw [← map_lookup_members he, ← map_lookup_members he', ← member?_toJson, ← member?_toJson, h]
  · rw [member?_toJson]
    simp [members, lookup_cons_eq_ite]
  · refine ⟨?_, ?_, ?_⟩
    · rintro data rfl
      rfl
    · rintro reason rfl
      rfl
    · cases e <;> rfl

/-- A cause with keys of the envelope in it, and data that are `null`. -/
theorem wireForm_faithful_of_same_keys :
    let cause : Json := .obj [("data", .null), ("success", .bool true)]
    let f : Failure := ⟨.notFound, "gone", some cause, some [.str "node", .null], none⟩
    let e := success Json.null
    let e' := (success (Json.bool true)).map fun _ => Json.null
    (f.InOrder .sorted ∧ f.cause ≠ some .null ∧
      Failure.decoder.ReadsBack .sorted ((failure f : Envelope Json).toJson id) f) ∧
    (e.InOrder .sorted ∧ e'.InOrder .sorted ∧
      (e.toJson id).inOrder .sorted = (e'.toJson id).inOrder .sorted ∧ e = e') := by
  intro cause f e e'
  obtain ⟨-, hequal, -, hread, -⟩ := wireForm_faithful
  have hcause : cause.inOrder .sorted = cause := by
    have hkeys : ¬ "success" < "data" := by decide
    simp [cause, inOrder, canonical, canonicalMembers, sortMembers, insertMember, hkeys]
  have hf : f.InOrder .sorted := ⟨by simpa [f] using hcause, by simp [f]⟩
  have hne : f.cause ≠ some .null := by simp [f, cause]
  have he : e.InOrder .sorted := rfl
  have he' : e'.InOrder .sorted := rfl
  exact ⟨⟨hf, hne, (hread .sorted f hf).2 hne⟩, he, he', rfl, hequal .sorted e e' he he' rfl⟩

end Envelope

end ScopeComposer
