import ScopeComposer.Proofs.Json.Acceptance
import ScopeComposer.Proofs.Paging.PageSize

/-!
# Two decoders of a request

A request can be decoded at once, or as received and then validated. Decoding it at once asks for
more: the scope has to be named letter by letter, and a page size that is given has to be a number.
There is no other difference, and what a request is written as meets both.
-/

namespace ScopeComposer

open Json

/-! ## Decoded values -/

theorem PageSize.ofInt_eq_ok_iff {n : Int} {size : PageSize} :
    ofInt n = .ok size ↔ n = size.value := by
  rw [← ofInt?_eq_some_iff]
  unfold ofInt
  cases ofInt? n <;> simp

theorem PageSize.decoder_run_eq_ok_iff {value : Json} {size : PageSize} :
    decoder.run value = .ok size ↔ value = size.toJson := by
  constructor
  · intro h
    obtain ⟨n, hint, hsize⟩ := Decoder.andThen_run_eq_ok_iff.1 h
    obtain ⟨rfl, -⟩ := Decoder.integer_run_eq_ok_iff.1 hint
    have hn : n = size.value := by
      rw [← ofInt_eq_ok_iff]
      cases hresult : ofInt n with
      | ok size' => simpa [hresult] using hsize
      | error e => simp [hresult] at hsize
    rw [hn]
    rfl
  · rintro rfl
    have hread : decoder.ReadsBack .declared size.toJson size := size.readsBack
    exact hread

section Requests

variable {S : Type} [DecidableEq S] [Tag S] {members : List (String × Json)}

theorem Tag.decoder_run_str_eq_ok_iff {s : String} {t : S} :
    decoder.run (.str s) = .ok t ↔ s = name t := by
  constructor
  · intro h
    have hlookup : ((catalogue : List S).map fun t => (name t, t)).lookup s = some t := by
      simp only [decoder, Decoder.variant, Decoder.variantNamed] at h
      split at h
      · next hfound => rw [hfound, Except.ok.inj h]
      · cases h
    obtain ⟨before, after, hsplit, -⟩ := List.lookup_eq_some_iff.1 hlookup
    have hmem : (s, t) ∈ (catalogue : List S).map fun t => (name t, t) := by simp [hsplit]
    obtain ⟨u, -, hpair⟩ := List.mem_map.1 hmem
    obtain ⟨rfl, rfl⟩ := Prod.mk.inj hpair
    rfl
  · rintro rfl
    have hread : decoder.ReadsBack .declared (toJson t) t := Tag.readsBack t
    exact hread

/-! ## Decoded requests -/

theorem ScopeRequest.decoder_run_obj_eq_ok_iff {r : ScopeRequest S} :
    decoder.run (.obj members) = .ok r ↔
      Told Tag.decoder .never (valuesUnder ["scopeName"] members) r.scope ∧
      Told PageSize.decoder (.orElse .one) (valuesUnder ["pageSize"] members) r.pageSize ∧
      Told Cursor.decoder (.orElse .none) (valuesUnder ["continueAfter"] members)
        r.continueAfter := by
  refine (Record.decoder_run_three_fields_eq_ok_iff (by simp [NamesApart, Slot.Apart])).trans ?_
  constructor
  · rintro ⟨scope, size, cursor, hscope, hsize, hcursor, rfl⟩
    exact ⟨hscope, hsize, hcursor⟩
  · rintro ⟨hscope, hsize, hcursor⟩
    exact ⟨r.scope, r.pageSize, r.continueAfter, hscope, hsize, hcursor, rfl⟩

theorem ReceivedRequest.decoder_run_obj_eq_ok_iff {r : ReceivedRequest} :
    decoder.run (.obj members) = .ok r ↔
      Told Decoder.string .never (valuesUnder ["scopeName", "scope_name"] members) r.scopeName ∧
      Told Decoder.value.option (.orElse none) (valuesUnder ["pageSize", "page_size"] members)
        r.pageSize ∧
      Told Decoder.string.option (.orElse none)
        (valuesUnder ["continueAfter", "continue_after"] members) r.continueAfter := by
  refine (Record.decoder_run_three_fields_eq_ok_iff (by simp [NamesApart, Slot.Apart])).trans ?_
  constructor
  · rintro ⟨scope, size, cursor, hscope, hsize, hcursor, rfl⟩
    exact ⟨hscope, hsize, hcursor⟩
  · rintro ⟨hscope, hsize, hcursor⟩
    exact ⟨r.scopeName, r.pageSize, r.continueAfter, hscope, hsize, hcursor, rfl⟩

/-! ## The same values -/

/-- A scope that is given as a text is decoded at once if it is named letter by letter. -/
theorem Tag.told_iff {values : List Json} {s : String} {t : S} (h : .str s ∈ values) :
    Told Tag.decoder .never values t ↔ Told Decoder.string .never values s ∧ s = Tag.name t := by
  constructor
  · rintro (⟨ht⟩ | ⟨⟨⟩⟩)
    obtain rfl := List.mem_singleton.1 h
    exact ⟨.once rfl, Tag.decoder_run_str_eq_ok_iff.1 ht⟩
  · rintro ⟨⟨-⟩ | ⟨⟨⟩⟩, hs⟩
    obtain rfl := List.mem_singleton.1 h
    exact .once (Tag.decoder_run_str_eq_ok_iff.2 hs)

/-- A page size is decoded at once if it passes the check and is given as a number or not at all. -/
theorem PageSize.told_iff {values : List Json} {size : PageSize} :
    Told PageSize.decoder (.orElse .one) values size ↔ (∀ value ∈ values, ∃ n, value = .num n) ∧
      ∃ given, Told Decoder.value.option (.orElse none) values given ∧
        PageSize.ofOptionalJson .one given = .ok size := by
  constructor
  · rintro (⟨hsize⟩ | ⟨⟨⟩⟩)
    · obtain rfl := PageSize.decoder_run_eq_ok_iff.1 hsize
      refine ⟨by simp [PageSize.toJson, Json.nat], some size.toJson, .once rfl, ?_⟩
      exact PageSize.ofJson_eq_ok_iff.2 .integer
    · exact ⟨by simp, none, .nowhere rfl, rfl⟩
  · rintro ⟨hnumber, given, ⟨hgiven⟩ | ⟨⟨⟩⟩, hsize⟩
    · obtain ⟨n, rfl⟩ := hnumber _ List.mem_cons_self
      obtain rfl := Except.ok.inj hgiven
      cases PageSize.ofJson_eq_ok_iff.1 hsize
      exact .once (PageSize.decoder_run_eq_ok_iff.2 rfl)
    · obtain rfl := Except.ok.inj hsize
      exact .nowhere rfl

theorem Cursor.told_iff {values : List Json} {c : Cursor} :
    Told Cursor.decoder (.orElse .none) values c ↔
      ∃ given, Told Decoder.string.option (.orElse Option.none) values given ∧
        Cursor.ofOption given = c := by
  constructor
  · rintro (⟨hcursor⟩ | ⟨⟨⟩⟩)
    · obtain ⟨given, hgiven, rfl⟩ := Decoder.map_run_eq_ok_iff.1 hcursor
      exact ⟨given, .once hgiven, rfl⟩
    · exact ⟨Option.none, .nowhere rfl, rfl⟩
  · rintro ⟨given, ⟨hgiven⟩ | ⟨⟨⟩⟩, rfl⟩
    · exact .once (Decoder.map_run_eq_ok_iff.2 ⟨given, hgiven, rfl⟩)
    · exact .nowhere rfl

/-! ## The same requests -/

theorem ReceivedRequest.check_eq_ok_iff {raw : ReceivedRequest} {defaultSize : PageSize}
    {r : ScopeRequest S} : raw.check defaultSize = .ok r ↔
      Tag.name r.scope = Text.trim raw.scopeName ∧
      PageSize.ofOptionalJson defaultSize raw.pageSize = .ok r.pageSize ∧
      Cursor.ofOption raw.continueAfter = r.continueAfter := by
  unfold check
  simp only [bind_eq_ok_iff, Tag.parse_eq_ok_iff]
  constructor
  · rintro ⟨scope, hscope, size, hsize, hr⟩
    obtain rfl := Except.ok.inj hr
    exact ⟨hscope, hsize, rfl⟩
  · rintro ⟨hscope, hsize, hcursor⟩
    refine ⟨r.scope, hscope, r.pageSize, hsize, ?_⟩
    rw [hcursor]

theorem ReceivedRequest.checkAll_singleton_eq_ok_iff {raw : ReceivedRequest} {fallback : List S}
    {defaultSize : PageSize} {requests : List (ScopeRequest S)} :
    checkAll [raw] fallback defaultSize = .ok requests ↔
      ∃ r, raw.check defaultSize = .ok r ∧ requests = [r] := by
  change [raw].mapM (check defaultSize) = .ok requests ↔ _
  rw [mapM_eq_ok_iff, List.forall₂_cons_left_iff]
  simp

/-- A request as it would have been received. -/
def ScopeRequest.received (r : ScopeRequest S) : ReceivedRequest :=
  ⟨Tag.name r.scope, some r.pageSize.toJson, r.continueAfter.value⟩

namespace ScopeRequest

theorem trim_name (t : S) : Text.trim (Tag.name t) = Tag.name t := by
  have hparse : Tag.parse S (Text.trim (Tag.name t)) = .ok t := ReceivedRequest.parse_trim_name t
  exact (Tag.parse_eq_ok_iff.1 hparse).symm

theorem check_received (r : ScopeRequest S) (defaultSize : PageSize) :
    r.received.check defaultSize = .ok r := by
  refine ReceivedRequest.check_eq_ok_iff.2 ⟨(trim_name r.scope).symm, ?_, ?_⟩
  · exact PageSize.ofJson_eq_ok_iff.2 .integer
  · exact r.continueAfter.ofOption_value

theorem received_readsBack (r : ScopeRequest S) (order : MemberOrder) :
    ReceivedRequest.decoder.ReadsBack order r.toJson r.received := by
  have hread : ReceivedRequest.decoder.ReadsBack order r.received.toJson r.received := by
    refine ReceivedRequest.readsBack ?_ ?_
    · simp [received, PageSize.toJson, Json.nat]
    · simp [received, PageSize.toJson]
  exact hread

/-- A request of which no field is spelled in the other way is decoded at once if it is decoded as
received and passes validation, its scope is named letter by letter, and its page size, if there is
one, is a number. -/
theorem decoder_run_eq_ok_iff_received {s : String} {r : ScopeRequest S}
    (hscope : ("scopeName", .str s) ∈ members)
    (hsnake : ∀ key ∈ ["scope_name", "page_size", "continue_after"], key ∉ memberKeys members) :
    decoder.run (.obj members) = .ok r ↔
      s = Tag.name r.scope ∧ (∀ value, ("pageSize", value) ∈ members → ∃ n, value = .num n) ∧
      ∃ raw, ReceivedRequest.decoder.run (.obj members) = .ok raw ∧ raw.check .one = .ok r := by
  have hvalue : .str s ∈ valuesUnder ["scopeName"] members :=
    mem_valuesUnder.2 ⟨"scopeName", List.mem_cons_self, hscope⟩
  have hnumbers : (∀ value ∈ valuesUnder ["pageSize"] members, ∃ n, value = .num n) ↔
      ∀ value, ("pageSize", value) ∈ members → ∃ n, value = .num n := by
    simp [mem_valuesUnder]
  simp only [decoder_run_obj_eq_ok_iff, ReceivedRequest.decoder_run_obj_eq_ok_iff,
    ReceivedRequest.check_eq_ok_iff]
  rw [valuesUnder_pair (hsnake "scope_name" (by simp)),
    valuesUnder_pair (hsnake "page_size" (by simp)),
    valuesUnder_pair (hsnake "continue_after" (by simp)), Tag.told_iff hvalue,
    PageSize.told_iff, Cursor.told_iff, hnumbers]
  constructor
  · rintro ⟨⟨hname, rfl⟩, ⟨hnumber, size, hsize, hsizeOk⟩, cursor, hcursor, hcursorOk⟩
    refine ⟨rfl, hnumber, ⟨Tag.name r.scope, size, cursor⟩, ⟨hname, hsize, hcursor⟩, ?_⟩
    exact ⟨(trim_name r.scope).symm, hsizeOk, hcursorOk⟩
  · rintro ⟨rfl, hnumber, raw, ⟨hname, hsize, hcursor⟩, -, hsizeOk, hcursorOk⟩
    have hs : raw.scopeName = Tag.name r.scope := (Except.ok.inj (hname.decodes _ hvalue)).symm
    rw [hs] at hname
    exact ⟨⟨hname, rfl⟩, ⟨hnumber, _, hsize, hsizeOk⟩, _, hcursor, hcursorOk⟩

end ScopeRequest

/-- Decoding a request at once and checking it as received agree. An object that is decoded at once
is a request that passes validation as it was received, with the same result; the other way round
this is so just if its scope is named letter by letter and its page size, if there is one, is a
number. And a request that passed validation is written as an object which both of them take for
that request. -/
theorem ScopeRequest.decoders_agree :
    (∀ (members : List (String × Json)) (s : String), ("scopeName", .str s) ∈ members →
      (∀ key ∈ ["scope_name", "page_size", "continue_after"], key ∉ memberKeys members) →
      ∀ r : ScopeRequest S, decoder.run (.obj members) = .ok r ↔
        s = Tag.name r.scope ∧ (∀ value, ("pageSize", value) ∈ members → ∃ n, value = .num n) ∧
        ∃ raw, ReceivedRequest.decoder.run (.obj members) = .ok raw ∧
          ∀ fallback, ReceivedRequest.checkAll [raw] fallback .one = .ok [r]) ∧
    ∀ (raw : ReceivedRequest) (fallback : List S) (defaultSize : PageSize)
      (requests : List (ScopeRequest S)),
      ReceivedRequest.checkAll [raw] fallback defaultSize = .ok requests →
        ∃ r, requests = [r] ∧ ∀ order, decoder.ReadsBack order r.toJson r ∧
          ∃ raw', ReceivedRequest.decoder.ReadsBack order r.toJson raw' ∧
            ∀ fallback' defaultSize',
              ReceivedRequest.checkAll [raw'] fallback' defaultSize' = .ok [r] := by
  have hsingleton : ∀ (raw : ReceivedRequest) (fallback : List S) (defaultSize : PageSize)
      (r : ScopeRequest S), ReceivedRequest.checkAll [raw] fallback defaultSize = .ok [r] ↔
        raw.check defaultSize = .ok r := by
    intro raw fallback defaultSize r
    rw [ReceivedRequest.checkAll_singleton_eq_ok_iff]
    simp
  constructor
  · intro members s hscope hsnake r
    simp only [decoder_run_eq_ok_iff_received hscope hsnake, hsingleton, forall_const]
  · intro raw fallback defaultSize requests hpassed
    obtain ⟨r, -, rfl⟩ := ReceivedRequest.checkAll_singleton_eq_ok_iff.1 hpassed
    refine ⟨r, rfl, fun order => ⟨r.readsBack, r.received, r.received_readsBack order, ?_⟩⟩
    intro fallback' defaultSize'
    rw [hsingleton]
    exact r.check_received defaultSize'

end Requests

/-- The largest page, a cursor that stands for none, and a member that belongs to no field. -/
theorem ScopeRequest.decoders_agree_of_further_member :
    let members : List (String × Json) := [("continueAfter", .str "undefined"),
      ("pageSize", .int 100), ("scopeName", .str "topics"), ("scope", .null)]
    let r : ScopeRequest RepositoryScope := ⟨.topics, ⟨100, by decide, by decide⟩, .none⟩
    (("scopeName", .str "topics") ∈ members ∧
      (∀ key ∈ ["scope_name", "page_size", "continue_after"], key ∉ memberKeys members) ∧
      decoder.run (.obj members) = .ok r) ∧
    ∃ raw, ReceivedRequest.decoder.run (.obj members) = .ok raw ∧
      ∀ fallback, ReceivedRequest.checkAll [raw] fallback .one = .ok [r] := by
  intro members r
  have hscope : ("scopeName", .str "topics") ∈ members := by simp [members]
  have hsnake : ∀ key ∈ ["scope_name", "page_size", "continue_after"],
      key ∉ memberKeys members := by
    simp [memberKeys, members]
  have hdecoded : decoder.run (.obj members) = .ok r := rfl
  obtain ⟨-, -, hreceived⟩ := (decoders_agree.1 members "topics" hscope hsnake r).1 hdecoded
  exact ⟨⟨hscope, hsnake, hdecoded⟩, hreceived⟩

end ScopeComposer
