import ScopeComposer.Compose.ProjectBody
import ScopeComposer.Proofs.Json.Spelling
import ScopeComposer.Proofs.Scope.Decoding

/-!
# Spellings of the keys of a project body

Every key of a body, and of each request in it, has two spellings. A body is decoded to the same
value however its keys are spelled, each in its own way, and in whatever order they then stand; so
it is validated with the same result. Nothing is decoded from an object that has a key in both
spellings.
-/

namespace ScopeComposer

open Json

/-! ## Spellings -/

/-- The two spellings of the keys of a request. -/
def ReceivedRequest.spellings : List (String × String) :=
  [("scope_name", "scopeName"), ("page_size", "pageSize"), ("continue_after", "continueAfter")]

/-- The two spellings of the keys of a body. -/
def ProjectBody.spellings : List (String × String) :=
  [("project_scopes", "projectScopes"), ("repository_scopes", "repositoryScopes"),
    ("issue_states", "issueStates")]

/-- A request with its keys spelled otherwise. What is no object stays as it is, and so do the
values in an object, objects with the same keys among them. -/
inductive ReceivedRequest.Respelled : Json → Json → Prop where
  /-- The value itself. -/
  | same (value : Json) : Respelled value value
  /-- An object in other spellings. -/
  | object {value value' : Json} (h : Json.Respelled spellings Eq value value') :
    Respelled value value'

/-- A body with its keys, and those of the requests in its lists, spelled otherwise. -/
def ProjectBody.Respelled : Json → Json → Prop :=
  Json.Respelled spellings (SameItems ReceivedRequest.Respelled)

/-- Members of which one has a key in its first spelling and another one has it in its second. -/
def HasBoth (spellings : List (String × String)) (members : List (String × Json)) : Prop :=
  ∃ s ∈ spellings, s.1 ∈ memberKeys members ∧ s.2 ∈ memberKeys members

/-- A record is decoded from no object that has a field in both spellings of its name. -/
theorem Json.Record.decoder_run_of_hasBoth {α : Type} {r : Record α} {type : String}
    {spellings : List (String × String)} {members : List (String × Json)}
    (hapart : NamesApart r.slots) (hspellings : ∀ s ∈ spellings, s.1 ≠ s.2 ∧
      ∃ slot ∈ r.slots, s.1 ∈ slot.names ∧ s.2 ∈ slot.names)
    (h : HasBoth spellings members) (a : α) : (r.decoder type).run (.obj members) ≠ .ok a := by
  intro hdecoded
  obtain ⟨s, hs, hkey, hkey'⟩ := h
  obtain ⟨hne, slot, hslot, hname, hname'⟩ := hspellings s hs
  have haccepts := ((decoder_run_obj_eq_ok_iff hapart).1 hdecoded).slots slot hslot
  have htwo := two_le_length_valuesUnder hname hname' hne hkey hkey'
  have hone := haccepts.once
  omega

/-! ## Requests -/

namespace ReceivedRequest

theorem decoder_respects : decoder.Respects Respelled := by
  rintro value value' (_ | h) r
  · exact Iff.rfl
  · have hsame := h
    obtain ⟨-, -⟩ := h
    rw [decoder_run_obj_eq_ok_iff, decoder_run_obj_eq_ok_iff,
      Told.respelled_iff .eq (by decide) hsame, Told.respelled_iff .eq (by decide) hsame,
      Told.respelled_iff .eq (by decide) hsame]

/-- A text is no object. -/
theorem Respelled.eq_str_iff {value value' : Json} (h : Respelled value value') (s : String) :
    value = .str s ↔ value' = .str s := by
  rcases h with _ | ⟨⟨-, -⟩⟩
  · exact Iff.rfl
  · simp

theorem decoder_run_of_hasBoth {members : List (String × Json)} (h : HasBoth spellings members)
    (r : ReceivedRequest) : decoder.run (.obj members) ≠ .ok r :=
  Record.decoder_run_of_hasBoth (by simp [NamesApart, Slot.Apart]) (by simp [spellings]) h r

end ReceivedRequest

/-! ## Bodies -/

namespace ProjectBody

variable {members : List (String × Json)}

theorem decoder_run_obj_eq_ok_iff {b : ProjectBody} : decoder.run (.obj members) = .ok b ↔
    Told ReceivedRequest.decoder.list (.orElse [])
      (valuesUnder ["project_scopes", "projectScopes"] members) b.projectScopes ∧
    Told ReceivedRequest.decoder.list (.orElse [])
      (valuesUnder ["repository_scopes", "repositoryScopes"] members) b.repositoryScopes ∧
    Told NameList.decoder.option (.orElse none)
      (valuesUnder ["issue_states", "issueStates"] members) b.issueStates := by
  refine (Record.decoder_run_three_fields_eq_ok_iff (by simp [NamesApart, Slot.Apart])).trans ?_
  constructor
  · rintro ⟨projects, repositories, states, hprojects, hrepositories, hstates, rfl⟩
    exact ⟨hprojects, hrepositories, hstates⟩
  · rintro ⟨hprojects, hrepositories, hstates⟩
    exact ⟨b.projectScopes, b.repositoryScopes, b.issueStates, hprojects, hrepositories, hstates,
      rfl⟩

/-- Names are texts, so that no list of them holds an object. -/
theorem states_respects :
    NameList.decoder.option.Respects (SameItems ReceivedRequest.Respelled) := by
  have htext : Decoder.string.Respects (SameItems ReceivedRequest.Respelled) :=
    .string fun value value' hsame s => by rcases hsame with _ | _ <;> simp
  have hitems : Decoder.string.list.Respects (SameItems ReceivedRequest.Respelled) :=
    .list (.string fun _ _ hsame => hsame.eq_str_iff)
  refine .option (.either (htext.map _) (hitems.map _)) ?_
  rintro value value' (_ | _) <;> simp

theorem decoder_respects : decoder.Respects Respelled := by
  intro value value' h b
  have hsame := h
  obtain ⟨-, -⟩ := h
  rw [decoder_run_obj_eq_ok_iff, decoder_run_obj_eq_ok_iff,
    Told.respelled_iff (.list ReceivedRequest.decoder_respects) (by decide) hsame,
    Told.respelled_iff (.list ReceivedRequest.decoder_respects) (by decide) hsame,
    Told.respelled_iff states_respects (by decide) hsame]

theorem decoder_run_of_hasBoth (h : HasBoth spellings members) (b : ProjectBody) :
    decoder.run (.obj members) ≠ .ok b :=
  Record.decoder_run_of_hasBoth (by simp [NamesApart, Slot.Apart]) (by simp [spellings]) h b

/-- A request of a body that is decoded is decoded, too. -/
theorem exists_decoded_request {b : ProjectBody} (h : decoder.run (.obj members) = .ok b)
    {key : String} {items : List Json} (hmem : (key, .arr items) ∈ members)
    (hkey : key ∈ ["project_scopes", "projectScopes", "repository_scopes", "repositoryScopes"])
    {item : Json} (hitem : item ∈ items) : ∃ r, ReceivedRequest.decoder.run item = .ok r := by
  obtain ⟨hprojects, hrepositories, -⟩ := decoder_run_obj_eq_ok_iff.1 h
  have hlist : ∃ results, ReceivedRequest.decoder.list.run (.arr items) = .ok results := by
    by_cases hproject : key ∈ ["project_scopes", "projectScopes"]
    · exact ⟨_, hprojects.decodes _ (mem_valuesUnder.2 ⟨key, hproject, hmem⟩)⟩
    · have hrepository : key ∈ ["repository_scopes", "repositoryScopes"] := by
        simp only [List.mem_cons, List.not_mem_nil, or_false, not_or] at hkey hproject ⊢
        tauto
      exact ⟨_, hrepositories.decodes _ (mem_valuesUnder.2 ⟨key, hrepository, hmem⟩)⟩
  obtain ⟨results, hresults⟩ := hlist
  exact Decoder.exists_run_item hresults item hitem

/-- The spelling of the keys of a body and of its requests makes no difference. Bodies that differ
in nothing else are decoded to the same value, or neither of them is, and they are validated with
the same result. An object with a key in both spellings is refused: a request, a body, and a body
with such a request. -/
theorem decoder_ignores_spelling :
    (∀ value value', Respelled value value' →
      (∀ b, decoder.run value = .ok b ↔ decoder.run value' = .ok b) ∧
      ∀ states size, (decoder.run value).toOption.map (fun b => b.validate states size) =
        (decoder.run value').toOption.map fun b => b.validate states size) ∧
    (∀ members, HasBoth ReceivedRequest.spellings members →
      ∀ r, ReceivedRequest.decoder.run (.obj members) ≠ .ok r) ∧
    (∀ members, HasBoth spellings members → ∀ b, decoder.run (.obj members) ≠ .ok b) ∧
    ∀ members key items request, (key, .arr items) ∈ members →
      key ∈ ["project_scopes", "projectScopes", "repository_scopes", "repositoryScopes"] →
      .obj request ∈ items → HasBoth ReceivedRequest.spellings request →
      ∀ b, decoder.run (.obj members) ≠ .ok b := by
  refine ⟨fun value value' h => ⟨decoder_respects value value' h, fun states size => ?_⟩,
    fun members => ReceivedRequest.decoder_run_of_hasBoth,
    fun members => decoder_run_of_hasBoth, ?_⟩
  · have hdecoded : (decoder.run value).toOption = (decoder.run value').toOption := by
      have hsame := decoder_respects value value' h
      cases hvalue : decoder.run value with
      | ok b => rw [(hsame b).1 hvalue]
      | error e =>
        cases hvalue' : decoder.run value' with
        | ok b =>
          rw [(hsame b).2 hvalue'] at hvalue
          cases hvalue
        | error e' => rfl
    rw [hdecoded]
  · intro members key items request hmem hkey hrequest hboth b hdecoded
    obtain ⟨r, hr⟩ := exists_decoded_request hdecoded hmem hkey hrequest
    exact ReceivedRequest.decoder_run_of_hasBoth hboth r hr

/-- The page size of the first request moves behind a member that belongs to no field when its key
is spelled otherwise and the keys are sorted. -/
theorem decoder_ignores_spelling_of_moved_member :
    let request : Json :=
      .obj [("pageSize", .int 5), ("pageX", .null), ("scopeName", .str "repositories")]
    let request' : Json :=
      .obj [("pageX", .null), ("page_size", .int 5), ("scopeName", .str "repositories")]
    let value : Json :=
      .obj [("projectScopes", .arr [request]), ("repository_scopes", .arr [.arr [.str "count"]])]
    let value' : Json :=
      .obj [("project_scopes", .arr [request']), ("repositoryScopes", .arr [.arr [.str "count"]])]
    let b : ProjectBody := ⟨[⟨"repositories", some (.int 5), none⟩], [⟨"count", none, none⟩], none⟩
    (Respelled value value' ∧ decoder.run value = .ok b) ∧ decoder.run value' = .ok b := by
  intro request request' value value' b
  have hrequest : ReceivedRequest.Respelled request request' := by
    have hsize : SameKey ReceivedRequest.spellings "pageSize" "page_size" :=
      .back (by simp [ReceivedRequest.spellings])
    have heach : List.Forall₂ (SameMember ReceivedRequest.spellings Eq)
        [("pageSize", .int 5), ("pageX", .null), ("scopeName", .str "repositories")]
        [("page_size", .int 5), ("pageX", .null), ("scopeName", .str "repositories")] :=
      .cons ⟨hsize, rfl⟩ (.cons ⟨.same _, rfl⟩ (.cons ⟨.same _, rfl⟩ .nil))
    exact .object (.object heach (.swap _ _ _))
  have hvalue : Respelled value value' := by
    have hprojects : SameKey spellings "projectScopes" "project_scopes" :=
      .back (by simp [spellings])
    have hrepositories : SameKey spellings "repository_scopes" "repositoryScopes" :=
      .forth (by simp [spellings])
    have hrequests : SameItems ReceivedRequest.Respelled (.arr [request]) (.arr [request']) :=
      .items (.cons hrequest .nil)
    have heach : List.Forall₂ (SameMember spellings (SameItems ReceivedRequest.Respelled))
        [("projectScopes", .arr [request]), ("repository_scopes", .arr [.arr [.str "count"]])]
        [("project_scopes", .arr [request']), ("repositoryScopes", .arr [.arr [.str "count"]])] :=
      .cons ⟨hprojects, hrequests⟩ (.cons ⟨hrepositories, .same _⟩ .nil)
    exact .object heach (.refl _)
  have hdecoded : decoder.run value = .ok b := rfl
  exact ⟨⟨hvalue, hdecoded⟩, ((decoder_ignores_spelling.1 value value' hvalue).1 b).1 hdecoded⟩

end ProjectBody

end ScopeComposer
