import ScopeComposer.Proofs.Graphql.FixedFields

/-!
# Valid selections

What a server demands of a selection besides its grammar: no selection set is empty, no two fields
of a set are answered under one key, and a page holds from one to a hundred nodes. For a fixed
selection this is a check of its names.
-/

namespace ScopeComposer.Graphql

/-- The names under which the answer holds some fields. -/
def keys (fields : List Selection) : List String := fields.map Selection.key

/-- Whether every argument `first` of a head is an integer from 1 to 100. -/
def Head.HasPageSizes (h : Head) : Prop :=
  ∀ a ∈ h.arguments, a.name = "first" →
    ∃ n : Int, a.value = .scalar (.int n) ∧ 1 ≤ n ∧ n ≤ 100

mutual

/-- A field that a server accepts. -/
inductive Selection.Valid : Selection → Prop
  /-- A field without a selection set. -/
  | leaf {h : Head} (sizes : h.HasPageSizes) : Selection.Valid (.leaf h)
  /-- A field with a selection set. -/
  | node {h : Head} {fields : List Selection} (sizes : h.HasPageSizes) (set : ValidSet fields) :
      Selection.Valid (.node h fields)

/-- A selection set that a server accepts. -/
inductive ValidSet : List Selection → Prop
  /-- The set is not empty, its keys are distinct, and its fields are accepted. -/
  | mk {fields : List Selection} (nonempty : fields ≠ []) (distinct : (keys fields).Nodup)
      (fields_valid : ∀ s ∈ fields, s.Valid) : ValidSet fields

end

/-- A head without arguments asks for no page. -/
theorem hasPageSizes_plain (name : String) : (Head.plain name).HasPageSizes := by
  simp [Head.HasPageSizes, Head.plain]

/-- A field that has neither arguments nor a selection set is accepted whatever its name is. -/
theorem valid_leaf (name : String) : (Selection.leaf (.plain name)).Valid :=
  .leaf (hasPageSizes_plain name)

/-- In a set of one field no key can be there twice. -/
theorem validSet_singleton {s : Selection} (h : s.Valid) : ValidSet [s] :=
  .mk (by simp) (by simp [keys]) (by simpa using h)

/-! ## Fixed selections -/

/-- The name of a fixed field. -/
def Field.name : Field → String
  | .leaf name => name
  | .node name _ => name
  | .firstTen name _ => name

mutual

/-- Whether no selection set below a fixed field is empty or names a field twice. -/
def Field.isDistinct : Field → Bool
  | .leaf _ => true
  | .node _ fields => !fields.isEmpty && fieldsDistinct fields
  | .firstTen _ fields => !fields.isEmpty && fieldsDistinct fields

/-- Whether neither fixed fields nor the selection sets below them name a field twice, and no set
below them is empty. -/
def fieldsDistinct : List Field → Bool
  | [] => true
  | field :: rest =>
    field.isDistinct && !(rest.map Field.name).contains field.name && fieldsDistinct rest

end

/-- Fixed fields have no labels, so the answer holds each under its own name. -/
theorem key_selection (field : Field) : field.selection.key = field.name := by
  cases field <;> rfl

/-- The keys of a fixed selection can be read off its names, without looking at the fields below. -/
theorem keys_fieldSelections (fields : List Field) :
    keys (fieldSelections fields) = fields.map Field.name := by
  induction fields with
  | nil => rfl
  | cons field rest ih =>
    rw [fieldSelections, keys, List.map_cons, key_selection, List.map_cons]
    exact congrArg _ ih

/-- A fixed selection is empty as a selection set only if it has no field. -/
theorem fieldSelections_ne_nil {fields : List Field} (h : fields.isEmpty = false) :
    fieldSelections fields ≠ [] := by
  cases fields with
  | nil => cases h
  | cons field rest => simp [fieldSelections]

mutual

/-- A fixed field is accepted if the check of the names below it passes; the only page that it can
ask for holds ten nodes. -/
theorem Field.valid_selection {field : Field} (h : field.isDistinct = true) :
    field.selection.Valid := by
  cases field with
  | leaf name => exact valid_leaf name
  | node name fields =>
    obtain ⟨hne, hfields⟩ := Bool.and_eq_true_iff.1 h
    exact .node (hasPageSizes_plain name) (validSet_fieldSelections (by simpa using hne) hfields)
  | firstTen name fields =>
    obtain ⟨hne, hfields⟩ := Bool.and_eq_true_iff.1 h
    have hnodes := validSet_fieldSelections (by simpa using hne) hfields
    have hsizes : Head.HasPageSizes ⟨none, name, [⟨"first", .scalar (.int 10)⟩]⟩ := by
      intro a ha _
      obtain rfl := List.mem_singleton.1 ha
      exact ⟨10, rfl, by decide, by decide⟩
    exact .node hsizes (validSet_singleton (.node (hasPageSizes_plain "nodes") hnodes))

/-- Fixed fields that pass the check have distinct keys and are accepted one by one. That some are
there is not asked for, so that the statement holds of what is left of a list, too. -/
theorem fieldSelections_valid {fields : List Field} (h : fieldsDistinct fields = true) :
    (keys (fieldSelections fields)).Nodup ∧ ∀ s ∈ fieldSelections fields, s.Valid := by
  cases fields with
  | nil => simp [fieldSelections, keys]
  | cons field rest =>
    simp only [fieldsDistinct, Bool.and_eq_true, Bool.not_eq_true'] at h
    obtain ⟨⟨hfield, hnew⟩, hrest⟩ := h
    obtain ⟨hkeys, hvalid⟩ := fieldSelections_valid hrest
    rw [keys_fieldSelections] at hkeys ⊢
    refine ⟨?_, fun s hs => ?_⟩
    · rw [List.map_cons, List.nodup_cons]
      exact ⟨by simpa using hnew, hkeys⟩
    · rcases List.mem_cons.1 hs with rfl | hs
      · exact Field.valid_selection hfield
      · exact hvalid s hs

/-- A fixed selection is accepted as a set if it has a field and passes the check. -/
theorem validSet_fieldSelections {fields : List Field} (hne : fields.isEmpty = false)
    (h : fieldsDistinct fields = true) : ValidSet (fieldSelections fields) := by
  obtain ⟨hkeys, hvalid⟩ := fieldSelections_valid h
  exact .mk (fieldSelections_ne_nil hne) hkeys hvalid

end

end ScopeComposer.Graphql
