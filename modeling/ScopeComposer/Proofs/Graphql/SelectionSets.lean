import ScopeComposer.Proofs.Graphql.Syntax

/-!
# Selection sets

A document as the list of its selection sets. Every field of a document stands in exactly one of
them, so that what occurs in a document occurs in one of its sets.
-/

namespace ScopeComposer.Graphql

/-- A selection set together with the head of the field that it belongs to. -/
structure SelectionSet where
  /-- The head of the field. -/
  owner : Head
  /-- The fields in the set. -/
  fields : List Selection

/-- The names of the fields in a set, in order. -/
def SelectionSet.names (s : SelectionSet) : List String := s.fields.map (·.head.name)

mutual

/-- The selection sets of a field: its own, if it has one, and those inside. -/
def Selection.sets : Selection → List SelectionSet
  | .leaf _ => []
  | .node h fields => ⟨h, fields⟩ :: setsBelow fields

/-- The selection sets of fields. -/
def setsBelow : List Selection → List SelectionSet
  | [] => []
  | s :: rest => s.sets ++ setsBelow rest

end

theorem setsBelow_append (fields more : List Selection) :
    setsBelow (fields ++ more) = setsBelow fields ++ setsBelow more := by
  induction fields with
  | nil => rfl
  | cons s fields ih => rw [List.cons_append, setsBelow, setsBelow, ih, List.append_assoc]

@[simp]
theorem setsBelow_leaf (h : Head) : setsBelow [.leaf h] = [] := rfl

@[simp]
theorem setsBelow_node (h : Head) (fields : List Selection) :
    setsBelow [.node h fields] = ⟨h, fields⟩ :: setsBelow fields := by
  simp [setsBelow, Selection.sets]

/-- The selection sets of a document, if the text is one: that of the query itself comes first. -/
def documentSets? (text : String) : Option (List SelectionSet) :=
  (parse? text).map fun fields => ⟨.plain "query", fields⟩ :: setsBelow fields

/-- How often a field with a name stands in some sets. -/
def occurrences (name : String) (sets : List SelectionSet) : Nat :=
  (sets.flatMap SelectionSet.names).count name

/-- Sets without a field of the name do not count. -/
theorem occurrences_filter {name : String} {sets : List SelectionSet} {p : SelectionSet → Bool}
    (h : ∀ s ∈ sets, p s = false → name ∉ s.names) :
    occurrences name (sets.filter p) = occurrences name sets := by
  unfold occurrences
  induction sets with
  | nil => rfl
  | cons s sets ih =>
    have hrest := ih fun s' hs' => h s' (List.mem_cons_of_mem _ hs')
    cases hp : p s with
    | true =>
      rw [List.filter_cons_of_pos hp, List.flatMap_cons, List.flatMap_cons, List.count_append,
        List.count_append, hrest]
    | false =>
      have hnone := List.count_eq_zero.2 (h s List.mem_cons_self hp)
      rw [List.filter_cons_of_neg (by simp [hp]), List.flatMap_cons, List.count_append, hnone,
        hrest, Nat.zero_add]

end ScopeComposer.Graphql
