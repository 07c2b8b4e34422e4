import Mathlib.Logic.ExistsUnique
import ScopeComposer.Server.Classification

/-!
# What becomes of errors and data

A response may carry data, errors, or both. If it carries errors they decide, whatever the data are.
The kind of the failure depends only on whether some error says that a resource does not exist,
wherever it stands, while the diagnostics of the failure all come from one of the errors.
-/

namespace ScopeComposer

/-- Some error says that a resource does not exist. -/
def SaysNotFound (errors : List GraphqlError) : Prop := ∃ e ∈ errors, e.type = some "NOT_FOUND"

instance : DecidablePred SaysNotFound := fun errors =>
  inferInstanceAs (Decidable (∃ e ∈ errors, e.type = some "NOT_FOUND"))

theorem GraphqlError.saysNotFound_iff {e : GraphqlError} :
    e.saysNotFound = true ↔ e.type = some "NOT_FOUND" :=
  beq_iff_eq

theorem SaysNotFound.perm_iff {errors others : List GraphqlError} (h : others.Perm errors) :
    SaysNotFound others ↔ SaysNotFound errors :=
  exists_congr fun _ => and_congr_left fun _ => h.mem_iff

theorem find?_saysNotFound_eq_none_iff {errors : List GraphqlError} :
    errors.find? (·.saysNotFound) = none ↔ ¬ SaysNotFound errors := by
  simp [SaysNotFound, GraphqlError.saysNotFound_iff]

/-! ## The error that speaks for all -/

/-- The error that provides the diagnostics for a list of errors. -/
inductive SpeaksFor (e : GraphqlError) : List GraphqlError → Prop where
  /-- The first one that says that a resource does not exist. -/
  | notFound {before after : List GraphqlError} (hbefore : ¬ SaysNotFound before)
      (h : e.type = some "NOT_FOUND") : SpeaksFor e (before ++ e :: after)
  /-- If none says so, the first one of all. -/
  | first {rest : List GraphqlError} (h : ¬ SaysNotFound (e :: rest)) : SpeaksFor e (e :: rest)

/-- The search for the error that provides the diagnostics finds the one that speaks for all. -/
theorem find?_or_head?_eq_some_iff {errors : List GraphqlError} {e : GraphqlError} :
    (errors.find? (·.saysNotFound)).or errors.head? = some e ↔ SpeaksFor e errors := by
  constructor
  · intro h
    cases hfind : errors.find? (·.saysNotFound) with
    | some found =>
      rw [hfind] at h
      obtain rfl : found = e := Option.some.inj h
      obtain ⟨hfound, before, after, rfl, hbefore⟩ := List.find?_eq_some_iff_append.1 hfind
      have hnone : before.find? (·.saysNotFound) = none :=
        List.find?_eq_none.2 fun b hb => by simpa using hbefore b hb
      exact .notFound (find?_saysNotFound_eq_none_iff.1 hnone)
        (GraphqlError.saysNotFound_iff.1 hfound)
    | none =>
      rw [hfind, Option.none_or] at h
      obtain ⟨rest, rfl⟩ := List.head?_eq_some_iff.1 h
      exact .first (find?_saysNotFound_eq_none_iff.1 hfind)
  · intro h
    cases h with
    | notFound hbefore h =>
      rw [List.find?_append, find?_saysNotFound_eq_none_iff.2 hbefore, Option.none_or,
        List.find?_cons_of_pos (GraphqlError.saysNotFound_iff.2 h), Option.some_or]
    | first h => rw [find?_saysNotFound_eq_none_iff.2 h, Option.none_or, List.head?_cons]

/-- Of several errors exactly one speaks for all. -/
theorem existsUnique_speaksFor {errors : List GraphqlError} (h : errors ≠ []) :
    ∃! e, SpeaksFor e errors := by
  have hsome : ((errors.find? (·.saysNotFound)).or errors.head?).isSome := by simp [h]
  obtain ⟨e, he⟩ := Option.isSome_iff_exists.1 hsome
  refine ⟨e, find?_or_head?_eq_some_iff.1 he, fun other hother => ?_⟩
  exact Option.some.inj ((find?_or_head?_eq_some_iff.2 hother).symm.trans he)

/-! ## Failures from errors -/

namespace Failure

/-- The diagnostics of a failure are those of one error. -/
structure Keeps (f : Failure) (e : GraphqlError) : Prop where
  /-- What else the error says is the cause. -/
  extensions : ∀ x, e.extensions = some x → f.cause = some x
  /-- If it says nothing else, its message is. -/
  message : e.extensions = none → f.cause = some (.str e.message)
  /-- The path is left out if it is empty. -/
  path : ∀ path, f.path = some path ↔ path = e.path ∧ path ≠ []
  /-- The class is the one of the error. -/
  type : f.type = e.type

/-- The kind of the failure depends on no other error than one that says that a resource does not
exist. -/
theorem kind_ofErrors (errors : List GraphqlError) (status : UInt16) :
    (ofErrors errors status).kind =
      if SaysNotFound errors then .notFound else kindOfStatus status := by
  have hfind : (errors.find? (·.saysNotFound)).isSome = true ↔ SaysNotFound errors := by
    rw [Option.isSome_iff_ne_none, Ne, find?_saysNotFound_eq_none_iff, Decidable.not_not]
  unfold ofErrors
  dsimp only
  simp only [hfind]
  split <;> rfl

theorem message_ofErrors (errors : List GraphqlError) (status : UInt16) :
    (ofErrors errors status).message = ", ".intercalate (errors.map (·.message)) := by
  unfold ofErrors
  dsimp only
  split <;> rfl

theorem keeps_ofErrors {errors : List GraphqlError} {e : GraphqlError} (h : SpeaksFor e errors)
    (status : UInt16) : (ofErrors errors status).Keeps e := by
  unfold ofErrors
  dsimp only
  rw [find?_or_head?_eq_some_iff.2 h]
  exact {
    extensions := fun x hx => by simp [causeOf, hx]
    message := fun hx => by simp [causeOf, hx]
    path := fun path => by
      rw [Option.ite_none_left_eq_some, List.isEmpty_iff, Option.some.injEq]
      constructor
      · rintro ⟨hne, rfl⟩
        exact ⟨rfl, hne⟩
      · rintro ⟨rfl, hne⟩
        exact ⟨hne, rfl⟩
    type := rfl }

theorem kindOfStatus_ne_notFound (status : UInt16) : kindOfStatus status ≠ .notFound := by
  unfold kindOfStatus
  split
  · decide
  · split <;> decide

theorem kind_ofErrors_eq_notFound_iff {errors : List GraphqlError} {status : UInt16} :
    (ofErrors errors status).kind = .notFound ↔ SaysNotFound errors := by
  rw [kind_ofErrors]
  split
  · next h => exact iff_of_true rfl h
  · next h => exact iff_of_false (kindOfStatus_ne_notFound status) h

/-- A classification of errors is a failure whose kind does not depend on their order, whose message
is made of all their messages, and whose diagnostics are those of a single one of them. -/
theorem ofErrors_keeps_one_error (errors : List GraphqlError) (status : UInt16) :
    let failure := ofErrors errors status
    (failure.kind = .notFound ↔ ∃ e ∈ errors, e.type = some "NOT_FOUND") ∧
    ((∀ e ∈ errors, e.type ≠ some "NOT_FOUND") → failure.kind = kindOfStatus status) ∧
    (∀ others, others.Perm errors → (ofErrors others status).kind = failure.kind) ∧
    failure.message = ", ".intercalate (errors.map (·.message)) ∧
    (errors ≠ [] → (∃! e, SpeaksFor e errors) ∧ ∀ e, SpeaksFor e errors → failure.Keeps e) ∧
    ofErrors [] status = { kind := kindOfStatus status, message := "" } := by
  refine ⟨kind_ofErrors_eq_notFound_iff, fun h => ?_, fun others hperm => ?_,
    message_ofErrors errors status,
    fun h => ⟨existsUnique_speaksFor h, fun e he => keeps_ofErrors he status⟩, rfl⟩
  · have hnone : ¬ SaysNotFound errors := fun ⟨e, he, htype⟩ => h e he htype
    rw [kind_ofErrors, if_neg hnone]
  · simp only [kind_ofErrors, SaysNotFound.perm_iff hperm]

/-- An error that says that a resource does not exist speaks for all from the second place too. -/
theorem ofErrors_keeps_one_error_of_second :
    let gone : GraphqlError := ⟨"gone", [], [.str "node"], some "NOT_FOUND", none⟩
    let failure := ofErrors [⟨"slow", [], [], some "TIMEOUT", some .null⟩, gone] 401
    failure.kind = .notFound ∧ failure.message = "slow, gone" ∧ failure.Keeps gone := by
  intro gone failure
  have hspeaks : SpeaksFor gone ([⟨"slow", [], [], some "TIMEOUT", some .null⟩] ++ [gone]) :=
    .notFound (by decide) rfl
  obtain ⟨hkind, -, -, hmessage, hkeeps, -⟩ := ofErrors_keeps_one_error
    [⟨"slow", [], [], some "TIMEOUT", some .null⟩, gone] 401
  exact ⟨hkind.2 ⟨gone, by simp, rfl⟩, hmessage.trans (by decide),
    (hkeeps (by simp)).2 gone hspeaks⟩

end Failure

/-! ## Results -/

namespace Response

variable {α : Type}

/-- The list of errors of a response is absent or empty. -/
def NoErrors (r : Response) : Prop := r.errors = none ∨ r.errors = some []

/-- The data of a response are there and decode to a value; `null` stands for no data. -/
def Carries (r : Response) (d : Json.Decoder α) (a : α) : Prop :=
  ∃ data, r.data = some data ∧ data ≠ .null ∧ d.run data = .ok a

theorem noErrors_or_errors (r : Response) :
    r.NoErrors ∨ ∃ errors, r.errors = some errors ∧ errors ≠ [] := by
  cases herrors : r.errors with
  | none => exact .inl (.inl herrors)
  | some errors =>
    cases errors with
    | nil => exact .inl (.inr herrors)
    | cons e rest => exact .inr ⟨e :: rest, rfl, List.cons_ne_nil e rest⟩

theorem not_noErrors {r : Response} {errors : List GraphqlError} (h : r.errors = some errors)
    (hne : errors ≠ []) : ¬ r.NoErrors := by
  simp [NoErrors, h, hne]

theorem result_of_errors (d : Json.Decoder α) {r : Response} {errors : List GraphqlError}
    (h : r.errors = some errors) (hne : errors ≠ []) :
    r.result d = .error (.ofErrors errors 200) := by
  obtain ⟨e, rest, rfl⟩ := List.exists_cons_of_ne_nil hne
  unfold result
  rw [h]
  rfl

/-- Without errors the result is the value that the data decode to, or else an internal failure. -/
theorem result_of_noErrors (d : Json.Decoder α) {r : Response} (h : r.NoErrors) :
    (∃ a, r.Carries d a ∧ r.result d = .ok a) ∨
      (¬ ∃ a, r.Carries d a) ∧ ∃ message, r.result d = .error { kind := .internal, message } := by
  unfold result
  split
  · next e rest herrors => exact absurd h (not_noErrors herrors (List.cons_ne_nil e rest))
  · split
    · next hdata => exact .inr ⟨by simp [Carries, hdata], _, rfl⟩
    · next hdata => exact .inr ⟨by simp [Carries, hdata], _, rfl⟩
    · next data hnull hdata =>
      split
      · next a hrun => exact .inl ⟨a, ⟨data, hdata, hnull, hrun⟩, rfl⟩
      · next e hrun => exact .inr ⟨by simp [Carries, hdata, hrun], _, rfl⟩

theorem Carries.unique {d : Json.Decoder α} {r : Response} {a b : α} (ha : r.Carries d a)
    (hb : r.Carries d b) : a = b := by
  obtain ⟨data, hdata, -, hrun⟩ := ha
  obtain ⟨other, hother, -, hrun'⟩ := hb
  obtain rfl : data = other := Option.some.inj (hdata.symm.trans hother)
  exact Except.ok.inj (hrun.symm.trans hrun')

theorem not_carries {d : Json.Decoder α} {r : Response}
    (h : r.data = none ∨ r.data = some .null ∨
      ∃ data e, r.data = some data ∧ d.run data = .error e) (a : α) : ¬ r.Carries d a := by
  rintro ⟨data, hdata, hnull, hrun⟩
  rw [hdata] at h
  rcases h with h | h | ⟨other, e, h, herror⟩
  · cases h
  · exact hnull (Option.some.inj h)
  · obtain rfl := Option.some.inj h
    rw [hrun] at herror
    cases herror

theorem result_eq_ok_iff (d : Json.Decoder α) (r : Response) (a : α) :
    r.result d = .ok a ↔ r.NoErrors ∧ r.Carries d a := by
  rcases r.noErrors_or_errors with hnone | ⟨errors, herrors, hne⟩
  · rw [and_iff_right hnone]
    rcases result_of_noErrors d hnone with ⟨b, hb, hresult⟩ | ⟨hdata, message, hresult⟩
    · rw [hresult, Except.ok.injEq]
      exact ⟨fun h => h ▸ hb, fun ha => hb.unique ha⟩
    · rw [hresult]
      exact iff_of_false nofun fun ha => hdata ⟨a, ha⟩
  · rw [result_of_errors d herrors hne]
    exact iff_of_false nofun fun h => not_noErrors herrors hne h.1

/-- Some error of a response says that a resource does not exist. -/
def NotFound (r : Response) : Prop :=
  ∃ errors, r.errors = some errors ∧ ∃ e ∈ errors, e.type = some "NOT_FOUND"

/-- A response without success says that a resource does not exist, or else it is an internal
failure. -/
theorem kind_of_result_eq_error {d : Json.Decoder α} {r : Response} {failure : Failure}
    (h : r.result d = .error failure) :
    r.NotFound ∧ failure.kind = .notFound ∨ ¬ r.NotFound ∧ failure.kind = .internal := by
  rcases r.noErrors_or_errors with hnone | ⟨errors, herrors, hne⟩
  · have hnotFound : ¬ r.NotFound := by
      rintro ⟨errors, herrors, e, he, -⟩
      exact not_noErrors herrors (List.ne_nil_of_mem he) hnone
    rcases result_of_noErrors d hnone with ⟨a, -, hresult⟩ | ⟨-, message, hresult⟩
    · rw [hresult] at h
      cases h
    · obtain rfl := Except.error.inj (hresult.symm.trans h)
      exact .inr ⟨hnotFound, rfl⟩
  · obtain rfl := Except.error.inj ((result_of_errors d herrors hne).symm.trans h)
    have hiff : r.NotFound ↔ SaysNotFound errors := by simp [NotFound, SaysNotFound, herrors]
    rw [hiff, Failure.kind_ofErrors]
    split
    · next hsome => exact .inl ⟨hsome, rfl⟩
    · next hsome => exact .inr ⟨hsome, rfl⟩

/-- Errors decide before data: a response with errors is classified by them, one without is its data
if they decode and an internal failure without diagnostics if not. -/
theorem errors_before_data (d : Json.Decoder α) (r : Response) :
    (∀ a, r.result d = .ok a ↔ (r.errors = none ∨ r.errors = some []) ∧
      ∃ data, r.data = some data ∧ data ≠ .null ∧ d.run data = .ok a) ∧
    (∀ errors, r.errors = some errors → errors ≠ [] →
      r.result d = .error (.ofErrors errors 200)) ∧
    ((r.errors = none ∨ r.errors = some []) →
      (r.data = none ∨ r.data = some .null ∨ ∃ data e, r.data = some data ∧ d.run data = .error e) →
      ∃ message, r.result d =
        .error { kind := .internal, message, cause := none, path := none, type := none }) ∧
    ∀ failure, r.result d = .error failure →
      (failure.kind = .notFound ↔
        ∃ errors, r.errors = some errors ∧ ∃ e ∈ errors, e.type = some "NOT_FOUND") ∧
      (failure.kind = .notFound ∨ failure.kind = .internal) := by
  refine ⟨result_eq_ok_iff d r, fun errors => result_of_errors d, fun hnone hdata => ?_,
    fun failure h => ?_⟩
  · rcases result_of_noErrors d hnone with ⟨a, ha, -⟩ | ⟨-, hresult⟩
    · exact absurd ha (not_carries hdata a)
    · exact hresult
  · rcases kind_of_result_eq_error h with ⟨hnotFound, hkind⟩ | ⟨hnotFound, hkind⟩
    · exact ⟨iff_of_true hkind hnotFound, .inl hkind⟩
    · exact ⟨iff_of_false (by simp [hkind]) hnotFound, .inr hkind⟩

/-- Data beside an error are lost; without data an empty list of errors is no success. -/
theorem errors_before_data_of_partial :
    Response.result .value ⟨some (.obj []), some [⟨"slow", [], [], none, none⟩]⟩ =
      .error (.ofErrors [⟨"slow", [], [], none, none⟩] 200) ∧
    ∃ message, Response.result .value ⟨some .null, some []⟩ =
      .error { kind := .internal, message } :=
  ⟨(errors_before_data .value _).2.1 _ rfl (List.cons_ne_nil _ _),
    (errors_before_data .value _).2.2.1 (.inr rfl) (.inr (.inl rfl))⟩

end Response

end ScopeComposer
