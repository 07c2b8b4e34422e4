import ScopeComposer.Proofs.Checks
import ScopeComposer.Scope.Validation

/-!
# Faults

What is wrong with names, page sizes and requests, said without the checks that look for it. A check
reports the leftmost fault of the items that it looks at and nothing else.
-/

namespace ScopeComposer

/-! ## Names, page sizes and requests -/

section Faults

variable {S : Type} [DecidableEq S] [Tag S]

variable (S) in
/-- What is wrong with the name of a tag: no tag of the level is called so. -/
inductive Tag.Fault (value : String) : ValidationError → Prop where
  /-- The error names the level and what would have been allowed. -/
  | unknown (h : ∀ t : S, Tag.name t ≠ value) :
    Tag.Fault value (.invalidScope (Tag.level S) value (Tag.allowed S))

/-- What is wrong with a page size: it is no integer, or one that is out of range. -/
inductive PageSize.Fault (value : Json) : ValidationError → Prop where
  /-- The error names the value as it was given. -/
  | refused (h : ∀ n, pageSizeInteger? value = some n → ¬ (1 ≤ n ∧ n ≤ 100)) :
    PageSize.Fault value (.invalidPageSize (givenPageSize value))

variable (S) in
/-- What is wrong with a request. -/
inductive ReceivedRequest.Fault (r : ReceivedRequest) : ValidationError → Prop where
  /-- Its scope, without the blank characters around it, is unknown. -/
  | scopeName {e : ValidationError} (h : Tag.Fault S (Text.trim r.scopeName) e) :
    ReceivedRequest.Fault r e
  /-- Its scope is known, and it has a page size that is refused. -/
  | pageSize {e : ValidationError} {t : S} {value : Json}
    (known : Tag.name t = Text.trim r.scopeName) (given : r.pageSize = some value)
    (present : value ≠ .null) (h : PageSize.Fault value e) : ReceivedRequest.Fault r e

variable {e : ValidationError}

theorem Tag.parse_eq_error_iff {value : String} :
    Tag.parse S value = .error e ↔ Tag.Fault S value e := by
  unfold Tag.parse
  cases hname : (Tag.ofName? value : Option S) with
  | some t =>
    refine ⟨nofun, ?_⟩
    rintro ⟨h⟩
    exact absurd (Tag.name_eq_of_ofName? hname) (h t)
  | none =>
    constructor
    · rintro ⟨⟩
      refine .unknown fun t ht => ?_
      rw [← ht, Tag.ofName?_name] at hname
      cases hname
    · rintro ⟨-⟩
      rfl

theorem Tag.parse_eq_ok_iff {value : String} {t : S} :
    Tag.parse S value = .ok t ↔ Tag.name t = value := by
  unfold Tag.parse
  constructor
  · split
    · rintro ⟨⟩
      exact Tag.name_eq_of_ofName? ‹_›
    · nofun
  · rintro rfl
    rw [Tag.ofName?_name]

theorem PageSize.ofInt?_eq_none_iff {n : Int} :
    PageSize.ofInt? n = none ↔ ¬ (1 ≤ n ∧ n ≤ 100) := by
  unfold PageSize.ofInt?
  split <;> simp [*]

theorem PageSize.ofJson_eq_error_iff {value : Json} :
    PageSize.ofJson value = .error e ↔ PageSize.Fault value e := by
  unfold PageSize.ofJson
  have hnone : (pageSizeInteger? value).bind PageSize.ofInt? = none ↔
      ∀ n, pageSizeInteger? value = some n → ¬ (1 ≤ n ∧ n ≤ 100) := by
    simp only [Option.bind_eq_none_iff, PageSize.ofInt?_eq_none_iff]
  cases hsize : (pageSizeInteger? value).bind PageSize.ofInt? with
  | some size =>
    refine ⟨nofun, ?_⟩
    rintro ⟨h⟩
    rw [hnone.2 h] at hsize
    cases hsize
  | none =>
    constructor
    · rintro ⟨⟩
      exact .refused (hnone.1 hsize)
    · rintro ⟨-⟩
      rfl

/-- A page size that is left to the default has no fault. -/
theorem PageSize.ofOptionalJson_eq_error_iff {default : PageSize} {size : Option Json} :
    PageSize.ofOptionalJson default size = .error e ↔
      ∃ value, size = some value ∧ value ≠ .null ∧ PageSize.Fault value e := by
  unfold PageSize.ofOptionalJson
  split
  · simp
  · simp
  · next value hnull =>
    have hne : value ≠ .null := fun h => hnull h
    simp [PageSize.ofJson_eq_error_iff, hne]

/-- The scope of a request is checked before its page size. -/
theorem ReceivedRequest.check_eq_error_iff {defaultSize : PageSize} {r : ReceivedRequest} :
    r.check (S := S) defaultSize = .error e ↔ ReceivedRequest.Fault S r e := by
  have hsteps : r.check (S := S) defaultSize = .error e ↔
      Tag.parse S (Text.trim r.scopeName) = .error e ∨ ∃ t : S,
        Tag.parse S (Text.trim r.scopeName) = .ok t ∧
          PageSize.ofOptionalJson defaultSize r.pageSize = .error e := by
    unfold check
    simp [bind_eq_error_iff]
  rw [hsteps, Tag.parse_eq_error_iff, PageSize.ofOptionalJson_eq_error_iff]
  simp only [Tag.parse_eq_ok_iff]
  constructor
  · rintro (h | ⟨t, known, value, given, present, h⟩)
    · exact .scopeName h
    · exact .pageSize known given present h
  · rintro (h | ⟨known, given, present, h⟩)
    · exact .inl h
    · exact .inr ⟨_, known, _, given, present, h⟩

/-! ## Lists -/

/-- A list of names is checked to its end although names that are repeated count once. -/
theorem NameList.reports_tags (input : Option NameList) (fallback : List S) :
    Reports (Tag.Fault S) (tags input fallback) ((input.map entries).getD []) := by
  unfold tags
  split
  · next hnone =>
    rw [hnone]
    exact .ok fallback
  · exact (Reports.mapM (fun _ _ => Tag.parse_eq_error_iff) _).map

theorem ReceivedRequest.reports_checkAll (requests : List ReceivedRequest) (fallback : List S)
    (defaultSize : PageSize) : Reports (ReceivedRequest.Fault S)
      (checkAll requests fallback defaultSize) requests := by
  cases requests with
  | nil => exact .ok _
  | cons r requests => exact .mapM (fun _ _ => check_eq_error_iff) _

end Faults

end ScopeComposer
