import ScopeComposer.Proofs.Text.Numeral
import ScopeComposer.Scope.Validation

/-!
# Requests in compact form

A request that was received as a record can be written as an entry of the compact form, unless one of
its texts holds a character that separates entries or the parts of one. An entry read back is not
quite the record it was written from: its scope has lost blank characters at its start, its page size
has become a text, and no cursor has become an empty one. No check sees a difference, and neither does
what is reported of a request that is refused.
-/

namespace ScopeComposer

namespace ReceivedRequest

/-- How a page size is written; one that is left to the default is not written at all. -/
def pageSizeText : Option Json → String
  | none | some .null => ""
  | some value => givenPageSize value

/-- A request as an entry of the compact form. -/
def compact (r : ReceivedRequest) : String :=
  r.scopeName ++ ":" ++ pageSizeText r.pageSize ++ ":" ++ r.continueAfter.getD ""

/-- Requests as a list in compact form. -/
def compactList (requests : List ReceivedRequest) : String :=
  ",".intercalate (requests.map compact)

/-- A text that holds no character by which entries, or the parts of one, are told apart. -/
def Unseparated (s : String) : Prop := ',' ∉ s.toList ∧ ':' ∉ s.toList

instance (s : String) : Decidable (Unseparated s) :=
  inferInstanceAs (Decidable (',' ∉ s.toList ∧ ':' ∉ s.toList))

/-- A page size that has a place in the compact form. -/
inductive CompactSize : Option Json → Prop
  /-- There is none. -/
  | absent : CompactSize none
  /-- It is given as nothing. -/
  | null : CompactSize (some .null)
  /-- An integer, of whatever size. -/
  | integer (n : Int) : CompactSize (some (.int n))
  /-- A text, which does not look as if there were none. -/
  | text {s : String} (hne : s ≠ "") (h : Unseparated s) : CompactSize (some (.str s))

/-- A cursor that has a place in the compact form: it does not end the entry, and nothing is trimmed
from its end. A colon in it does no harm. -/
def CompactCursor (cursor : Option String) : Prop :=
  ∀ s ∈ cursor, ',' ∉ s.toList ∧ s.toList.getLast?.any Text.isBlank = false

instance (cursor : Option String) : Decidable (CompactCursor cursor) :=
  inferInstanceAs (Decidable (∀ s ∈ cursor, ',' ∉ s.toList ∧
    s.toList.getLast?.any Text.isBlank = false))

/-- A request that has a place in the compact form. -/
structure HasCompactForm (r : ReceivedRequest) : Prop where
  /-- The name of the scope is one part of one entry. -/
  scopeName : Unseparated r.scopeName
  /-- The page size has a place. -/
  pageSize : CompactSize r.pageSize
  /-- The cursor has a place. -/
  cursor : CompactCursor r.continueAfter

/-! ## Scopes -/

section Scopes

variable {S : Type} [DecidableEq S] [Tag S]

theorem isLower_of_mem_name {t : S} {c : Char} (h : c ∈ (Tag.name t).toList) :
    c.isLower = true :=
  List.all_eq_true.1 (Tag.isLower_name t) c h

theorem unseparated_name (t : S) : Unseparated (Tag.name t) :=
  ⟨fun h => absurd (isLower_of_mem_name h) (by decide),
    fun h => absurd (isLower_of_mem_name h) (by decide)⟩

theorem parse_trim_name (t : S) : Tag.parse S (Text.trim (Tag.name t)) = .ok t := by
  have hblank : ∀ c ∈ (Tag.name t).toList, Text.isBlank c = false := by
    intro c hc
    obtain ⟨hlow, hhigh⟩ := Bool.and_eq_true_iff.1 (isLower_of_mem_name hc)
    have hbounds : 97 ≤ c.toNat ∧ c.toNat ≤ 122 := ⟨of_decide_eq_true hlow, of_decide_eq_true hhigh⟩
    exact Text.isBlank_of_visible (by omega) (by omega)
  unfold Tag.parse
  rw [Text.trim_eq_self hblank, Tag.ofName?_name]

/-- A request for a tag, with an integer as its page size, is refused for its page size only. -/
theorem check_name (t : S) (n : Int) (cursor : Option String) (defaultSize : PageSize) :
    check defaultSize ⟨Tag.name t, some (.int n), cursor⟩ = (do
      let pageSize ← PageSize.ofJson (.int n)
      .ok (.ofWindow t ⟨pageSize, .ofOption cursor⟩)) := by
  unfold check
  rw [parse_trim_name]
  rfl

end Scopes

/-! ## Page sizes -/

theorem CompactSize.unseparated {size : Option Json} (h : CompactSize size) :
    Unseparated (pageSizeText size) := by
  have hnumeral : ∀ c : Char, (c = '-' ∨ c.isDigit = true) → c ≠ ',' ∧ c ≠ ':' := by
    rintro c (rfl | hdigit)
    · decide
    · constructor <;> rintro rfl <;> revert hdigit <;> decide
  cases h with
  | absent => decide
  | null => decide
  | integer n =>
    exact ⟨fun hc => (hnumeral _ (Text.mem_toString hc)).1 rfl,
      fun hc => (hnumeral _ (Text.mem_toString hc)).2 rfl⟩
  | text _ h => exact h

/-- An integer is as good a page size as its numeral. -/
theorem ofJson_toString (n : Int) :
    PageSize.ofJson (.str (toString n)) = PageSize.ofJson (.int n) := by
  have hinteger : pageSizeInteger? (.str (toString n)) = pageSizeInteger? (.int n) := by
    unfold pageSizeInteger?
    simp only [Text.trim_toString, Text.readSigned_toString]
    rfl
  unfold PageSize.ofJson
  rw [hinteger]
  rfl

/-- The page size that is read back from an entry is checked like the one it was written from. -/
theorem CompactSize.ofOptionalJson_eq {size : Option Json} (h : CompactSize size)
    (default : PageSize) : PageSize.ofOptionalJson default
      (if pageSizeText size = "" then none else some (.str (pageSizeText size))) =
        PageSize.ofOptionalJson default size := by
  cases h with
  | absent => rfl
  | null => rfl
  | integer n =>
    have hne : pageSizeText (some (.int n)) ≠ "" := Text.toString_ne_empty n
    rw [if_neg hne]
    exact ofJson_toString n
  | @text s hne =>
    have hne' : pageSizeText (some (.str s)) ≠ "" := hne
    rw [if_neg hne']
    rfl

/-! ## Entries -/

/-- An absent cursor is written like an empty one. -/
theorem CompactCursor.getD {cursor : Option String} (h : CompactCursor cursor) :
    ',' ∉ (cursor.getD "").toList ∧
      (cursor.getD "").toList.getLast?.any Text.isBlank = false := by
  cases cursor with
  | none => decide
  | some s => exact h s rfl

theorem toList_compact (r : ReceivedRequest) : r.compact.toList = r.scopeName.toList ++
    ':' :: ((pageSizeText r.pageSize).toList ++ ':' :: (r.continueAfter.getD "").toList) := by
  simp [compact]

namespace HasCompactForm

variable {r : ReceivedRequest}

theorem comma_not_mem (h : r.HasCompactForm) : ',' ∉ r.compact.toList := by
  simp [toList_compact, h.scopeName.1, h.pageSize.unseparated.1, h.cursor.getD.1]

/-- From an entry nothing is trimmed but what stands before the scope: the cursor has no blank
character at its end, and without a cursor the entry ends with a colon. -/
theorem trim_compact (h : r.HasCompactForm) : (Text.trim r.compact).toList =
    Text.dropBlank r.scopeName.toList ++
      ':' :: ((pageSizeText r.pageSize).toList ++ ':' :: (r.continueAfter.getD "").toList) := by
  have hend : ∀ c ∈ r.compact.toList.getLast?, Text.isBlank c = false := by
    intro c hc
    have hlast : (r.continueAfter.getD "").toList.getLast?.getD ':' = c := by
      simpa [toList_compact, List.getLast?_append, List.getLast?_cons] using hc
    cases hs : (r.continueAfter.getD "").toList.getLast? with
    | none =>
      obtain rfl : ':' = c := by simpa [hs] using hlast
      decide
    | some d =>
      obtain rfl : d = c := by simpa [hs] using hlast
      simpa [hs] using h.cursor.getD.2
  unfold Text.trim
  rw [String.toList_ofList, Text.trimChars_of_getLast? hend, toList_compact,
    Text.dropBlank_append (by decide)]

theorem trim_compact_ne_empty (h : r.HasCompactForm) : Text.trim r.compact ≠ "" := by
  intro heq
  have hchars := h.trim_compact
  rw [heq] at hchars
  simp at hchars

/-- What is read back from an entry. -/
theorem ofCompact_trim_compact (h : r.HasCompactForm) : ofCompact (Text.trim r.compact) =
    ⟨String.ofList (Text.dropBlank r.scopeName.toList),
      if pageSizeText r.pageSize = "" then none else some (.str (pageSizeText r.pageSize)),
      some (r.continueAfter.getD "")⟩ := by
  have hscope : ':' ∉ Text.dropBlank r.scopeName.toList := fun hc =>
    h.scopeName.2 ((List.dropWhile_suffix _).mem hc)
  have hentry : Text.trim r.compact = String.ofList (Text.dropBlank r.scopeName.toList ++
      ':' :: ((pageSizeText r.pageSize).toList ++ ':' :: (r.continueAfter.getD "").toList)) := by
    rw [← h.trim_compact, String.ofList_toList]
  unfold ofCompact
  rw [hentry, Text.cut_ofList hscope]
  simp only [Option.map_some, Text.cut_ofList h.pageSize.unseparated.2, String.ofList_toList]

/-- The request that is read back from an entry passes the checks with the same result, or is refused
for the same reason. -/
theorem check_ofCompact {S : Type} [DecidableEq S] [Tag S] (h : r.HasCompactForm)
    (defaultSize : PageSize) : (ofCompact (Text.trim r.compact)).check (S := S) defaultSize =
      r.check defaultSize := by
  have hscope : Text.trim (String.ofList (Text.dropBlank r.scopeName.toList)) =
      Text.trim r.scopeName := by
    unfold Text.trim
    rw [String.toList_ofList, Text.trimChars_dropBlank]
  have hcursor : Cursor.ofOption (some (r.continueAfter.getD "")) =
      Cursor.ofOption r.continueAfter := by
    cases r.continueAfter with
    | none => rfl
    | some s => rfl
  rw [h.ofCompact_trim_compact]
  unfold check
  simp only [hscope, h.pageSize.ofOptionalJson_eq, hcursor]

end HasCompactForm

/-! ## Lists -/

/-- The entries of a list in compact form are those of its requests, one for each. -/
theorem entries_compactList {requests : List ReceivedRequest}
    (h : ∀ r ∈ requests, r.HasCompactForm) : Text.entries (compactList requests) =
      requests.map fun r => Text.trim r.compact := by
  have hcomma : ∀ s ∈ requests.map compact, ',' ∉ s.toList := by
    intro s hs
    obtain ⟨r, hr, rfl⟩ := List.mem_map.1 hs
    exact (h r hr).comma_not_mem
  unfold compactList
  rw [Text.entries_intercalate hcomma]
  unfold Text.significant
  rw [List.map_map, List.filter_eq_self.2]
  · rfl
  · intro s hs
    obtain ⟨r, hr, rfl⟩ := List.mem_map.1 hs
    simpa using (h r hr).trim_compact_ne_empty

section Checks

variable {S : Type} [DecidableEq S] [Tag S]

/-- Lists whose requests pass the same checks one by one pass the same checks as a whole. -/
theorem checkAll_map_congr {f : ReceivedRequest → ReceivedRequest} {requests : List ReceivedRequest}
    {defaultSize : PageSize}
    (h : ∀ r ∈ requests, (f r).check (S := S) defaultSize = r.check defaultSize)
    (fallback : List S) :
    checkAll (requests.map f) fallback defaultSize = checkAll requests fallback defaultSize := by
  have hchecks : (requests.map f).mapM (check (S := S) defaultSize) =
      requests.mapM (check defaultSize) := by
    induction requests with
    | nil => rfl
    | cons r requests ih =>
      rw [List.map_cons, List.mapM_cons, List.mapM_cons, h r List.mem_cons_self,
        ih fun q hq => h q (List.mem_cons_of_mem _ hq)]
  cases requests with
  | nil => rfl
  | cons r requests => exact hchecks

end Checks

end ReceivedRequest

/-- Requests written in compact form are checked like the records they were written from. -/
theorem ScopeRequest.ofCompactList_compactList {S : Type} [DecidableEq S] [Tag S]
    {requests : List ReceivedRequest} (h : ∀ r ∈ requests, r.HasCompactForm) (fallback : List S)
    (defaultSize : PageSize) : ofCompactList (ReceivedRequest.compactList requests) fallback
      defaultSize = ReceivedRequest.checkAll requests fallback defaultSize := by
  unfold ofCompactList
  rw [ReceivedRequest.entries_compactList h, List.map_map, Function.comp_def]
  exact ReceivedRequest.checkAll_map_congr (fun r hr => (h r hr).check_ofCompact defaultSize)
    fallback

end ScopeComposer
