import ScopeComposer.Proofs.Paging.PageSize
import ScopeComposer.Proofs.Paging.Window

/-!
# The grammar of the compact form

Which texts are lists of requests in compact form, and what they stand for. A list is made of pieces
between commas; the pieces that are not blank are its entries, trimmed. An entry has up to three
parts between colons, and each part has a grammar of its own. A list is read as the requests of its
entries, or refused for the leftmost entry that does not follow the grammar; requests that are
written down as a list are read back, unless a comma or a blank character at the end of a cursor
would get lost on the way.
-/

namespace ScopeComposer

open Text

/-! ## Entries -/

namespace CompactEntry

/-- The parts of an entry: what stands before its first colon, between its first two colons, and
after the second one. -/
inductive Parts : String → String → Option String → Option String → Prop where
  /-- There is no colon. -/
  | one {name : String} (hname : ':' ∉ name.toList) : Parts name name none none
  /-- There is one colon. -/
  | two {name size : String} (hname : ':' ∉ name.toList) (hsize : ':' ∉ size.toList) :
    Parts (name ++ ":" ++ size) name (some size) none
  /-- There are two colons, or more, which belong to the last part. -/
  | three {name size cursor : String} (hname : ':' ∉ name.toList) (hsize : ':' ∉ size.toList) :
    Parts (name ++ ":" ++ (size ++ ":" ++ cursor)) name (some size) (some cursor)

/-- The page sizes that a part stands for. -/
inductive SizePart (default : PageSize) : Option String → PageSize → Prop where
  /-- There is no such part. -/
  | absent : SizePart default none default
  /-- There is nothing in it. -/
  | empty : SizePart default (some "") default
  /-- There is a numeral of the page size in it, with or without blank characters around it. -/
  | numeral {part : String} {size : PageSize}
    (h : SignedNumeral (trim part).toList size.value) : SizePart default (some part) size

/-- The cursors that a part stands for. -/
inductive CursorPart : Option String → Option String → Prop where
  /-- There is no such part. -/
  | absent : CursorPart none none
  /-- It says that there is no cursor. -/
  | placeholder {part : String} (h : part = "" ∨ part = "null" ∨ part = "undefined") :
    CursorPart (some part) none
  /-- It is a cursor as it stands. -/
  | kept {part : String} (h : ¬ (part = "" ∨ part = "null" ∨ part = "undefined")) :
    CursorPart (some part) (some part)

variable {S : Type} [DecidableEq S] [Tag S]

/-- The request that an entry stands for. -/
inductive Denotes (default : PageSize) (entry : String) (r : ScopeRequest S) : Prop where
  /-- Each of its parts stands for a part of the request. -/
  | ofParts {name : String} {size cursor : Option String} (parts : Parts entry name size cursor)
    (scope : Tag.name r.scope = trim name) (pageSize : SizePart default size r.pageSize)
    (continueAfter : CursorPart cursor r.continueAfter.value)

variable (S) in
/-- What is wrong with an entry. -/
inductive Fault (entry : String) : ValidationError → Prop where
  /-- Its first part is not the name of a tag. -/
  | scope {name : String} {size cursor : Option String} (parts : Parts entry name size cursor)
    (unknown : ∀ t : S, Tag.name t ≠ trim name) :
    Fault entry (.invalidScope (Tag.level S) (trim name) (Tag.allowed S))
  /-- Its first part is one, but its second part is not a numeral of a page size. -/
  | pageSize {name size : String} {cursor : Option String} {t : S}
    (parts : Parts entry name (some size) cursor) (known : Tag.name t = trim name)
    (given : size ≠ "") (refused : ∀ n : Int, SignedNumeral (trim size).toList n →
      ¬ (1 ≤ n ∧ n ≤ 100)) : Fault entry (.invalidPageSize size)

/-! ## Reading an entry -/

variable {default : PageSize} {entry name : String} {size cursor : Option String}

theorem exists_parts (entry : String) : ∃ name size cursor, Parts entry name size cursor := by
  rcases exists_cut entry with hname | ⟨name, rest, hname, rfl⟩
  · exact ⟨entry, none, none, .one hname⟩
  · rcases exists_cut rest with hsize | ⟨size, cursor, hsize, rfl⟩
    · exact ⟨name, some rest, none, .two hname hsize⟩
    · exact ⟨name, some size, some cursor, .three hname hsize⟩

/-- What is received for a part that is to be a page size. -/
def givenSize (part : Option String) : Option Json :=
  part.bind fun s => if s = "" then none else some (.str s)

theorem Parts.ofCompact_eq (h : Parts entry name size cursor) :
    ReceivedRequest.ofCompact entry = ⟨name, givenSize size, cursor⟩ := by
  unfold ReceivedRequest.ofCompact
  cases h with
  | one hname => rw [cut_of_not_mem hname]; rfl
  | two hname hsize => simp only [cut_append hname, Option.map_some, cut_of_not_mem hsize]; rfl
  | three hname hsize => simp only [cut_append hname, Option.map_some, cut_append hsize]; rfl

theorem ofOptionalJson_eq_ok_iff {pageSize : PageSize} :
    PageSize.ofOptionalJson default (givenSize size) = .ok pageSize ↔
      SizePart default size pageSize := by
  constructor
  · cases size with
    | none =>
      rintro ⟨⟩
      exact .absent
    | some part =>
      by_cases hempty : part = ""
      · subst hempty
        rintro ⟨⟩
        exact .empty
      · have hgiven : givenSize (some part) = some (.str part) := if_neg hempty
        rw [hgiven]
        exact fun h => .numeral (PageSize.ofJson_str_eq_ok_iff.1 h)
  · intro hpart
    cases hpart with
    | absent => rfl
    | empty => rfl
    | @numeral part _ h =>
      have hne : part ≠ "" := by
        rintro rfl
        have hnone : readSigned (trim "") = none := by decide
        rw [← readSigned_eq_some_iff, hnone] at h
        cases h
      have hgiven : givenSize (some part) = some (.str part) := if_neg hne
      rw [hgiven]
      exact PageSize.ofJson_str_eq_ok_iff.2 h

theorem value_ofOption_eq_iff {value : Option String} :
    (Cursor.ofOption cursor).value = value ↔ CursorPart cursor value := by
  have hplaceholder : ∀ part : String, part ∈ cursorPlaceholders ↔
      part = "" ∨ part = "null" ∨ part = "undefined" := by
    intro part
    simp [cursorPlaceholders]
  cases cursor with
  | none =>
    constructor
    · rintro rfl
      exact .absent
    · rintro ⟨⟩
      rfl
  | some part =>
    by_cases h : part ∈ cursorPlaceholders
    · have hvalue : (Cursor.ofOption (some part)).value = none := by
        simp [Cursor.ofOption, Cursor.ofString, h, Cursor.none]
      rw [hvalue]
      constructor
      · rintro rfl
        exact .placeholder ((hplaceholder part).1 h)
      · rintro (_ | _ | hkept)
        · rfl
        · exact absurd ((hplaceholder part).1 h) hkept
    · have hvalue : (Cursor.ofOption (some part)).value = some part := by
        simp [Cursor.ofOption, Cursor.ofString, h]
      rw [hvalue]
      constructor
      · rintro rfl
        exact .kept fun hpart => h ((hplaceholder part).2 hpart)
      · rintro (_ | hpart | _)
        · exact absurd ((hplaceholder part).2 hpart) h
        · rfl

/-- Once an entry is taken apart, its parts are checked one by one. -/
theorem Parts.check_eq_ok_iff (h : Parts entry name size cursor) {r : ScopeRequest S} :
    (ReceivedRequest.ofCompact entry).check default = .ok r ↔ Tag.name r.scope = trim name ∧
      SizePart default size r.pageSize ∧ CursorPart cursor r.continueAfter.value := by
  have hcursor : Cursor.ofOption cursor = r.continueAfter ↔
      CursorPart cursor r.continueAfter.value := by
    rw [← value_ofOption_eq_iff]
    exact ⟨congrArg Cursor.value, Cursor.ext_value⟩
  rw [h.ofCompact_eq, ReceivedRequest.check, bind_eq_ok_iff]
  simp only [bind_eq_ok_iff, Tag.parse_eq_ok_iff, ofOptionalJson_eq_ok_iff, ← hcursor]
  constructor
  · rintro ⟨t, hname, pageSize, hsize, ⟨⟩⟩
    exact ⟨hname, hsize, rfl⟩
  · rintro ⟨hname, hsize, hvalue⟩
    refine ⟨r.scope, hname, r.pageSize, hsize, ?_⟩
    rw [hvalue]

theorem check_eq_ok_iff {r : ScopeRequest S} :
    (ReceivedRequest.ofCompact entry).check default = .ok r ↔ Denotes default entry r := by
  constructor
  · intro hpassed
    obtain ⟨name, size, cursor, parts⟩ := exists_parts entry
    obtain ⟨scope, pageSize, continueAfter⟩ := parts.check_eq_ok_iff.1 hpassed
    exact .ofParts parts scope pageSize continueAfter
  · rintro ⟨parts, scope, pageSize, continueAfter⟩
    exact parts.check_eq_ok_iff.2 ⟨scope, pageSize, continueAfter⟩

theorem check_eq_error_iff {e : ValidationError} :
    (ReceivedRequest.ofCompact entry).check (S := S) default = .error e ↔ Fault S entry e := by
  rw [ReceivedRequest.check_eq_error_iff]
  constructor
  · obtain ⟨name, size, cursor, parts⟩ := exists_parts entry
    rw [parts.ofCompact_eq]
    rintro (⟨⟨unknown⟩⟩ | ⟨known, given, -, ⟨refused⟩⟩)
    · exact .scope parts unknown
    · obtain ⟨part, rfl, hpart⟩ := Option.bind_eq_some_iff.1 given
      split at hpart
      · cases hpart
      · next hne =>
        obtain rfl := Option.some.inj hpart
        refine .pageSize parts known hne fun n hn => refused n ?_
        exact readSigned_eq_some_iff.2 hn
  · rintro (⟨parts, unknown⟩ | @⟨name, size, cursor, t, parts, known, given, refused⟩)
    · rw [parts.ofCompact_eq]
      exact .scopeName (.unknown unknown)
    · rw [parts.ofCompact_eq]
      have hgiven : givenSize (some size) = some (.str size) := if_neg given
      exact .pageSize known hgiven nofun (.refused fun n hn =>
        refused n (readSigned_eq_some_iff.1 hn))

/-- An entry stands for a request just if nothing is wrong with it. -/
theorem exists_denotes_iff (default : PageSize) (entry : String) :
    (∃ r : ScopeRequest S, Denotes default entry r) ↔ ∀ e, ¬ Fault S entry e := by
  have hreports : Reports (Fault S) ((ReceivedRequest.ofCompact entry).check default) [entry] :=
    .single fun _ => check_eq_error_iff
  have hpasses := hreports.passes_iff
  simpa only [check_eq_ok_iff, List.forall_mem_singleton] using hpasses

/-- What is left of an entry as its cursor goes on to the end of it. -/
theorem Denotes.compactCursor {r : ScopeRequest S} (h : Denotes default entry r)
    (hcomma : ',' ∉ entry.toList) (hend : entry.toList.getLast?.any isBlank = false) :
    ReceivedRequest.CompactCursor r.continueAfter.value := by
  obtain @⟨name, _, _, parts, -, -, continueAfter⟩ := h
  intro s hs
  rw [Option.mem_def.1 hs] at continueAfter
  obtain ⟨⟩ | ⟨⟩ | hkept := continueAfter
  cases parts with
  | @three _ size _ =>
    have hchars : s.toList ≠ [] := fun hnil => hkept (.inl (String.toList_eq_nil_iff.1 hnil))
    obtain ⟨c, cs, hcs⟩ := List.exists_cons_of_ne_nil hchars
    have hentry : (name ++ ":" ++ (size ++ ":" ++ s)).toList =
        (name ++ ":" ++ (size ++ ":")).toList ++ c :: cs := by
      simp [hcs]
    rw [hentry, ← hcs] at hcomma
    rw [hentry, List.getLast?_append_cons, ← hcs] at hend
    exact ⟨fun hmem => hcomma (List.mem_append_right _ hmem), hend⟩

end CompactEntry

/-! ## Lists -/

namespace ScopeRequest

variable {S : Type} [DecidableEq S] [Tag S]

/-- A request as an entry of the compact form. -/
def compact (r : ScopeRequest S) : String :=
  Tag.name r.scope ++ ":" ++ r.pageSize.text ++ ":" ++ r.continueAfter.value.getD ""

open ReceivedRequest (CompactCursor)

/-- The check of a list is that of its entries. -/
theorem ofCompactList_eq (text : String) (fallback : List S) (defaultSize : PageSize) :
    ofCompactList text fallback defaultSize =
      if entries text = [] then .ok (fallback.map (first defaultSize))
      else (entries text).mapM fun entry =>
        (ReceivedRequest.ofCompact entry).check defaultSize := by
  unfold ofCompactList ReceivedRequest.checkAll
  cases entries text with
  | nil => rfl
  | cons entry entries =>
    change ((entry :: entries).map ReceivedRequest.ofCompact).mapM _ = _
    rw [if_neg (List.cons_ne_nil _ _), List.mapM_map]
    rfl

theorem ofCompactList_eq_ok_iff {text : String} {fallback : List S} {defaultSize : PageSize}
    {requests : List (ScopeRequest S)} :
    ofCompactList text fallback defaultSize = .ok requests ↔
      if entries text = [] then requests = fallback.map (first defaultSize)
      else List.Forall₂ (CompactEntry.Denotes defaultSize) (entries text) requests := by
  rw [ofCompactList_eq]
  split
  · exact ⟨fun h => (Except.ok.inj h).symm, fun h => congrArg Except.ok h.symm⟩
  · simp only [mapM_eq_ok_iff, CompactEntry.check_eq_ok_iff]

theorem reports_ofCompactList (text : String) (fallback : List S) (defaultSize : PageSize) :
    Reports (CompactEntry.Fault S) (ofCompactList text fallback defaultSize) (entries text) := by
  rw [ofCompactList_eq]
  split
  · next hnone =>
    rw [hnone]
    exact .ok _
  · exact .mapM (fun _ _ => CompactEntry.check_eq_error_iff) _

/-- A cursor that is read from a list has a place in one. -/
theorem compactCursor_of_ofCompactList {text : String} {fallback : List S}
    {defaultSize : PageSize} {requests : List (ScopeRequest S)}
    (h : ofCompactList text fallback defaultSize = .ok requests) :
    ∀ r ∈ requests, CompactCursor r.continueAfter.value := by
  have hentries : ∀ {texts : List String}, (∀ entry ∈ texts, entry ∈ entries text) →
      ∀ {rs : List (ScopeRequest S)}, List.Forall₂ (CompactEntry.Denotes defaultSize) texts rs →
        ∀ r ∈ rs, CompactCursor r.continueAfter.value := by
    intro texts hmem rs hdenotes
    induction hdenotes with
    | nil => simp
    | @cons entry r texts rs hfirst _ ih =>
      obtain ⟨hcomma, hend⟩ := mem_entries (hmem entry List.mem_cons_self)
      exact List.forall_mem_cons.2 ⟨hfirst.compactCursor hcomma hend,
        ih fun entry hentry => hmem entry (List.mem_cons_of_mem _ hentry)⟩
  rw [ofCompactList_eq_ok_iff] at h
  split at h
  · rw [h]
    intro r hr
    obtain ⟨t, -, rfl⟩ := List.mem_map.1 hr
    exact nofun
  · exact hentries (fun _ => id) h

/-- Written down and read back, a request is the same. -/
theorem ofCompactList_compact {requests : List (ScopeRequest S)} (hne : requests ≠ [])
    (h : ∀ r ∈ requests, CompactCursor r.continueAfter.value) (fallback : List S)
    (defaultSize : PageSize) :
    ofCompactList (",".intercalate (requests.map compact)) fallback defaultSize = .ok requests := by
  -- a request as it is received if nothing of it is left open
  let received (r : ScopeRequest S) : ReceivedRequest :=
    ⟨Tag.name r.scope, some (.int r.pageSize.value), r.continueAfter.value⟩
  have hform : ∀ q ∈ requests.map received, q.HasCompactForm := by
    intro q hq
    obtain ⟨r, hr, rfl⟩ := List.mem_map.1 hq
    exact ⟨ReceivedRequest.unseparated_name r.scope, .integer _, h r hr⟩
  have htext : ",".intercalate (requests.map compact) =
      ReceivedRequest.compactList (requests.map received) := by
    unfold ReceivedRequest.compactList
    rw [List.map_map]
    rfl
  have hcheck : ∀ r : ScopeRequest S, (received r).check defaultSize = .ok r := by
    intro r
    have hsize : PageSize.ofJson (.int r.pageSize.value) = .ok r.pageSize :=
      PageSize.ofJson_eq_ok_iff.2 .integer
    rw [ReceivedRequest.check_name, hsize, Cursor.ofOption_value]
    rfl
  rw [htext, ofCompactList_compactList hform]
  unfold ReceivedRequest.checkAll
  cases requests with
  | nil => exact absurd rfl hne
  | cons r requests =>
    change ((r :: requests).map received).mapM _ = _
    rw [mapM_eq_ok_iff, List.forall₂_map_left_iff, List.forall₂_same]
    exact fun q _ => hcheck q

/-- The entries of a list are the pieces between its commas, trimmed, as far as something is left of
them. A list without entries stands for the fallback; any other is read as what its entries stand
for, one request for each and in their order, or else it is refused for the leftmost entry with
which something is wrong. There is something wrong with just those entries that stand for nothing.
Requests that are written down are read back, unless a cursor holds a comma or ends with a blank
character. -/
theorem ofCompactList_follows_grammar (text : String) (fallback : List S)
    (defaultSize : PageSize) :
    (∃ pieces : List String, ",".intercalate pieces = text ∧ (∀ p ∈ pieces, ',' ∉ p.toList) ∧
      let entries := (pieces.map trim).filter (· ≠ "")
      (∀ requests : List (ScopeRequest S),
        ofCompactList text fallback defaultSize = .ok requests ↔
          if entries = [] then requests = fallback.map fun t => ⟨t, defaultSize, .none⟩
          else List.Forall₂ (CompactEntry.Denotes defaultSize) entries requests) ∧
      (∀ e, ofCompactList text fallback defaultSize = .error e ↔
        Leftmost (CompactEntry.Fault S) entries e)) ∧
    (∀ entry : String, (∃ r : ScopeRequest S, CompactEntry.Denotes defaultSize entry r) ↔
      ∀ e, ¬ CompactEntry.Fault S entry e) ∧
    ∀ (r : ScopeRequest S) (requests : List (ScopeRequest S)),
      ofCompactList (",".intercalate ((r :: requests).map compact)) fallback defaultSize =
        .ok (r :: requests) ↔ ∀ q ∈ r :: requests, CompactCursor q.continueAfter.value := by
  refine ⟨?_, CompactEntry.exists_denotes_iff defaultSize, fun r requests =>
    ⟨compactCursor_of_ofCompactList, fun h =>
      ofCompactList_compact (List.cons_ne_nil _ _) h fallback defaultSize⟩⟩
  obtain ⟨pieces, htext, hcommas, hentries⟩ := exists_pieces text
  refine ⟨pieces, htext, hcommas, ?_⟩
  rw [← hentries]
  exact ⟨fun _ => ofCompactList_eq_ok_iff, reports_ofCompactList text fallback defaultSize⟩

example : ofCompactList "license, topics:5:abc:def , labels: +7:null" [] .one = .ok
    [⟨RepositoryScope.license, .one, .none⟩,
      ⟨.topics, ⟨5, by decide, by decide⟩, ⟨"abc:def", by decide⟩⟩,
      ⟨.labels, ⟨7, by decide, by decide⟩, .none⟩] := by decide

end ScopeRequest

end ScopeComposer
