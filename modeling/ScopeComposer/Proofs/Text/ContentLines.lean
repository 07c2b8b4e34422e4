import ScopeComposer.Text.Lines

/-!
# The lines that say something

Composed texts are put together from lines, and blank lines are dropped on the way. `contentLines`
is what such a text amounts to: its lines that are not blank, in order. On texts without carriage
returns (no composed text holds one) a line feed between two texts just parts their lines, and
lines written one below the other are read back.
-/

namespace ScopeComposer.Text

/-- The lines of a text that are not blank. -/
def contentLines (cs : List Char) : List (List Char) :=
  (lineChars cs).filter fun l => !l.all isBlank

/-! ## Pieces between separators -/

theorem splitChars_append (sep : Char) (cs ds : List Char) :
    splitChars sep (cs ++ sep :: ds) = splitChars sep cs ++ splitChars sep ds := by
  induction cs with
  | nil => simp [splitChars]
  | cons c cs ih =>
    by_cases hc : c = sep
    · simp [splitChars, hc, ih]
    · obtain ⟨piece, pieces, hsplit⟩ := List.exists_cons_of_ne_nil (splitChars_ne_nil sep cs)
      simp [splitChars, hc, ih, hsplit]

/-- Texts with separators between them have the pieces of all of them. -/
theorem splitChars_intercalate_eq_flatMap {sep : Char} {texts : List (List Char)}
    (hne : texts ≠ []) : splitChars sep ([sep].intercalate texts) =
      texts.flatMap (splitChars sep) := by
  induction texts with
  | nil => exact absurd rfl hne
  | cons t texts ih =>
    cases texts with
    | nil => simp
    | cons u texts =>
      rw [List.intercalate_cons_cons, List.append_assoc, List.singleton_append, splitChars_append,
        ih (List.cons_ne_nil _ _)]
      rfl

theorem splitChars_of_not_mem {sep : Char} {cs : List Char} (h : sep ∉ cs) :
    splitChars sep cs = [cs] := by
  induction cs with
  | nil => rfl
  | cons c cs ih =>
    obtain ⟨hc, hcs⟩ := List.ne_and_not_mem_of_not_mem_cons h
    simp [splitChars, Ne.symm hc, ih hcs]

/-- The characters of a piece are characters of the text, and none is the separator. -/
theorem mem_of_mem_splitChars {sep : Char} {cs piece : List Char} (h : piece ∈ splitChars sep cs) :
    ∀ c ∈ piece, c ∈ cs ∧ c ≠ sep := by
  induction cs generalizing piece with
  | nil =>
    obtain rfl : piece = [] := by simpa [splitChars] using h
    simp
  | cons d cs ih =>
    intro c hc
    by_cases hd : d = sep
    · rw [splitChars, if_pos hd] at h
      rcases List.mem_cons.1 h with rfl | h
      · simp at hc
      · exact ⟨List.mem_cons_of_mem _ (ih h c hc).1, (ih h c hc).2⟩
    · obtain ⟨first, pieces, hsplit⟩ := List.exists_cons_of_ne_nil (splitChars_ne_nil sep cs)
      rw [splitChars, if_neg hd, hsplit] at h
      rcases List.mem_cons.1 h with rfl | h
      · rcases List.mem_cons.1 hc with rfl | hc
        · exact ⟨List.mem_cons_self, hd⟩
        · have hfirst := ih (hsplit ▸ List.mem_cons_self) c hc
          exact ⟨List.mem_cons_of_mem _ hfirst.1, hfirst.2⟩
      · have hrest := ih (hsplit ▸ List.mem_cons_of_mem _ h) c hc
        exact ⟨List.mem_cons_of_mem _ hrest.1, hrest.2⟩

/-- No line ends within a line, whatever the text. -/
theorem newline_not_mem_of_mem_contentLines {cs line : List Char} (h : line ∈ contentLines cs) :
    '\n' ∉ line := by
  have hpieces : ∀ pieces : List (List Char), (∀ p ∈ pieces, '\n' ∉ p) →
      ∀ l ∈ linesOfPieces pieces, '\n' ∉ l := by
    intro pieces hnone
    fun_induction linesOfPieces pieces with
    | case1 => simp
    | case2 => simp
    | case3 last _ => simpa using hnone
    | case4 piece rest hrest ih =>
      have hpiece := hnone piece List.mem_cons_self
      have hdropped : '\n' ∉ dropReturn piece := by
        unfold dropReturn
        split
        · exact fun hmem => hpiece (List.dropLast_subset piece hmem)
        · exact hpiece
      intro l hl
      rcases List.mem_cons.1 hl with rfl | hl
      · exact hdropped
      · exact ih (fun p hp => hnone p (List.mem_cons_of_mem _ hp)) l hl
  have hsplit : ∀ p ∈ splitChars '\n' cs, '\n' ∉ p := fun p hp hmem =>
    (mem_of_mem_splitChars hp _ hmem).2 rfl
  exact hpieces _ hsplit line (List.mem_filter.1 h).1

/-! ## Texts without carriage returns -/

theorem dropReturn_eq_self {cs : List Char} (h : '\r' ∉ cs) : dropReturn cs = cs :=
  if_neg fun hlast => h (List.mem_of_getLast? hlast)

/-- Without carriage returns, the lines that are not blank are the pieces between line feeds that
are not blank: the only other difference is an empty last piece. -/
theorem contentLines_eq_filter {cs : List Char} (h : '\r' ∉ cs) :
    contentLines cs = (splitChars '\n' cs).filter fun l => !l.all isBlank := by
  have hpieces : ∀ pieces : List (List Char), (∀ p ∈ pieces, '\r' ∉ p) →
      (linesOfPieces pieces).filter (fun l => !l.all isBlank) =
        pieces.filter fun l => !l.all isBlank := by
    intro pieces hnone
    fun_induction linesOfPieces pieces with
    | case1 => rfl
    | case2 => rfl
    | case3 last _ => rfl
    | case4 piece rest hrest ih =>
      rw [dropReturn_eq_self (hnone piece List.mem_cons_self)]
      simp only [List.filter_cons]
      rw [ih fun p hp => hnone p (List.mem_cons_of_mem _ hp)]
  exact hpieces _ fun p hp hr => h (mem_of_mem_splitChars hp _ hr).1

/-- A line feed between two texts parts their lines. -/
theorem contentLines_append {cs ds : List Char} (hcs : '\r' ∉ cs) (hds : '\r' ∉ ds) :
    contentLines (cs ++ '\n' :: ds) = contentLines cs ++ contentLines ds := by
  have hboth : '\r' ∉ cs ++ '\n' :: ds := by simp [hcs, hds]
  rw [contentLines_eq_filter hboth, contentLines_eq_filter hcs, contentLines_eq_filter hds,
    splitChars_append, List.filter_append]

/-- A text on one line is its only line, or there is none if it is blank. -/
theorem contentLines_of_line {cs : List Char} (hr : '\r' ∉ cs) (hn : '\n' ∉ cs) :
    contentLines cs = if cs.all isBlank then [] else [cs] := by
  rw [contentLines_eq_filter hr, splitChars_of_not_mem hn]
  by_cases hblank : cs.all isBlank <;> simp [hblank]

/-- A blank text has no line that says something. -/
theorem contentLines_of_blank {cs : List Char} (hr : '\r' ∉ cs) (h : cs.all isBlank = true) :
    contentLines cs = [] := by
  rw [contentLines_eq_filter hr, List.filter_eq_nil_iff]
  intro piece hpiece
  have hall : ∀ c ∈ piece, isBlank c = true := fun c hc =>
    List.all_eq_true.1 h c (mem_of_mem_splitChars hpiece c hc).1
  simpa using hall

/-- The characters of a line that says something are characters of the text, and neither of the two
that end a line is among them. -/
theorem mem_contentLines {cs line : List Char} (hr : '\r' ∉ cs) (h : line ∈ contentLines cs) :
    '\r' ∉ line ∧ '\n' ∉ line ∧ line.all isBlank = false := by
  rw [contentLines_eq_filter hr] at h
  obtain ⟨hpiece, hblank⟩ := List.mem_filter.1 h
  refine ⟨fun hc => hr (mem_of_mem_splitChars hpiece _ hc).1,
    fun hc => (mem_of_mem_splitChars hpiece _ hc).2 rfl, by simpa using hblank⟩

/-- Texts one below the other have the lines of all of them. -/
theorem contentLines_intercalate (texts : List (List Char)) (h : ∀ t ∈ texts, '\r' ∉ t) :
    '\r' ∉ ['\n'].intercalate texts ∧
      contentLines (['\n'].intercalate texts) = texts.flatMap contentLines := by
  induction texts with
  | nil => exact ⟨by simp, rfl⟩
  | cons t texts ih =>
    obtain ⟨hr, hlines⟩ := ih fun u hu => h u (List.mem_cons_of_mem _ hu)
    have ht := h t List.mem_cons_self
    cases texts with
    | nil => simpa using ht
    | cons u texts =>
      rw [List.intercalate_cons_cons, List.append_assoc, List.singleton_append, List.flatMap_cons,
        contentLines_append ht hr, hlines]
      exact ⟨by simp [ht, hr], rfl⟩

/-- Lines that say something, one below the other, are read back. -/
theorem contentLines_intercalate_lines (lines : List (List Char))
    (h : ∀ l ∈ lines, '\r' ∉ l ∧ '\n' ∉ l ∧ l.all isBlank = false) :
    contentLines (['\n'].intercalate lines) = lines := by
  rw [(contentLines_intercalate lines fun l hl => (h l hl).1).2]
  induction lines with
  | nil => rfl
  | cons l lines ih =>
    obtain ⟨hr, hn, hblank⟩ := h l List.mem_cons_self
    rw [List.flatMap_cons, ih fun m hm => h m (List.mem_cons_of_mem _ hm),
      contentLines_of_line hr hn]
    simp [hblank]

end ScopeComposer.Text
