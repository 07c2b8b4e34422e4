import ScopeComposer.Proofs.Compose.Account
import ScopeComposer.Proofs.Graphql.DocumentLines

/-!
# Lines that ask for totals

Whether totals are selected makes no difference to a document but for the lines that ask for them:
once those are deleted, the same lines remain. The relation `SameButTotals` between parts says so,
and it passes through the levels of a document in the same way as the reading of its fields.
-/

namespace ScopeComposer

open Graphql Text

namespace Graphql

/-! ## Parts -/

/-- The lines of some parts that say something other than that a total is wanted. -/
def linesBesidesTotals (parts : List String) : List (List Char) :=
  (parts.flatMap fun p => contentLines p.toList).filter (· ≠ totalCount.toList)

/-- Lines are told part by part, since parts are never joined within a line. -/
theorem linesBesidesTotals_append (parts more : List String) : linesBesidesTotals (parts ++ more) =
    linesBesidesTotals parts ++ linesBesidesTotals more := by
  rw [linesBesidesTotals, List.flatMap_append, List.filter_append]
  rfl

/-- Two lists of parts that differ in lines that ask for totals only. -/
structure SameButTotals (parts parts' : List String) : Prop where
  /-- A carriage return in front of a line feed would be lost. -/
  no_return : (∀ p ∈ parts, '\r' ∉ p.toList) ∧ ∀ p ∈ parts', '\r' ∉ p.toList
  /-- The other lines are the same. -/
  lines : linesBesidesTotals parts = linesBesidesTotals parts'

namespace SameButTotals

variable {parts parts' more more' : List String} {body body' : String}

/-- Texts that are read as fields are the same as themselves: what is asked for is that they can be
read. -/
theorem refl {fields : List Selection} (h : Reads parts fields) : SameButTotals parts parts :=
  ⟨⟨h.no_return, h.no_return⟩, rfl⟩

theorem append (h : SameButTotals parts parts') (hmore : SameButTotals more more') :
    SameButTotals (parts ++ more) (parts' ++ more') where
  no_return :=
    ⟨fun p hp => (List.mem_append.1 hp).elim (h.no_return.1 p) (hmore.no_return.1 p),
      fun p hp => (List.mem_append.1 hp).elim (h.no_return.2 p) (hmore.no_return.2 p)⟩
  lines := by rw [linesBesidesTotals_append, linesBesidesTotals_append, h.lines, hmore.lines]

theorem cons (h : SameButTotals [body] [body']) (hparts : SameButTotals parts parts') :
    SameButTotals (body :: parts) (body' :: parts') := append h hparts

theorem flatMap {α : Type} {text text' : α → List String} {items : List α}
    (h : ∀ a ∈ items, SameButTotals (text a) (text' a)) :
    SameButTotals (items.flatMap text) (items.flatMap text') := by
  induction items with
  | nil => exact refl Reads.nil
  | cons a items ih =>
    rw [List.flatMap_cons, List.flatMap_cons]
    exact append (h a List.mem_cons_self) (ih fun b hb => h b (List.mem_cons_of_mem _ hb))

theorem map {α : Type} {text text' : α → String} {items : List α}
    (h : ∀ a ∈ items, SameButTotals [text a] [text' a]) :
    SameButTotals (items.map text) (items.map text') := by
  rw [List.map_eq_flatMap, List.map_eq_flatMap]
  exact flatMap h

/-- What is made of parts line by line does not tell them apart. -/
theorem of_contentLines {part part' : String}
    (hpart : '\r' ∉ part.toList ∧ contentLines part.toList =
      parts.flatMap fun p => contentLines p.toList)
    (hpart' : '\r' ∉ part'.toList ∧ contentLines part'.toList =
      parts'.flatMap fun p => contentLines p.toList)
    (h : SameButTotals parts parts') : SameButTotals [part] [part'] where
  no_return := ⟨by simpa using hpart.1, by simpa using hpart'.1⟩
  lines := by
    have hlines := h.lines
    unfold linesBesidesTotals at hlines ⊢
    rw [List.flatMap_singleton, List.flatMap_singleton, hpart.2, hpart'.2, hlines]

/-- Putting parts on lines of their own adds no line. -/
theorem stack (h : SameButTotals parts parts') :
    SameButTotals [Graphql.stack parts] [Graphql.stack parts'] :=
  of_contentLines (contentLines_stack h.no_return.1) (contentLines_stack h.no_return.2) h

theorem join {first first' second second' : String}
    (h : SameButTotals [first, second] [first', second']) :
    SameButTotals [first ++ "\n" ++ second] [first' ++ "\n" ++ second'] := by
  have hjoined : ∀ first second : String, (∀ p ∈ [first, second], '\r' ∉ p.toList) →
      '\r' ∉ (first ++ "\n" ++ second).toList ∧ contentLines (first ++ "\n" ++ second).toList =
        [first, second].flatMap fun p => contentLines p.toList := by
    intro first second hr
    obtain ⟨hreturn, hlines⟩ := contentLines_join (hr first (by simp)) (hr second (by simp))
    exact ⟨hreturn, by simpa using hlines⟩
  exact of_contentLines (hjoined _ _ h.no_return.1) (hjoined _ _ h.no_return.2) h

/-- The head of a block and its closing brace are lines of their own, whatever stands between. -/
theorem block {h : Head} (hnamed : h.isNamed = true) (hbody : SameButTotals [body] [body']) :
    SameButTotals [Graphql.block h.text body] [Graphql.block h.text body'] := by
  obtain ⟨hr, hn⟩ := (lexesTo_head hnamed).one_line
  obtain ⟨hreturn, hlines⟩ := contentLines_block hr hn (hbody.no_return.1 body List.mem_cons_self)
  obtain ⟨hreturn', hlines'⟩ :=
    contentLines_block hr hn (hbody.no_return.2 body' List.mem_cons_self)
  refine ⟨⟨by simpa using hreturn, by simpa using hreturn'⟩, ?_⟩
  have hinner := hbody.lines
  unfold linesBesidesTotals at hinner ⊢
  rw [List.flatMap_singleton, List.flatMap_singleton] at hinner ⊢
  rw [hlines, hlines']
  simp only [List.filter_append, List.filter_cons, hinner]

theorem namedBlock (name : String) (h : isName name = true)
    (hbody : SameButTotals [body] [body']) :
    SameButTotals [Graphql.block name body] [Graphql.block name body'] := by
  have hblock := block (isNamed_plain h) hbody
  rwa [show (Head.plain name).text = name from String.ext (text_plain name)] at hblock

/-- The only place where the two differ. -/
theorem total (withTotal withTotal' : Bool) : SameButTotals
    [if withTotal then totalCount else ""] [if withTotal' then totalCount else ""] := by
  have hreturn : ∀ withTotal : Bool, ∀ p ∈ [if withTotal then totalCount else ""],
      '\r' ∉ p.toList := by
    decide
  have hnone : ∀ withTotal : Bool,
      linesBesidesTotals [if withTotal then totalCount else ""] = [] := by
    decide
  exact ⟨⟨hreturn _, hreturn _⟩, by rw [hnone, hnone]⟩

/-- The total count stands on a line of its own, and nothing else depends on whether it is there. -/
theorem collection {h : Head} (hnamed : h.isNamed = true) (withTotal withTotal' : Bool)
    (hnodes : SameButTotals [body] [body']) : SameButTotals
      [Graphql.collection h.text withTotal body] [Graphql.collection h.text withTotal' body'] := by
  have htop := join (cons (total withTotal withTotal') (refl Reads.pageInfo))
  exact block hnamed (join (cons htop (namedBlock "nodes" (by decide) hnodes)))

theorem scopedCollection (name : String) (fields : List Field) (h : isName name = true)
    (hfields : fieldsNamed fields = true) (w : PageWindow) (options options' : DocumentOptions) :
    SameButTotals [Graphql.scopedCollection name w options fields]
      [Graphql.scopedCollection name w options' fields] := by
  have hall := collection (isNamed_windowHead name h w) options.withTotals options'.withTotals
    (refl (Reads.layout hfields 1))
  rwa [text_windowHead rfl] at hall

end SameButTotals

end Graphql

/-! ## Levels -/

variable (options options' : DocumentOptions)

/-- Each state has its own collection, and so its own total count. -/
theorem MilestoneIssues.text_sameButTotals (s : MilestoneIssues) :
    SameButTotals [s.text options] [s.text options'] := by
  refine SameButTotals.stack (SameButTotals.map fun state _ => ?_)
  have hfields : Reads [layout 1 issueFields] (fieldSelections issueFields) :=
    Reads.layout (by decide) 1
  have hall := SameButTotals.collection (s.isNamed_fieldHead state) options.withTotals
    options'.withTotals (SameButTotals.refl hfields)
  rwa [text_fieldHead] at hall

/-- The parts of a milestone come in the order of their depths, with or without total counts. -/
theorem MilestoneConfig.body_sameButTotals (c : MilestoneConfig) :
    SameButTotals [c.body options] [c.body options'] := by
  have hnumber := SameButTotals.refl (Reads.name "number" (by decide))
  refine SameButTotals.stack (SameButTotals.cons hnumber (SameButTotals.map fun depth _ => ?_))
  cases depth with
  | info =>
    have hinfo : Reads [layout 1 milestoneInfo] (fieldSelections milestoneInfo) :=
      Reads.layout (by decide) 1
    exact SameButTotals.refl hinfo
  | issues => exact c.issues.text_sameButTotals options options'

theorem MilestoneConfig.text_sameButTotals (c : MilestoneConfig) :
    SameButTotals [c.text options] [c.text options'] := by
  have hbody := c.body_sameButTotals options options'
  cases haddress : c.address with
  | single number =>
    obtain ⟨hnamed, htext⟩ := singleHead_named number
    have hall := SameButTotals.block hnamed hbody
    rw [htext] at hall
    simpa only [text, haddress] using hall
  | list =>
    obtain ⟨hnamed, htext⟩ := listHead_named c.window
    have hall := SameButTotals.collection hnamed options.withTotals options'.withTotals hbody
    rw [htext] at hall
    simpa only [text, haddress] using hall

namespace RepositoryConfig

theorem milestoneText_sameButTotals (c : RepositoryConfig)
    (scopes : ResolvedScopes RepositoryScope) :
    SameButTotals (c.milestoneText scopes options) (c.milestoneText scopes options') :=
  SameButTotals.map fun level _ => level.text_sameButTotals options options'

/-- What a scope of a repository contributes depends on the option in the lines of total counts
only. The cases are the scopes. -/
theorem parts_sameButTotals (c : RepositoryConfig) (scopes : ResolvedScopes RepositoryScope)
    (scope : RepositoryScope) :
    SameButTotals (c.parts scopes options scope) (c.parts scopes options' scope) := by
  have hfixed := fun scope => SameButTotals.refl (c.reads_parts scopes options scope)
  have hscoped := fun name fields h hfields =>
    SameButTotals.scopedCollection name fields h hfields (scopes.windowOf scope) options options'
  have hmilestones := c.milestoneText_sameButTotals options options' scopes
  cases scope with
  | count => exact hfixed .count
  | info => exact hfixed .info
  | license => exact hfixed .license
  | vulnerabilities => exact hscoped _ _ (by decide) (by decide)
  | topics => exact hscoped _ _ (by decide) (by decide)
  | labels => exact hscoped _ _ (by decide) (by decide)
  | releases => exact hscoped _ _ (by decide) (by decide)
  | deployments => exact hscoped _ _ (by decide) (by decide)
  | languages =>
    have hprimary : Reads [block "primaryLanguage" (layout 1 languageFields)]
        [.node (.plain "primaryLanguage") (fieldSelections languageFields)] :=
      Reads.namedBlock _ (by decide) (Reads.layout (by decide) 1)
    exact SameButTotals.join
      (SameButTotals.cons (SameButTotals.refl hprimary) (hscoped _ _ (by decide) (by decide)))
  | milestones => exact hmilestones
  | issues =>
    cases hcontains : scopes.contains .milestones with
    | true => simpa [parts, hcontains] using SameButTotals.refl Reads.nil
    | false => simpa [parts, hcontains] using hmilestones
  | all => exact hfixed .all

theorem body_sameButTotals (c : RepositoryConfig) (scopes : ResolvedScopes RepositoryScope) :
    SameButTotals [c.body scopes options] [c.body scopes options'] :=
  SameButTotals.stack (SameButTotals.cons (SameButTotals.refl (Reads.name "name" (by decide)))
    (SameButTotals.flatMap fun scope _ => c.parts_sameButTotals options options' scopes scope))

/-- Whether the repositories are reduced to their number does not depend on the options. -/
theorem linkedSelection_sameButTotals (c : RepositoryConfig) (w : PageWindow) :
    SameButTotals [c.linkedSelection w options] [c.linkedSelection w options'] := by
  cases honly : (ResolvedScopes.resolve c.scopes).asksOnlyNumber with
  | true =>
    have hsame : c.linkedSelection w options = c.linkedSelection w options' := by
      simp [linkedSelection, honly]
    rw [← hsame]
    exact SameButTotals.refl (c.reads_linked w options)
  | false =>
    obtain ⟨hnamed, htext⟩ := linkedHead_named w
    have hall := SameButTotals.collection hnamed
      (options.withTotals || (ResolvedScopes.resolve c.scopes).asksNumber)
      (options'.withTotals || (ResolvedScopes.resolve c.scopes).asksNumber)
      (c.body_sameButTotals options options' (.resolve c.scopes))
    rw [htext] at hall
    simpa [linkedSelection, honly] using hall

end RepositoryConfig

namespace ProjectConfig

theorem body_sameButTotals (c : ProjectConfig) :
    SameButTotals [c.body options] [c.body options'] := by
  have hnumber := SameButTotals.refl (Reads.name "number" (by decide))
  have htitle := SameButTotals.refl (Reads.name "title" (by decide))
  refine SameButTotals.stack (SameButTotals.cons hnumber (SameButTotals.cons htitle
    (SameButTotals.map fun scope _ => ?_)))
  cases scope with
  | info =>
    have hinfo : Reads [layout 1 projectInfo] (fieldSelections projectInfo) :=
      Reads.layout (by decide) 1
    exact SameButTotals.refl hinfo
  | repositories => exact c.repositories.linkedSelection_sameButTotals options options' _

theorem selection_sameButTotals (c : ProjectConfig) (address : ProjectAddress) :
    SameButTotals [c.selection address options] [c.selection address options'] := by
  have hbody := c.body_sameButTotals options options'
  match address with
  | .single (.name name) =>
    have hnodes := SameButTotals.namedBlock "nodes" (by decide) hbody
    have hall := SameButTotals.block (isNamed_nameHead name) hnodes
    rwa [text_nameHead] at hall
  | .single (.number number) =>
    obtain ⟨hnamed, htext⟩ := singleHead_named number
    have hall := SameButTotals.block hnamed hbody
    rwa [htext] at hall
  | .list w =>
    obtain ⟨hnamed, htext⟩ := listHead_named w
    have hall := SameButTotals.collection hnamed options.withTotals options'.withTotals hbody
    rwa [htext] at hall

end ProjectConfig

/-- Which scopes of an account are in effect does not depend on whether totals are wanted. -/
theorem AccountConfig.selection_sameButTotals (c : AccountConfig) (kind : AccountKind)
    (withTotals withTotals' withEssential : Bool) :
    SameButTotals [c.selection kind ⟨withTotals, withEssential⟩]
      [c.selection kind ⟨withTotals', withEssential⟩] := by
  refine SameButTotals.stack (SameButTotals.flatMap fun scope _ => ?_)
  cases scope with
  | essential =>
    have hfields : fieldsNamed kind.essentialFields = true := by cases kind <;> decide
    cases kind <;> exact SameButTotals.refl (Reads.layout hfields 1)
  | info =>
    have hfields : fieldsNamed kind.infoFields = true := by cases kind <;> decide
    cases kind <;> exact SameButTotals.refl (Reads.layout hfields 1)
  | packages => exact SameButTotals.scopedCollection _ _ (by decide) (by decide) _ _ _
  | projects => exact c.projects.selection_sameButTotals _ _ _
  | all => exact SameButTotals.refl Reads.nil

/-! ## Documents -/

/-- The first and the last line of a document stand around the lines of its root, none of which is
blank. -/
theorem filter_lines_document {root : String} (hr : '\r' ∉ root.toList)
    (hne : contentLines root.toList ≠ []) : (lines (document root)).filter (· ≠ totalCount) =
      "query \x7b" :: (linesBesidesTotals [root]).map String.ofList ++ ["\x7d"] := by
  have hchars : ∀ line : List Char, String.ofList line = totalCount ↔ line = totalCount.toList := by
    intro line
    rw [← String.toList_inj, String.toList_ofList]
  have hkept : ((contentLines root.toList).map String.ofList).filter (· ≠ totalCount) =
      (linesBesidesTotals [root]).map String.ofList := by
    simp [linesBesidesTotals, List.filter_map, Function.comp_def, hchars]
  have hclose : ["\x7d"].filter (· ≠ totalCount) = ["\x7d"] := by decide
  rw [lines_document hr hne, List.filter_append, List.filter_cons_of_pos (by decide), hkept, hclose]

/-- Documents for one account that differ in lines that ask for totals only have the same other
lines. -/
theorem Account.filter_lines_root (account : Account) {body body' : String}
    (h : SameButTotals [body] [body']) :
    (lines (document (account.root body))).filter (· ≠ totalCount) =
      (lines (document (account.root body'))).filter (· ≠ totalCount) := by
  have hlogin := SameButTotals.refl (Reads.name "login" (by decide))
  have hbody := SameButTotals.stack (SameButTotals.cons hlogin h)
  have hroot := SameButTotals.block account.isNamed_head hbody
  obtain ⟨hr, hn⟩ := (lexesTo_head account.isNamed_head).one_line
  -- a block has a head, so that the document has something in it
  have hne : ∀ body : String, '\r' ∉ body.toList →
      contentLines (block account.head.text body).toList ≠ [] := by
    intro body hbody
    rw [(contentLines_block hr hn hbody).2]
    simp
  rw [text_head] at hroot hne
  unfold root
  rw [filter_lines_document (hroot.no_return.1 _ List.mem_cons_self)
      (hne _ (hbody.no_return.1 _ List.mem_cons_self)),
    filter_lines_document (hroot.no_return.2 _ List.mem_cons_self)
      (hne _ (hbody.no_return.2 _ List.mem_cons_self)), hroot.lines]

/-- Two documents for an account that differ in the option differ in the lines of total counts only.
-/
theorem filter_lines_accountDocument (account : Account) (c : AccountConfig)
    (withTotals withTotals' withEssential : Bool) :
    (lines (accountDocument account c ⟨withTotals, withEssential⟩)).filter (· ≠ totalCount) =
      (lines (accountDocument account c ⟨withTotals', withEssential⟩)).filter (· ≠ totalCount) :=
  account.filter_lines_root (c.selection_sameButTotals account.kind _ _ _)

/-- The same for documents for a project, which the other option leaves alone. -/
theorem filter_lines_projectDocument (account : Account) (identity : ProjectIdentity)
    (c : ProjectConfig) (options options' : DocumentOptions) :
    (lines (projectDocument account identity c options)).filter (· ≠ totalCount) =
      (lines (projectDocument account identity c options')).filter (· ≠ totalCount) :=
  account.filter_lines_root (c.selection_sameButTotals options options' _)

end ScopeComposer
