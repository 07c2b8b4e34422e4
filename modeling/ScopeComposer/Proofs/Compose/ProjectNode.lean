import ScopeComposer.Proofs.Compose.RepositoryNode
import ScopeComposer.Proofs.Text.Numeral

/-!
# Project nodes

How a raw identifier addresses a project, and what is selected of it. An identifier that is a
numeral of 64 bits fetches the project with that number; any other is looked up as a name. The same
node is selected of either project, and of every project in a list.
-/

namespace ScopeComposer

open Graphql Text

/-! ## Identifiers -/

namespace ProjectIdentity

/-- The numbers that an identifier can address are those of which it is a numeral. -/
theorem exists_number_iff (raw : String) (n : Nat) :
    (∃ number, ofRaw raw = .number number ∧ number.toNat = n) ↔
      n < UInt64.size ∧ UnsignedNumeral (trim raw).toList n := by
  rw [← readBelow_eq_some_iff, ofRaw]
  cases hresult : readBelow UInt64.size (trim raw) with
  | none => exact ⟨nofun, nofun⟩
  | some value =>
    have hvalue : (UInt64.ofNat value).toNat = value :=
      UInt64.toNat_ofNat_of_lt' (readBelow_eq_some_iff.1 hresult).1
    constructor
    · rintro ⟨_, ⟨⟩, rfl⟩
      rw [hvalue]
    · rintro ⟨⟩
      exact ⟨_, rfl, hvalue⟩

/-- What is not a number is a name as it was given, but for the blank characters around it. -/
theorem eq_trim_of_ofRaw {raw name : String} (h : ofRaw raw = .name name) : name = trim raw := by
  unfold ofRaw at h
  cases hresult : readBelow UInt64.size (trim raw) with
  | none => simpa [hresult] using h.symm
  | some n => simp [hresult] at h

example : ofRaw "\u2003+007 " = .number 7 ∧ ofRaw "18446744073709551616" =
    .name "18446744073709551616" := by decide

end ProjectIdentity

/-! ## Lines -/

/-- The document for an account has the login of the account first, and then what is selected of
it. -/
theorem lines_rootDocument (account : Account) {body : String} (h : '\r' ∉ body.toList) :
    lines (document (account.root body)) = "query \x7b" ::
      (account.kind.text ++ "(login: " ++ literal account.login ++ ") \x7b") :: "login" ::
        contentTexts body ++ ["\x7d", "\x7d"] := by
  have hparts : ∀ p ∈ ["login", body], '\r' ∉ p.toList := by simpa using h
  obtain ⟨hr, hn⟩ := (lexesTo_head account.isNamed_head).one_line
  rw [account.text_head] at hr hn
  obtain ⟨hreturn, hlines⟩ := contentTexts_stack_name (by decide) hparts
  have hall := lines_document_block hr hn hreturn
  rwa [append_opening, hlines, List.flatMap_singleton] at hall

namespace ProjectConfig

variable (c : ProjectConfig) (options : DocumentOptions)

/-- The text of a node says something: it has at least the number and the title. -/
theorem contentTexts_body : '\r' ∉ (c.body options).toList ∧
    contentTexts (c.body options) ≠ [] := by
  obtain ⟨hreturn, hlines⟩ :=
    contentTexts_stack_name (by decide) (c.reads_parts options).no_return
  exact ⟨hreturn, fun hnil => List.cons_ne_nil _ _ (hlines.symm.trans hnil)⟩

/-- The document for a project has the lines of the field that fetches it. -/
theorem lines_projectDocument (account : Account) (identity : ProjectIdentity) :
    lines (projectDocument account identity c options) = "query \x7b" ::
      (account.kind.text ++ "(login: " ++ literal account.login ++ ") \x7b") :: "login" ::
        contentTexts (c.selection (.single identity) options) ++ ["\x7d", "\x7d"] :=
  lines_rootDocument account
    ((c.reads (.single identity) options).no_return _ List.mem_cons_self)

theorem contentTexts_number (number : UInt64) :
    contentTexts (c.selection (.single (.number number)) options) =
      ("projectV2(number: " ++ toString number ++ ") \x7b") :: contentTexts (c.body options) ++
        ["\x7d"] := by
  obtain ⟨hnamed, htext⟩ := singleHead_named number
  obtain ⟨hr, hn⟩ := (lexesTo_head hnamed).one_line
  rw [htext] at hr hn
  obtain ⟨-, hlines⟩ := contentTexts_block hr hn (c.contentTexts_body options).1
  rwa [append_opening] at hlines

theorem contentTexts_name (name : String) :
    contentTexts (c.selection (.single (.name name)) options) =
      ("projectsV2(query: " ++ literal name ++ ", first: 1) \x7b") :: "nodes \x7b" ::
        contentTexts (c.body options) ++ ["\x7d", "\x7d"] := by
  have hnodes : '\r' ∉ "nodes".toList ∧ '\n' ∉ "nodes".toList := by decide
  have hopen : "nodes" ++ " \x7b" = "nodes \x7b" := by decide
  have hend : ", first: 1)" ++ " \x7b" = ", first: 1) \x7b" := by decide
  have hfirst : "projectsV2(query: " ++ literal name ++ ", first: 1)" ++ " \x7b" =
      "projectsV2(query: " ++ literal name ++ ", first: 1) \x7b" := by
    rw [String.append_assoc, hend]
  obtain ⟨hr, hn⟩ := (lexesTo_head (isNamed_nameHead name)).one_line
  rw [text_nameHead] at hr hn
  obtain ⟨hinner, hlines⟩ := contentTexts_block hnodes.1 hnodes.2 (c.contentTexts_body options).1
  obtain ⟨-, houter⟩ := contentTexts_block hr hn hinner
  rw [hlines, hopen, hfirst] at houter
  refine houter.trans ?_
  simp only [List.cons_append, List.append_assoc, List.nil_append]

theorem lines_listSelection (w : PageWindow) :
    lines (c.selection (.list w) options) = ("projectsV2(" ++ w.arguments ++ ") \x7b") ::
      ((if options.withTotals then ["totalCount"] else []) ++
        ["pageInfo \x7b", "    endCursor", "    hasNextPage", "\x7d"] ++
        "nodes \x7b" :: contentTexts (c.body options) ++ ["\x7d"]) ++ ["\x7d"] := by
  have hpages : contentTexts pageInfo =
      ["pageInfo \x7b", "    endCursor", "    hasNextPage", "\x7d"] := by decide
  obtain ⟨hnamed, htext⟩ := listHead_named w
  obtain ⟨-, hn⟩ := (lexesTo_head hnamed).one_line
  rw [htext] at hn
  have hall := lines_collection hn (c.contentTexts_body options).1 options.withTotals
  rwa [hpages, append_opening] at hall

end ProjectConfig

/-! ## Nodes -/

/-- The document for the project of a raw identifier has a single field after the login of the
account. The field fetches the project with a number if the identifier, but for the blank characters
around it, is a numeral of this number and the number has 64 bits; if it is no such numeral, the
field looks for the identifier as a name and takes the first match. The node has the same lines
either way, and it has them in a list of projects, too. -/
theorem projectDocument_ofRaw (account : Account) (raw : String) (c : ProjectConfig)
    (options : DocumentOptions) :
    let document := projectDocument account (.ofRaw raw) c options
    let node := contentTexts (c.body options)
    let numbered (n : Nat) : Selection :=
      .node ⟨none, "projectV2", [⟨"number", .scalar (.int n)⟩]⟩ (c.fields options)
    let named : Selection :=
      .node ⟨none, "projectsV2", [⟨"query", .scalar (.string (trim raw))⟩,
        ⟨"first", .scalar (.int 1)⟩]⟩ [.node (.plain "nodes") (c.fields options)]
    let rootLines (field : List String) : List String := "query \x7b" ::
      (account.kind.text ++ "(login: " ++ literal account.login ++ ") \x7b") :: "login" ::
        field ++ ["\x7d", "\x7d"]
    (∃ field, parse? document = some [.node account.head [.leaf (.plain "login"), field]] ∧
      ((∃ n, field = numbered n) ∨ field = named) ∧
      (∀ n, field = numbered n ↔ n < UInt64.size ∧ UnsignedNumeral (trim raw).toList n) ∧
      (∀ n, field = numbered n → lines document = rootLines
        (("projectV2(number: " ++ toString n ++ ") \x7b") :: node ++ ["\x7d"])) ∧
      (field = named → lines document = rootLines
        (("projectsV2(query: " ++ literal (trim raw) ++ ", first: 1) \x7b") :: "nodes \x7b" ::
          node ++ ["\x7d", "\x7d"]))) ∧
    ∀ w : PageWindow, lines (c.selection (.list w) options) =
      ("projectsV2(" ++ w.arguments ++ ") \x7b") ::
        ((if options.withTotals then ["totalCount"] else []) ++
          ["pageInfo \x7b", "    endCursor", "    hasNextPage", "\x7d"] ++
          "nodes \x7b" :: node ++ ["\x7d"]) ++ ["\x7d"] := by
  intro document node numbered named rootLines
  refine ⟨⟨c.field (.single (.ofRaw raw)) options, parse?_of_tokens
    (tokens?_projectDocument account (.ofRaw raw) c options), ?_⟩, c.lines_listSelection options⟩
  have hnumeral := ProjectIdentity.exists_number_iff raw
  have hsame : ∀ n n', numbered n = numbered n' ↔ n = n' := by
    intro n n'
    rw [← Int.ofNat_inj]
    simp [numbered]
  -- the name of the field alone tells an exact fetch from a lookup
  have hother : ∀ n, numbered n ≠ named := fun n heq =>
    absurd (congrArg (·.head.name) heq) (by decide : "projectV2" ≠ "projectsV2")
  have hlines : lines document = rootLines
      (contentTexts (c.selection (.single (.ofRaw raw)) options)) :=
    c.lines_projectDocument options account (.ofRaw raw)
  cases hidentity : ProjectIdentity.ofRaw raw with
  | number number =>
    rw [hidentity, c.contentTexts_number] at hlines
    have hfield : c.field (.single (.number number)) options = numbered number.toNat := rfl
    rw [hfield]
    refine ⟨.inl ⟨_, rfl⟩, fun n => ?_, fun n hn => ?_, fun hn => absurd hn (hother _)⟩
    · rw [← hnumeral n, hidentity]
      simp [hsame]
    · obtain rfl := (hsame _ _).1 hn
      exact hlines
  | name name =>
    obtain rfl := ProjectIdentity.eq_trim_of_ofRaw hidentity
    rw [hidentity, c.contentTexts_name] at hlines
    have hfield : c.field (.single (.name (trim raw))) options = named := rfl
    rw [hfield]
    refine ⟨.inr rfl, fun n => ⟨fun hn => absurd hn.symm (hother n), fun h => ?_⟩,
      fun n hn => absurd hn.symm (hother n), fun _ => hlines⟩
    obtain ⟨number, hnumber, -⟩ := (hnumeral n).2 h
    cases hidentity.symm.trans hnumber

end ScopeComposer
