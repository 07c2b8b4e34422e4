import ScopeComposer.CommandLine.Compose
import ScopeComposer.Proofs.Scope.Compact

/-!
# A body and the flags that say the same

What is selected of a project can be given as a body or by flags. A body whose parts have a place in
flags amounts to the same configuration as these flags, and if one of its parts is refused, the flags
are refused for the same reason: both ways check the same things in the same order.
-/

namespace ScopeComposer

/-- A list of names as one text. -/
def NameList.joinedText : NameList → String
  | .joined text => text
  | .separate items => ",".intercalate items

/-- Names that hold no comma are the same names when they are joined. -/
theorem NameList.tags_joinedText {S : Type} [DecidableEq S] [Tag S] {input : Option NameList}
    (h : ∀ items, input = some (.separate items) → ∀ s ∈ items, ',' ∉ s.toList)
    (fallback : List S) : tags (input.map fun names => .joined names.joinedText) fallback =
      tags input fallback := by
  cases input with
  | none => rfl
  | some names =>
    cases names with
    | joined text => rfl
    | separate items =>
      have hentries : (joined (separate items).joinedText).entries = (separate items).entries :=
        Text.entries_intercalate (h items rfl)
      unfold tags
      simp only [Option.map_some, hentries]

namespace ProjectBody

/-- A body whose parts have a place in flags. -/
structure HasCompactForm (b : ProjectBody) : Prop where
  /-- The requests for the project have compact forms. -/
  projectScopes : ∀ r ∈ b.projectScopes, r.HasCompactForm
  /-- The requests for its repositories have compact forms. -/
  repositoryScopes : ∀ r ∈ b.repositoryScopes, r.HasCompactForm
  /-- Issue states that are given one by one hold no comma. -/
  issueStates : ∀ items, b.issueStates = some (.separate items) → ∀ s ∈ items, ',' ∉ s.toList

/-- The flags for repositories that say the same as a body. -/
def repositoryFlags (b : ProjectBody) : CommandLine.RepositoryFlags where
  scopes := some (ReceivedRequest.compactList b.repositoryScopes)
  issueStates := b.issueStates.map NameList.joinedText
  milestone := none

open CommandLine

/-- A body and the flags that say the same give the same configuration, or are refused for the same
reason, whatever is set for requests that leave something open. -/
theorem validate_eq_projectConfig {b : ProjectBody} (h : b.HasCompactForm) (settings : Settings) :
    b.validate settings.defaultIssueStates settings.defaultPageSize =
      projectConfig settings (some (ReceivedRequest.compactList b.projectScopes))
        b.repositoryFlags := by
  have hproject : scopeRequests settings (some (ReceivedRequest.compactList b.projectScopes))
      ProjectScope.fallback = ReceivedRequest.checkAll b.projectScopes ProjectScope.fallback
        settings.defaultPageSize :=
    ScopeRequest.ofCompactList_compactList h.projectScopes _ _
  have hrepositories : scopeRequests settings b.repositoryFlags.scopes RepositoryScope.fallback =
      ReceivedRequest.checkAll b.repositoryScopes RepositoryScope.fallback
        settings.defaultPageSize :=
    ScopeRequest.ofCompactList_compactList h.repositoryScopes _ _
  have hstates : requestedStates settings b.repositoryFlags.issueStates =
      NameList.tags b.issueStates settings.defaultIssueStates := by
    have hjoined := NameList.tags_joinedText h.issueStates settings.defaultIssueStates
    unfold requestedStates repositoryFlags
    rw [Option.map_map]
    exact hjoined
  unfold validate projectConfig RepositoryFlags.validate
  rw [hproject, hrepositories, hstates]
  -- the flags check what concerns the repositories as a unit, a body one thing after the other
  simp only [bind_assoc]
  rfl

/-- Blank characters around a scope and a page size, a colon in a cursor and issue states one by one
all survive being written as flags. -/
theorem projectConfig_of_colon_in_cursor :
    let body : ProjectBody :=
      ⟨[⟨" info", none, none⟩, ⟨"repositories", some (.int 50), some "a:b"⟩],
        [⟨"topics", some (.str " 5 "), some ""⟩, ⟨"license", some .null, none⟩],
        some (.separate ["closed", " open "])⟩
    body.HasCompactForm ∧ body.validate [.opened] .one =
      projectConfig .standard (some " info::,repositories:50:a:b")
        ⟨some "topics: 5 :,license::", some "closed, open ", none⟩ := by
  intro body
  have hform : body.HasCompactForm := by
    refine ⟨?_, ?_, ?_⟩
    · simp only [body, List.forall_mem_cons, List.not_mem_nil, false_imp_iff, implies_true, and_true]
      exact ⟨⟨by decide, .absent, by decide⟩, ⟨by decide, .integer 50, by decide⟩⟩
    · simp only [body, List.forall_mem_cons, List.not_mem_nil, false_imp_iff, implies_true, and_true]
      exact ⟨⟨by decide, .text (by decide) (by decide), by decide⟩, ⟨by decide, .null, by decide⟩⟩
    · rintro items ⟨⟩
      decide
  exact ⟨hform, validate_eq_projectConfig hform .standard⟩

end ProjectBody

end ScopeComposer
