import ScopeComposer.CommandLine.Compose
import ScopeComposer.Proofs.Checks
import ScopeComposer.Proofs.Compose.DocumentLevels

/-!
# Commands for one milestone

Three commands take the number of the only milestone among their flags for repositories. The number
becomes the address of the milestone level on every way that leads through these flags. A project
that is described by a body takes another way, on which the flags for repositories are not looked
at: there the number is dropped, and the level is a page of the list of all milestones.
-/

namespace ScopeComposer

open Graphql

/-! ## One level and its address -/

namespace RepositoryConfig

variable {c : RepositoryConfig} {options : DocumentOptions} {s : Selection}

theorem length_levels_le_one (c : RepositoryConfig) (options : DocumentOptions) :
    (c.levels options).length ≤ 1 := by
  unfold levels
  dsimp only
  split
  · exact Nat.le_refl 1
  · exact Nat.zero_le 1

theorem eq_levelField_of_mem_levels (hs : s ∈ c.levels options) :
    s = c.levelField (.resolve c.scopes) options := by
  unfold levels at hs
  dsimp only at hs
  split at hs
  · exact List.mem_singleton.1 hs
  · exact absurd hs List.not_mem_nil

theorem head_of_single {number : UInt64} (haddress : c.milestone = .single number)
    (hs : s ∈ c.levels options) : s.head = numberHead "milestone" number := by
  rw [eq_levelField_of_mem_levels hs, levelField, haddress]
  rfl

theorem head_of_list (haddress : c.milestone = .list) (hs : s ∈ c.levels options) :
    ∃ w, s.head = windowHead "milestones" w := by
  rw [eq_levelField_of_mem_levels hs, levelField, haddress]
  exact ⟨_, (c.windowHead_eq (.resolve c.scopes)).symm⟩

end RepositoryConfig

theorem ProjectConfig.levels_eq_or (c : ProjectConfig) (options : DocumentOptions) :
    c.levels options = c.repositories.levels options ∨ c.levels options = [] := by
  unfold levels
  split
  · exact .inl rfl
  · exact .inr rfl

theorem AccountConfig.levels_eq_or (c : AccountConfig) (options : DocumentOptions) :
    c.levels options = c.projects.repositories.levels options ∨ c.levels options = [] := by
  unfold levels
  split
  · exact c.projects.levels_eq_or options
  · exact .inr rfl

namespace CommandLine

/-! ## The address from the flags -/

section Flags

variable {settings : Settings} {flags : RepositoryFlags}

theorem RepositoryFlags.milestone_of_validate {r : RepositoryConfig}
    (h : flags.validate settings = .ok r) : r.milestone = milestoneAddress flags.milestone := by
  obtain ⟨scopes, -, h⟩ := bind_eq_ok_iff.1 h
  obtain ⟨states, -, h⟩ := bind_eq_ok_iff.1 h
  obtain rfl := Except.ok.inj h
  rfl

theorem milestone_of_projectConfig {scopes : Option String} {p : ProjectConfig}
    (h : projectConfig settings scopes flags = .ok p) :
    p.repositories.milestone = milestoneAddress flags.milestone := by
  obtain ⟨scopes, -, h⟩ := bind_eq_ok_iff.1 h
  obtain ⟨repositories, hvalid, h⟩ := bind_eq_ok_iff.1 h
  obtain rfl := Except.ok.inj h
  exact RepositoryFlags.milestone_of_validate hvalid

theorem milestone_of_accountConfig {scopes projectScopes : Option String} {a : AccountConfig}
    (h : accountConfig settings scopes projectScopes flags = .ok a) :
    a.projects.repositories.milestone = milestoneAddress flags.milestone := by
  obtain ⟨scopes, -, h⟩ := bind_eq_ok_iff.1 h
  obtain ⟨projects, hvalid, h⟩ := bind_eq_ok_iff.1 h
  obtain rfl := Except.ok.inj h
  exact milestone_of_projectConfig hvalid

end Flags

/-- With a body all milestones are selected. -/
theorem milestone_of_body {b : ProjectBody} {states : List IssueState} {size : PageSize}
    {p : ProjectConfig} (h : b.validate states size = .ok p) :
    p.repositories.milestone = .list := by
  obtain ⟨projectScopes, -, h⟩ := bind_eq_ok_iff.1 h
  obtain ⟨repositoryScopes, -, h⟩ := bind_eq_ok_iff.1 h
  obtain ⟨states, -, h⟩ := bind_eq_ok_iff.1 h
  obtain rfl := Except.ok.inj h
  rfl

namespace Command

/-- The number of the only milestone, if a command was given one with its flags for repositories. -/
def milestone? : Command → Option UInt64
  | .account _ _ _ flags | .project _ _ _ flags | .repository _ flags => flags.milestone
  | .milestones _ _ | .quota => none

/-- Whether a command is about a project that is described by a body. -/
def hasBody : Command → Bool
  | .project _ _ (.body _) _ => true
  | _ => false

variable {command : Command} {settings : Settings} {bodyText : String → Option String}
  {c : Composed} {number : UInt64}

/-- The milestone levels of a composed document are those of some repositories, with the number as
their address unless there is a body. -/
theorem exists_levels (hnumber : command.milestone? = some number)
    (hcompose : command.compose settings bodyText = .ok c) :
    ∃ r : RepositoryConfig, ∃ levels, documentLevels? c.document = some levels ∧
      (levels = r.levels settings.documentOptions ∨ levels = []) ∧
      r.milestone = if command.hasBody then .list else .single number := by
  cases command with
  | account target scopes projectScopes flags =>
    obtain ⟨a, hvalid, hdocument⟩ := bind_eq_ok_iff.1 hcompose
    obtain rfl := Except.ok.inj hdocument
    have hflags : flags.milestone = some number := hnumber
    have haddress := milestone_of_accountConfig (mapError_eq_ok_iff.1 hvalid)
    rw [hflags] at haddress
    exact ⟨_, _, documentLevels?_account target _ a, a.levels_eq_or _, haddress⟩
  | project target identity source flags =>
    obtain ⟨p, hvalid, hdocument⟩ := bind_eq_ok_iff.1 hcompose
    obtain rfl := Except.ok.inj hdocument
    refine ⟨_, _, documentLevels?_project target _ _ p, p.levels_eq_or _, ?_⟩
    cases source with
    | scopes text =>
      have hflags : flags.milestone = some number := hnumber
      have haddress := milestone_of_projectConfig (mapError_eq_ok_iff.1 hvalid)
      rwa [hflags] at haddress
    | body path =>
      obtain ⟨b, -, hvalid⟩ := bind_eq_ok_iff.1 hvalid
      exact milestone_of_body (mapError_eq_ok_iff.1 hvalid)
  | repository shorthand flags =>
    obtain ⟨repository, -, hcompose⟩ := bind_eq_ok_iff.1 hcompose
    obtain ⟨r, hvalid, hdocument⟩ := bind_eq_ok_iff.1 hcompose
    obtain rfl := Except.ok.inj hdocument
    have hflags : flags.milestone = some number := hnumber
    have haddress := RepositoryFlags.milestone_of_validate (mapError_eq_ok_iff.1 hvalid)
    rw [hflags] at haddress
    exact ⟨r, _, documentLevels?_repository _ repository r, .inl rfl, haddress⟩
  | milestones | quota => cases hnumber

/-- A document that was composed for one milestone has at most one milestone level. The level is
that of the milestone with the number, whatever else was given, unless the project is described by a
body. Then it is a page of the list of all milestones. So the number is heeded just if there is no
body or no level that it could stand in. -/
theorem milestoneLevels_of_number (hnumber : command.milestone? = some number)
    (hcompose : command.compose settings bodyText = .ok c) :
    ∃ levels, documentLevels? c.document = some levels ∧ levels.length ≤ 1 ∧
      (command.hasBody = false → ∀ s ∈ levels, s.head = numberHead "milestone" number) ∧
      (command.hasBody = true → ∀ s ∈ levels, ∃ w, s.head = windowHead "milestones" w) ∧
      (((∀ s ∈ levels, s.head = numberHead "milestone" number) ∧
          ∀ s ∈ levels, s.head.name ≠ "milestones") ↔
        command.hasBody = false ∨ levels = []) := by
  obtain ⟨r, levels, hlevels, hfrom, haddress⟩ := exists_levels hnumber hcompose
  have hmem : ∀ s ∈ levels, s ∈ r.levels settings.documentOptions := by
    rcases hfrom with rfl | rfl
    · exact fun _ hs => hs
    · exact fun _ hs => absurd hs List.not_mem_nil
  have hlength : levels.length ≤ 1 := by
    rcases hfrom with rfl | rfl
    · exact r.length_levels_le_one _
    · exact Nat.zero_le 1
  have hnumbered : command.hasBody = false →
      ∀ s ∈ levels, s.head = numberHead "milestone" number := by
    intro hbody s hs
    exact r.head_of_single (by simpa [hbody] using haddress) (hmem s hs)
  have hlisted : command.hasBody = true →
      ∀ s ∈ levels, ∃ w, s.head = windowHead "milestones" w := by
    intro hbody s hs
    exact r.head_of_list (by simpa [hbody] using haddress) (hmem s hs)
  refine ⟨levels, hlevels, hlength, hnumbered, hlisted, ?_⟩
  constructor
  · rintro ⟨-, hnone⟩
    cases hbody : command.hasBody with
    | false => exact .inl rfl
    | true =>
      refine .inr (List.eq_nil_iff_forall_not_mem.2 fun s hs => ?_)
      obtain ⟨w, hw⟩ := hlisted hbody s hs
      exact hnone s hs (congrArg Head.name hw)
  · rintro (hbody | rfl)
    · refine ⟨hnumbered hbody, fun s hs hlist => ?_⟩
      rw [hnumbered hbody s hs] at hlist
      exact absurd hlist (by simp [numberHead])
    · simp

/-- The closed issues of one milestone in the repositories linked to the projects of an account. -/
def linkedIssues : AccountConfig :=
  ⟨[.first ⟨20, by decide, by decide⟩ .projects], ⟨[.first .one .repositories],
    ⟨[.first ⟨5, by decide, by decide⟩ .issues], .single 3, none, [.closed]⟩⟩⟩

/-- The number reaches the level inside linked repositories of an account. -/
theorem milestoneLevels_of_number_of_linked :
    let command : Command := .account ⟨"acme", .user⟩ (some "projects:20") (some "repositories")
      ⟨some "issues:5", some "closed", some 3⟩
    command.milestone? = some 3 ∧ command.hasBody = false ∧
      ∃ c s, command.compose .standard (fun _ => none) = .ok c ∧
        documentLevels? c.document = some [s] ∧ s.head = numberHead "milestone" 3 := by
  intro command
  have hvalid : accountConfig .standard (some "projects:20") (some "repositories")
      ⟨some "issues:5", some "closed", some 3⟩ = .ok linkedIssues := by decide
  have hcompose : command.compose .standard (fun _ => none) = .ok ⟨"account",
      accountDocument ⟨"acme", .user⟩ linkedIssues Settings.standard.documentOptions⟩ := by
    unfold compose command
    simp only [hvalid]
    rfl
  obtain ⟨levels, hlevels, -, hnumbered, -⟩ := milestoneLevels_of_number rfl hcompose
  have hone : levels = linkedIssues.levels Settings.standard.documentOptions :=
    Option.some.inj (hlevels.symm.trans (documentLevels?_account _ _ linkedIssues))
  have hlevel : linkedIssues.levels Settings.standard.documentOptions = [_] := rfl
  rw [hone, hlevel] at hlevels hnumbered
  exact ⟨rfl, rfl, _, _, hcompose, hlevels, hnumbered rfl _ List.mem_cons_self⟩

/-- The text of a body that asks for the milestones of the repositories linked to a project. -/
def linkedMilestonesText : String :=
  "\x7b\"projectScopes\": [\x7b\"scopeName\": \"repositories\"\x7d], " ++
    "\"repositoryScopes\": [\x7b\"scopeName\": \"milestones\"\x7d]\x7d"

/-- What a project with this body is composed with. -/
def linkedMilestones : ProjectConfig :=
  ⟨[.first .one .repositories], ⟨[.first .one .milestones], .list, none, [.opened]⟩⟩

/-- A command line may give the number along with a body, and then the list of all milestones is
selected. -/
theorem number_dropped_of_body :
    let flags : RepositoryFlags := ⟨none, none, some 3⟩
    let command : Command := .project ⟨"acme", .organization⟩ "7" (.body "b.json") flags
    Invocation.ofArguments ["project", "acme", "7", "--body", "b.json", "--milestone", "3"] =
        .ok ⟨{}, command⟩ ∧
      command.milestone? = some 3 ∧
      ∃ c s, command.compose .standard (fun _ => some linkedMilestonesText) = .ok c ∧
        documentLevels? c.document = some [s] ∧
        s.head = ⟨none, "milestones",
          [⟨"first", .scalar (.int 1)⟩, ⟨"after", .scalar (.name "null")⟩]⟩ := by
  intro flags command
  have hvalid : ProjectSource.validate (.body "b.json") ⟨none, none, some 3⟩ .standard
      (fun _ => some linkedMilestonesText) = .ok linkedMilestones := by decide +kernel
  have hcompose : command.compose .standard (fun _ => some linkedMilestonesText) =
      .ok ⟨"project", projectDocument ⟨"acme", .organization⟩ (.ofRaw "7") linkedMilestones
        Settings.standard.documentOptions⟩ := by
    unfold compose command flags
    simp only [hvalid]
    rfl
  exact ⟨rfl, rfl, _, _, hcompose, documentLevels?_project _ _ _ linkedMilestones, rfl⟩

end Command

end CommandLine

end ScopeComposer
