import ScopeComposer.CommandLine.Run
import ScopeComposer.Proofs.Scope.Faults

/-!
# Validation before composing

What a command was given that is checked, in the order of the checks: the lists of scopes from the
outermost level inwards and the states of issues; for milestones the depth and the page sizes come
before the states. All of it is checked, also what the document has no place for, and a command is
refused for the leftmost fault of all. The order is said here once for each command, apart from the
checks, which report what it says.
-/

namespace ScopeComposer.CommandLine

/-- Something that a command was given and that is checked before anything is composed. -/
inductive Checked where
  /-- Requests for an account. -/
  | accountScopes (requests : List ReceivedRequest)
  /-- Requests for projects. -/
  | projectScopes (requests : List ReceivedRequest)
  /-- Requests for repositories. -/
  | repositoryScopes (requests : List ReceivedRequest)
  /-- How deep milestones are selected. -/
  | depth (names : List String)
  /-- The states of issues. -/
  | issueStates (names : List String)
  /-- The page size of milestones or of their issues. -/
  | pageSize (size : Int)

/-- What is wrong with something that is checked; in a list, a fault of the leftmost bad entry. -/
def Checked.Fault : Checked → ValidationError → Prop
  | accountScopes requests => Leftmost (ReceivedRequest.Fault AccountScope) requests
  | projectScopes requests => Leftmost (ReceivedRequest.Fault ProjectScope) requests
  | repositoryScopes requests => Leftmost (ReceivedRequest.Fault RepositoryScope) requests
  | depth names => Leftmost (Tag.Fault MilestoneDepth) names
  | issueStates names => Leftmost (Tag.Fault IssueState) names
  | pageSize size => PageSize.Fault (.int size)

/-- The requests of a flag in compact form, which may not be given. -/
def listedRequests (text : Option String) : List ReceivedRequest :=
  (Text.entries (text.getD "")).map .ofCompact

/-- The names of a flag, which may not be given. -/
def listedNames (text : Option String) : List String := (text.map Text.entries).getD []

/-- What is checked of the flags for repositories. -/
def RepositoryFlags.checked (f : RepositoryFlags) : List Checked :=
  [.repositoryScopes (listedRequests f.scopes), .issueStates (listedNames f.issueStates)]

/-- What is checked of the flags for milestones. -/
def MilestoneFlags.checked (f : MilestoneFlags) : List Checked :=
  [.depth (listedNames f.depth), .pageSize f.pageSize, .pageSize f.issuesPageSize,
    .issueStates (listedNames f.issueStates)]

/-- What is checked of a body. -/
def bodyChecked (b : ProjectBody) : List Checked :=
  [.projectScopes b.projectScopes, .repositoryScopes b.repositoryScopes,
    .issueStates ((b.issueStates.map NameList.entries).getD [])]

/-- The body at a path, if it can be read and decoded. -/
def readableBody? (bodyText : String → Option String) (path : String) : Option ProjectBody :=
  (bodyText path).bind ProjectBody.decoder.ofText?

/-- What is checked of a command, if its repository is well written and its body can be decoded. -/
def Command.checked? (bodyText : String → Option String) : Command → Option (List Checked)
  | .account _ scopes projectScopes repositories =>
    some (.accountScopes (listedRequests scopes) :: .projectScopes (listedRequests projectScopes) ::
      repositories.checked)
  | .project _ _ (.scopes text) repositories =>
    some (.projectScopes (listedRequests text) :: repositories.checked)
  | .project _ _ (.body path) _ => (readableBody? bodyText path).map bodyChecked
  | .repository shorthand flags =>
    (RepositoryAddress.ofShorthand? shorthand).map fun _ => flags.checked
  | .milestones shorthand flags =>
    (RepositoryAddress.ofShorthand? shorthand).map fun _ => flags.checked
  | .quota => some []

/-! ## The checks -/

theorem reports_scopeRequests {S : Type} [DecidableEq S] [Tag S] (settings : Settings)
    (text : Option String) (fallback : List S) :
    Reports (ReceivedRequest.Fault S) (scopeRequests settings text fallback)
      (listedRequests text) :=
  ReceivedRequest.reports_checkAll _ _ _

theorem reports_names {S : Type} [DecidableEq S] [Tag S] (text : Option String)
    (fallback : List S) : Reports (Tag.Fault S) (NameList.tags (text.map .joined) fallback)
      (listedNames text) := by
  cases text with
  | none => exact NameList.reports_tags none fallback
  | some text => exact NameList.reports_tags (some (.joined text)) fallback

theorem reports_requestedStates (settings : Settings) (text : Option String) :
    Reports Checked.Fault (requestedStates settings text) [.issueStates (listedNames text)] :=
  .single (reports_names text _)

theorem RepositoryFlags.reports_validate (f : RepositoryFlags) (settings : Settings) :
    Reports Checked.Fault (f.validate settings) f.checked := by
  have hscopes : Reports Checked.Fault (scopeRequests settings f.scopes RepositoryScope.fallback)
      [.repositoryScopes (listedRequests f.scopes)] :=
    .single (reports_scopeRequests settings f.scopes _)
  exact hscopes.bind fun _ => (reports_requestedStates settings f.issueStates).map

theorem MilestoneFlags.reports_validate (f : MilestoneFlags) (settings : Settings) :
    Reports Checked.Fault (f.validate settings) f.checked := by
  have hdepth : Reports Checked.Fault
      (NameList.tags (f.depth.map .joined) MilestoneDepth.fallback)
      [.depth (listedNames f.depth)] :=
    .single (reports_names f.depth _)
  have hsize : ∀ n : Int, Reports Checked.Fault (PageSize.ofJson (.int n)) [.pageSize n] :=
    fun _ => .single fun _ => PageSize.ofJson_eq_error_iff
  exact hdepth.bind fun _ => (hsize f.pageSize).bind fun _ => (hsize f.issuesPageSize).bind fun _ =>
    (reports_requestedStates settings f.issueStates).map

theorem reports_projectConfig (settings : Settings) (scopes : Option String)
    (repositories : RepositoryFlags) :
    Reports Checked.Fault (projectConfig settings scopes repositories)
      (.projectScopes (listedRequests scopes) :: repositories.checked) := by
  have hscopes : Reports Checked.Fault (scopeRequests settings scopes ProjectScope.fallback)
      [.projectScopes (listedRequests scopes)] :=
    .single (reports_scopeRequests settings scopes _)
  exact hscopes.bind fun _ => (repositories.reports_validate settings).map

theorem reports_accountConfig (settings : Settings) (scopes projectScopes : Option String)
    (repositories : RepositoryFlags) :
    Reports Checked.Fault (accountConfig settings scopes projectScopes repositories)
      (.accountScopes (listedRequests scopes) :: .projectScopes (listedRequests projectScopes) ::
        repositories.checked) := by
  have hscopes : Reports Checked.Fault (scopeRequests settings scopes AccountScope.fallback)
      [.accountScopes (listedRequests scopes)] :=
    .single (reports_scopeRequests settings scopes _)
  exact hscopes.bind fun _ => (reports_projectConfig settings projectScopes repositories).map

theorem reports_body (b : ProjectBody) (states : List IssueState) (size : PageSize) :
    Reports Checked.Fault (b.validate states size) (bodyChecked b) := by
  have hproject : Reports Checked.Fault
      (ReceivedRequest.checkAll b.projectScopes ProjectScope.fallback size)
      [.projectScopes b.projectScopes] :=
    .single (ReceivedRequest.reports_checkAll _ _ _)
  have hrepositories : Reports Checked.Fault
      (ReceivedRequest.checkAll b.repositoryScopes RepositoryScope.fallback size)
      [.repositoryScopes b.repositoryScopes] :=
    .single (ReceivedRequest.reports_checkAll _ _ _)
  have hstates : Reports Checked.Fault (NameList.tags b.issueStates states)
      [.issueStates ((b.issueStates.map NameList.entries).getD [])] :=
    .single (NameList.reports_tags _ _)
  exact hproject.bind fun _ => hrepositories.bind fun _ => hstates.map

/-! ## Composing -/

section Composing

variable {command : Command} {settings : Settings} {bodyText : String → Option String}

/-- A document is composed after the checks, so that it does not matter where their errors are
turned into reasons for having none. -/
theorem bind_mapError_scope {α β : Type} (v : Validated α) (document : α → β) :
    (v.mapError ComposeError.scope >>= fun c => .ok (document c)) =
      (v >>= fun c => .ok (document c)).mapError ComposeError.scope := by
  cases v with
  | error e => rfl
  | ok c => rfl

theorem mapError_scope_eq_error_iff {α : Type} {v : Validated α} {e : ValidationError} :
    v.mapError ComposeError.scope = .error (.scope e) ↔ v = .error e := by
  cases v with
  | error first =>
    constructor
    · rintro ⟨⟩
      rfl
    · rintro ⟨⟩
      rfl
  | ok c => exact ⟨nofun, nofun⟩

theorem exists_mapError_scope_iff {α : Type} {v : Validated α} :
    (∃ c, v.mapError ComposeError.scope = .ok c) ↔ ∃ c, v = .ok c := by
  cases v with
  | error e => exact ⟨nofun, nofun⟩
  | ok c => exact ⟨fun _ => ⟨c, rfl⟩, fun _ => ⟨c, rfl⟩⟩

theorem readBody_of_readable {path : String} {b : ProjectBody}
    (h : readableBody? bodyText path = some b) : readBody bodyText path = .ok b := by
  obtain ⟨text, htext, hdecoded⟩ := Option.bind_eq_some_iff.1 h
  unfold readBody
  simp only [htext, hdecoded]

theorem readBody_of_unreadable {path : String} (h : readableBody? bodyText path = none) :
    ∃ reason, readBody bodyText path = .error reason ∧ ∀ e, reason ≠ .scope e := by
  unfold readBody
  cases htext : bodyText path with
  | none => exact ⟨.unreadableBody path, rfl, fun e => ComposeError.noConfusion⟩
  | some text =>
    have hdecoded : ProjectBody.decoder.ofText? text = none := by
      simpa [readableBody?, htext] using h
    simp only [hdecoded]
    exact ⟨.malformedBody, rfl, fun e => ComposeError.noConfusion⟩

/-- A command whose parts can be read is composed if it passes its checks, which report the leftmost
fault of what they look at. -/
theorem Command.compose_of_checked? {args : List Checked}
    (h : command.checked? bodyText = some args) (settings : Settings) :
    ∃ v : Validated Composed, command.compose settings bodyText = v.mapError .scope ∧
      Reports Checked.Fault v args := by
  cases command with
  | account target scopes projectScopes repositories =>
    obtain rfl := Option.some.inj h
    exact ⟨_, bind_mapError_scope _ _,
      (reports_accountConfig settings scopes projectScopes repositories).map⟩
  | project target identity source repositories =>
    cases source with
    | scopes text =>
      obtain rfl := Option.some.inj h
      exact ⟨_, bind_mapError_scope _ _, (reports_projectConfig settings text repositories).map⟩
    | body path =>
      obtain ⟨b, hb, rfl⟩ := Option.map_eq_some_iff.1 h
      have hread : readBody bodyText path = .ok b := readBody_of_readable hb
      have hchecks := reports_body b settings.defaultIssueStates settings.defaultPageSize
      simp only [compose, ProjectSource.validate, hread]
      exact ⟨_, bind_mapError_scope _ _, hchecks.map⟩
  | repository shorthand flags =>
    obtain ⟨repository, hrepository, rfl⟩ := Option.map_eq_some_iff.1 h
    simp only [compose, readRepository, hrepository]
    exact ⟨_, bind_mapError_scope _ _, (flags.reports_validate settings).map⟩
  | milestones shorthand flags =>
    obtain ⟨repository, hrepository, rfl⟩ := Option.map_eq_some_iff.1 h
    simp only [compose, readRepository, hrepository]
    exact ⟨_, bind_mapError_scope _ _, (flags.reports_validate settings).map⟩
  | quota =>
    obtain rfl := Option.some.inj h
    exact ⟨.ok _, rfl, .ok _⟩

/-- Otherwise the command is given up before anything is checked. -/
theorem Command.compose_of_checked?_eq_none (h : command.checked? bodyText = none)
    (settings : Settings) : ∃ reason, command.compose settings bodyText = .error reason ∧
      ∀ e, reason ≠ .scope e := by
  cases command with
  | account target scopes projectScopes repositories => cases h
  | project target identity source repositories =>
    cases source with
    | scopes text => cases h
    | body path =>
      obtain ⟨reason, hread, hreason⟩ := readBody_of_unreadable (Option.map_eq_none_iff.1 h)
      simp only [compose, ProjectSource.validate, hread]
      exact ⟨reason, rfl, hreason⟩
  | repository shorthand flags =>
    have hrepository : RepositoryAddress.ofShorthand? shorthand = none := Option.map_eq_none_iff.1 h
    simp only [compose, readRepository, hrepository]
    exact ⟨.repository shorthand, rfl, fun e => ComposeError.noConfusion⟩
  | milestones shorthand flags =>
    have hrepository : RepositoryAddress.ofShorthand? shorthand = none := Option.map_eq_none_iff.1 h
    simp only [compose, readRepository, hrepository]
    exact ⟨.repository shorthand, rfl, fun e => ComposeError.noConfusion⟩
  | quota => cases h

/-- A command is refused for the leftmost fault of all that is checked of it. -/
theorem Command.compose_eq_scope_iff {e : ValidationError} :
    command.compose settings bodyText = .error (.scope e) ↔
      ∃ args, command.checked? bodyText = some args ∧ Leftmost Checked.Fault args e := by
  cases hargs : command.checked? bodyText with
  | none =>
    obtain ⟨reason, hcompose, hreason⟩ := compose_of_checked?_eq_none hargs settings
    rw [hcompose]
    refine ⟨fun h => absurd (Except.error.inj h) (hreason e), ?_⟩
    rintro ⟨args, ⟨⟩, -⟩
  | some args =>
    obtain ⟨v, hcompose, hreports⟩ := compose_of_checked? hargs settings
    rw [hcompose, mapError_scope_eq_error_iff, hreports e]
    simp

/-- A command is composed if nothing that is checked of it has a fault. -/
theorem Command.exists_compose_iff :
    (∃ c, command.compose settings bodyText = .ok c) ↔
      ∃ args, command.checked? bodyText = some args ∧ ∀ a ∈ args, ∀ e, ¬ a.Fault e := by
  cases hargs : command.checked? bodyText with
  | none =>
    obtain ⟨reason, hcompose, -⟩ := compose_of_checked?_eq_none hargs settings
    simp [hcompose]
  | some args =>
    obtain ⟨v, hcompose, hreports⟩ := compose_of_checked? hargs settings
    rw [hcompose, exists_mapError_scope_iff, hreports.passes_iff]
    simp

end Composing

/-! ## Runs -/

/-- What is printed for a validation error: the failure envelope of its kind with its text, without
any diagnostics. -/
def printedFailure : ValidationError → Json
  | .invalidScope level value allowed =>
    .obj [("success", .bool false), ("error", .str "InvalidScope"),
      ("message", .str ("invalid " ++ level.text ++ " scope '" ++ value ++ "' (allowed: " ++
        allowed ++ ")"))]
  | .invalidPageSize value =>
    .obj [("success", .bool false), ("error", .str "InvalidPageSize"),
      ("message", .str ("invalid page size '" ++ value ++
        "' (expected an integer between 1 and 100)"))]

/-- A failure of validation has the kind of the error and its text, and no diagnostics. -/
theorem toJson_failure_ofValidation (e : ValidationError) :
    (Envelope.failure (.ofValidation e)).toJson id = printedFailure e := by
  cases e with
  | invalidScope level value allowed => rfl
  | invalidPageSize value => rfl

section Runs

variable {i : Invocation} {around : Surroundings} {settings : Settings}

theorem Invocation.run_of_refused {e : ValidationError} (hloaded : i.settings around = .ok settings)
    (h : i.command.compose settings around.bodyText = .error (.scope e)) :
    i.run around = ⟨2, (printedFailure e).pretty ++ "\n", "", []⟩ := by
  unfold run
  simp only [hloaded, h]
  rw [← toJson_failure_ofValidation]
  rfl

theorem Invocation.run_of_composed {c : Composed} (hloaded : i.settings around = .ok settings)
    (h : i.command.compose settings around.bodyText = .ok c) :
    i.run around = i.conclude around settings c := by
  unfold run
  simp only [hloaded, h]

/-- Without the flag for it nothing is sent. -/
theorem Invocation.conclude_of_not_execute (c : Composed) (h : i.common.execute = false) :
    i.conclude around settings c = .success c.document := by
  unfold conclude
  rw [h]
  rfl

theorem ComposeError.calls_report (reason : ComposeError) : reason.report.calls = [] := by
  cases reason <;> rfl

/-- Calls are only made with a document that has been composed, and if they are asked for. -/
theorem Invocation.of_calls_ne_nil (hloaded : i.settings around = .ok settings)
    (h : (i.run around).calls ≠ []) : i.common.execute = true ∧
      ∃ c, i.command.compose settings around.bodyText = .ok c := by
  cases hcompose : i.command.compose settings around.bodyText with
  | error reason =>
    have hrun : i.run around = reason.report := by
      unfold run
      simp only [hloaded, hcompose]
    rw [hrun] at h
    exact absurd reason.calls_report h
  | ok c =>
    refine ⟨?_, c, rfl⟩
    cases hexecute : i.common.execute with
    | true => rfl
    | false =>
      rw [run_of_composed hloaded hcompose, conclude_of_not_execute c hexecute] at h
      exact absurd rfl h

end Runs

/-- Whatever is set, a command is refused for the leftmost fault of all that is checked of it, is
refused whenever there is one, and is composed whenever there is none. A run of a refused command
makes no call and prints the failure, whether or not it was to send something and on whose behalf; a
run of a composed one that is not to send anything prints the document. Calls are made after all
checks. -/
theorem Command.validated_before_calls (command : Command) (settings : Settings)
    (bodyText : String → Option String) :
    (∀ e, command.compose settings bodyText = .error (.scope e) ↔
      ∃ args, command.checked? bodyText = some args ∧ Leftmost Checked.Fault args e) ∧
    ((∃ e, command.compose settings bodyText = .error (.scope e)) ↔
      ∃ args, command.checked? bodyText = some args ∧ ∃ a ∈ args, ∃ e, a.Fault e) ∧
    ((∃ c, command.compose settings bodyText = .ok c) ↔
      ∃ args, command.checked? bodyText = some args ∧ ∀ a ∈ args, ∀ e, ¬ a.Fault e) ∧
    ∀ (common : CommonFlags) (around : Surroundings), around.bodyText = bodyText →
      Invocation.settings ⟨common, command⟩ around = .ok settings →
        (∀ e, command.compose settings bodyText = .error (.scope e) →
          Invocation.run ⟨common, command⟩ around =
            ⟨2, (printedFailure e).pretty ++ "\n", "", []⟩) ∧
        (∀ c, command.compose settings bodyText = .ok c → common.execute = false →
          Invocation.run ⟨common, command⟩ around = ⟨0, c.document ++ "\n", "", []⟩) ∧
        ((Invocation.run ⟨common, command⟩ around).calls ≠ [] →
          common.execute = true ∧ ∃ c, command.compose settings bodyText = .ok c) := by
  refine ⟨fun _ => compose_eq_scope_iff, ?_, exists_compose_iff, ?_⟩
  · simp only [compose_eq_scope_iff, ← exists_leftmost]
    constructor
    · rintro ⟨e, args, hargs, h⟩
      exact ⟨args, hargs, e, h⟩
    · rintro ⟨args, hargs, e, h⟩
      exact ⟨e, args, hargs, h⟩
  · rintro common around rfl hloaded
    refine ⟨fun e h => Invocation.run_of_refused hloaded h, fun c h hexecute => ?_,
      Invocation.of_calls_ne_nil hloaded⟩
    rw [Invocation.run_of_composed hloaded h, Invocation.conclude_of_not_execute c hexecute]
    rfl

/-- States of issues are checked although no issues are selected, with and without a token to send
something with. The quota is asked for with a call, but not when the document is only printed. -/
theorem Command.validated_before_calls_of_gated_states :
    let command : Command :=
      .repository "o/n" ⟨some "license, topics:5", some "open, wontfix, topics", none⟩
    let around : Surroundings :=
      ⟨.ofList [("GITHUB_TOKEN", "t")], fun _ => .missing, fun _ => none, Client.unreachable⟩
    let refused : Report :=
      ⟨2, (printedFailure (.invalidScope .issueState "wontfix" "open, closed")).pretty ++ "\n", "",
        []⟩
    Invocation.run ⟨{}, command⟩ around = refused ∧
    Invocation.run ⟨{ execute := true, token := some "s" }, command⟩ around = refused ∧
    Invocation.run ⟨{}, .quota⟩ around = ⟨0, quotaDocument ++ "\n", "", []⟩ ∧
    (Invocation.run ⟨{ execute := true }, .quota⟩ around).calls ≠ [] ∧
    ∃ c, Command.quota.compose .standard around.bodyText = .ok c := by
  intro command around refused
  obtain ⟨-, -, -, hcommand⟩ := validated_before_calls command .standard around.bodyText
  obtain ⟨-, -, -, hquota⟩ := validated_before_calls .quota .standard around.bodyText
  have hcalls : (Invocation.run ⟨{ execute := true }, .quota⟩ around).calls ≠ [] :=
    List.cons_ne_nil _ _
  exact ⟨(hcommand {} around rfl rfl).1 _ rfl, (hcommand _ around rfl rfl).1 _ rfl,
    (hquota {} around rfl rfl).2.1 _ rfl rfl, hcalls, ((hquota _ around rfl rfl).2.2 hcalls).2⟩

end ScopeComposer.CommandLine
