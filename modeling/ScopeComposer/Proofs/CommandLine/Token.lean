import ScopeComposer.Proofs.CommandLine.Validation
import ScopeComposer.Proofs.Server.Retries

/-!
# The token of a run

A token may be given in three places, which are looked at in a fixed order. A token is usable if it
is not blank. The first token that is given counts: if it is usable it is also the first usable one,
and if it is blank it hides every usable one behind it. What a run that sends something does depends
on nothing else about its tokens.
-/

namespace ScopeComposer.CommandLine

open Text

namespace Report

/-- A run that has no credential to send its document with. -/
def withoutCredential : Report := .envelope 1 (.failure Fetcher.missingCredential) []

theorem failure_ne_envelope (reason : String) (status : UInt8) (e : Envelope Json)
    (calls : List Call) : Report.failure reason ≠ .envelope status e calls := by
  intro h
  have herrors : "Error: " ++ reason ++ "\n" = "" := congrArg Report.errors h
  simp at herrors

end Report

namespace Invocation

/-- The tokens that are given, in the order in which their places are looked at: on the command line
and in two variables of the environment. -/
def givenTokens (i : Invocation) (env : Environment) : List String :=
  [i.common.token, env "GITHUB_SCOPE_GITHUB_TOKEN", env "GITHUB_TOKEN"].filterMap id

/-- The first token that is usable. -/
def usableToken? (i : Invocation) (env : Environment) : Option String :=
  (i.givenTokens env).find? fun token => !isBlankText token

/-- Whether the first token that is given is blank, with a usable one given behind it. -/
def HidesToken (i : Invocation) (env : Environment) : Prop :=
  ∃ blank others, i.givenTokens env = blank :: others ∧ isBlankText blank = true ∧
    ∃ token ∈ others, isBlankText token = false

/-- The credential of a run with a token. -/
def credentialOf (i : Invocation) (token : String) : Credential :=
  ⟨.token token, if i.common.app then .app else .token⟩

variable {i : Invocation} {env : Environment} {around : Surroundings} {settings : Settings}
  {c : Composed} {token : String}

/-! ## Which token counts -/

theorem token?_eq_head? (i : Invocation) (env : Environment) :
    i.token? env = (i.givenTokens env).head?.filter fun token => !isBlankText token := by
  unfold token? givenTokens
  cases i.common.token with
  | some token => rfl
  | none =>
    cases env "GITHUB_SCOPE_GITHUB_TOKEN" with
    | some token => rfl
    | none => cases env "GITHUB_TOKEN" <;> rfl

theorem token?_of_hides (h : i.HidesToken env) : i.token? env = none := by
  obtain ⟨blank, others, hgiven, hblank, -⟩ := h
  rw [token?_eq_head?, hgiven]
  simp [hblank]

/-- Unless a blank token hides it, the token of a run is the first usable one. -/
theorem token?_of_not_hides (h : ¬ i.HidesToken env) : i.token? env = i.usableToken? env := by
  rw [token?_eq_head?]
  unfold usableToken?
  cases hgiven : i.givenTokens env with
  | nil => rfl
  | cons first others =>
    cases hblank : isBlankText first with
    | false => simp [hblank]
    | true =>
      have hothers : others.find? (fun token => !isBlankText token) = none := by
        refine List.find?_eq_none.2 fun token htoken husable => h ?_
        exact ⟨first, others, hgiven, hblank, token, htoken, by simpa using husable⟩
      simp [hblank, hothers]

theorem credential?_of_hides (h : i.HidesToken env) : i.credential? env = none := by
  rw [credential?, token?_of_hides h]
  rfl

theorem credential?_of_not_hides (h : ¬ i.HidesToken env) :
    i.credential? env = (i.usableToken? env).map i.credentialOf := by
  rw [credential?, token?_of_not_hides h]
  rfl

/-- The first usable token is sent just if nothing hides it. -/
theorem credential?_eq_some_iff (h : i.usableToken? env = some token) :
    i.credential? env = some (i.credentialOf token) ↔ ¬ i.HidesToken env := by
  constructor
  · intro hcredential hhides
    rw [credential?_of_hides hhides] at hcredential
    cases hcredential
  · intro hhides
    rw [credential?_of_not_hides hhides, h]
    rfl

theorem credential?_eq_none_iff :
    i.credential? env = none ↔ i.usableToken? env = none ∨ i.HidesToken env := by
  by_cases hhides : i.HidesToken env
  · simp [credential?_of_hides hhides, hhides]
  · simp [credential?_of_not_hides hhides, hhides]

/-! ## What a run does with it -/

section Conclude

variable (hexecute : i.common.execute = true)

include hexecute

theorem conclude_of_addressError {reason : String}
    (hclient : Client.ofBaseUrl settings.baseUrl = .error reason) :
    i.conclude around settings c = .failure reason := by
  unfold conclude
  rw [if_pos hexecute]
  simp only [hclient]

theorem conclude_of_no_credential {client : Client}
    (hclient : Client.ofBaseUrl settings.baseUrl = .ok client)
    (hnone : i.credential? around.environment = none) :
    i.conclude around settings c = .withoutCredential := by
  unfold conclude send
  rw [if_pos hexecute]
  simp only [hclient, hnone]
  rfl

/-- With a credential the document is sent at least once, and on behalf of nothing else; or the run
breaks off before that. -/
theorem conclude_of_credential {client : Client} {credential : Credential}
    (hclient : Client.ofBaseUrl settings.baseUrl = .ok client)
    (hsome : i.credential? around.environment = some credential) :
    if Client.canRequest credential.auth then
      ∃ retries, (i.conclude around settings c).calls =
        List.replicate (retries + 1) ⟨c.name, .ofDocument c.document, credential⟩
    else i.conclude around settings c = .brokenOff := by
  unfold conclude send
  rw [if_pos hexecute]
  simp only [hclient, hsome, Option.all_some]
  cases Client.canRequest credential.auth with
  | false => rfl
  | true =>
    exact ⟨_, (Run.make_made_zero _ _ _ _).calls⟩

theorem credential?_of_mem_calls {call : Call}
    (hcall : call ∈ (i.conclude around settings c).calls) :
    i.credential? around.environment = some call.credential := by
  have hnone : ∀ {report : Report}, i.conclude around settings c = report → report.calls ≠ [] := by
    rintro _ rfl hnil
    exact absurd (hnil ▸ hcall) List.not_mem_nil
  cases hclient : Client.ofBaseUrl settings.baseUrl with
  | error reason => exact absurd rfl (hnone (conclude_of_addressError hexecute hclient))
  | ok client =>
    cases hcredential : i.credential? around.environment with
    | none => exact absurd rfl (hnone (conclude_of_no_credential hexecute hclient hcredential))
    | some credential =>
      have hconclude := conclude_of_credential (c := c) hexecute hclient hcredential
      split at hconclude
      · obtain ⟨retries, hcalls⟩ := hconclude
        rw [hcalls] at hcall
        rw [List.eq_of_mem_replicate hcall]
      · exact absurd rfl (hnone hconclude)

/-- Only where a document would be sent if there were a credential does a run say that there is
none. -/
theorem conclude_eq_withoutCredential_iff :
    i.conclude around settings c = .withoutCredential ↔
      (∃ client, Client.ofBaseUrl settings.baseUrl = .ok client) ∧
        i.credential? around.environment = none := by
  constructor
  · intro hmissing
    cases hclient : Client.ofBaseUrl settings.baseUrl with
    | error reason =>
      rw [conclude_of_addressError hexecute hclient] at hmissing
      exact absurd hmissing (Report.failure_ne_envelope _ _ _ _)
    | ok client =>
      refine ⟨⟨client, rfl⟩, ?_⟩
      cases hcredential : i.credential? around.environment with
      | none => rfl
      | some credential =>
        have hconclude := conclude_of_credential (c := c) hexecute hclient hcredential
        rw [hmissing] at hconclude
        split at hconclude
        · obtain ⟨retries, hcalls⟩ := hconclude
          exact absurd hcalls.symm (List.cons_ne_nil _ _)
        · exact absurd (congrArg Report.status hconclude) (by decide : (1 : UInt8) ≠ 101)
  · rintro ⟨⟨client, hclient⟩, hnone⟩
    exact conclude_of_no_credential hexecute hclient hnone

end Conclude

/-- A run that is to send a composed document sends it with the first usable token just if that is
not hidden by a blank one; then the document is sent unless the address of the server makes no sense
or the token cannot stand in the head of a request. The run says that it has no credential, without
having called anybody, if there is no usable token, but also if there is one and it is hidden. -/
theorem first_usable_token_unless_hidden (hexecute : i.common.execute = true)
    (hloaded : i.settings around = .ok settings)
    (hcompose : i.command.compose settings around.bodyText = .ok c) :
    let env := around.environment
    let run := i.run around
    (∀ token, i.usableToken? env = some token →
      (i.credential? env = some (i.credentialOf token) ↔ ¬ i.HidesToken env)) ∧
    (∀ call ∈ run.calls, i.credential? env = some call.credential) ∧
    (∀ token client, i.usableToken? env = some token → ¬ i.HidesToken env →
      Client.ofBaseUrl settings.baseUrl = .ok client → Client.isHeadText token = true →
        run.calls ≠ []) ∧
    (run = .withoutCredential ↔ (∃ client, Client.ofBaseUrl settings.baseUrl = .ok client) ∧
      (i.usableToken? env = none ∨ i.HidesToken env)) := by
  intro env run
  have hrun : run = i.conclude around settings c := run_of_composed hloaded hcompose
  refine ⟨fun token husable => credential?_eq_some_iff husable, ?_, ?_, ?_⟩
  · intro call hcall
    exact credential?_of_mem_calls hexecute (hrun ▸ hcall)
  · intro token client husable hhides hclient hhead
    have hcredential : i.credential? env = some (i.credentialOf token) :=
      (credential?_eq_some_iff husable).2 hhides
    have hcan : Client.canRequest (i.credentialOf token).auth = true := hhead
    have hconclude := conclude_of_credential (c := c) hexecute hclient hcredential
    rw [if_pos hcan] at hconclude
    obtain ⟨retries, hcalls⟩ := hconclude
    rw [hrun, hcalls]
    exact List.cons_ne_nil _ _
  · rw [hrun, conclude_eq_withoutCredential_iff hexecute, credential?_eq_none_iff]

/-- The token from the command line is sent for an installation of an app, whatever the environment
says. -/
theorem first_usable_token_unless_hidden_of_app :
    let i : Invocation := ⟨{ execute := true, token := some "s", app := true }, .quota⟩
    let around : Surroundings :=
      ⟨.ofList [("GITHUB_SCOPE_GITHUB_TOKEN", " "), ("GITHUB_TOKEN", "t")], fun _ => .missing,
        fun _ => none, Client.unreachable⟩
    i.usableToken? around.environment = some "s" ∧ ¬ i.HidesToken around.environment ∧
      i.credential? around.environment = some ⟨.token "s", .app⟩ ∧ (i.run around).calls ≠ [] ∧
      i.run around ≠ .withoutCredential := by
  intro i around
  have husable : i.usableToken? around.environment = some "s" := by decide
  have hhides : ¬ i.HidesToken around.environment := by
    rintro ⟨blank, others, hgiven, hblank, -⟩
    obtain rfl : "s" = blank := (List.cons.inj hgiven).1
    exact absurd hblank (by decide)
  have hloaded : i.settings around = .ok .standard := rfl
  obtain ⟨hcredential, -, hcalls, hmissing⟩ := first_usable_token_unless_hidden rfl hloaded rfl
  refine ⟨husable, hhides, (hcredential "s" husable).2 hhides,
    hcalls "s" _ husable hhides rfl (by decide), fun h => ?_⟩
  rcases (hmissing.1 h).2 with hnone | hhidden
  · cases husable.symm.trans hnone
  · exact hhides hhidden

/-- A blank variable hides the token in the variable that is looked at after it. -/
theorem missing_credential_of_blank_variable :
    let around : Surroundings :=
      ⟨.ofList [("GITHUB_SCOPE_GITHUB_TOKEN", " "), ("GITHUB_TOKEN", "t")], fun _ => .missing,
        fun _ => none, Client.unreachable⟩
    let i : Invocation := ⟨{ execute := true }, .quota⟩
    ofArguments ["quota", "--execute"] = .ok i ∧
      i.usableToken? around.environment = some "t" ∧
      i.credential? around.environment = none ∧
      CommandLine.run ["quota", "--execute"] around =
        .envelope 1 (.failure Fetcher.missingCredential) [] := by
  intro around i
  exact ⟨rfl, by decide, by decide, rfl⟩

end Invocation

end ScopeComposer.CommandLine
