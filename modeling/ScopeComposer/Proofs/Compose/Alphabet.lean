import ScopeComposer.Proofs.Compose.CallerTexts

/-!
# Documents and their alphabet

Whether a document stays within the alphabet is up to its callers: the literal of a login, a name or
a cursor keeps the control characters of its text, and nothing else in a document has any.
-/

namespace ScopeComposer

open Graphql
open PageWindow (cursors)

namespace Graphql

/-- Tokens bring in what their string values hold. -/
theorem flatMap_controls_eq_nil_iff {ts : List Token} :
    ts.flatMap Token.controls = [] ↔ ∀ s ∈ stringValues ts, InAlphabet s := by
  simp only [inAlphabet_iff, List.flatMap_eq_nil_iff, stringValues, List.mem_filterMap]
  constructor
  · rintro h s ⟨t, ht, hs⟩
    cases t <;> cases hs
    exact h _ ht
  · intro h t ht
    cases t with
    | string s => exact h s ⟨_, ht, rfl⟩
    | punctuator p => rfl
    | name s => rfl
    | int n => rfl

theorem inAlphabet_document_iff {root : String} {fields : List Selection}
    (h : Reads [root] fields) : InAlphabet (document root) ↔
      ∀ s ∈ stringValues (selectionTokens fields), InAlphabet s := by
  rw [inAlphabet_iff, controls_document h, flatMap_controls_eq_nil_iff, stringValues_document]

end Graphql

theorem inAlphabet_accountDocument_iff (account : Account) (c : AccountConfig)
    (options : DocumentOptions) : InAlphabet (accountDocument account c options) ↔
      ∀ s ∈ account.login :: cursors (c.windows options), InAlphabet s := by
  have hreads := account.reads_root (c.reads account.kind options)
  rw [accountDocument, inAlphabet_document_iff hreads, account.stringValues_rootField,
    c.stringValues_fields]

theorem inAlphabet_projectDocument_iff (account : Account) (identity : ProjectIdentity)
    (c : ProjectConfig) (options : DocumentOptions) :
    InAlphabet (projectDocument account identity c options) ↔
      ∀ s ∈ account.login :: identity.texts ++ cursors c.windows, InAlphabet s := by
  have hreads := account.reads_root (c.reads (.single identity) options)
  rw [projectDocument, inAlphabet_document_iff hreads, account.stringValues_rootField,
    c.stringValues_single, List.cons_append]

theorem inAlphabet_repositoryDocument_iff (repository : RepositoryAddress) (c : RepositoryConfig)
    (options : DocumentOptions) : InAlphabet (repositoryDocument repository c options) ↔
      ∀ s ∈ repository.owner :: repository.name :: cursors c.windows, InAlphabet s := by
  have hreads := reads_repository repository c options
  have hroot : stringValues repository.head.tokens = [repository.owner, repository.name] := rfl
  rw [repositoryDocument, inAlphabet_document_iff hreads, repositoryField, stringValues_node,
    c.stringValues_fields, hroot, List.cons_append, List.cons_append, List.nil_append]

/-- A literal is a valid string value just if its text has no control characters but tabs, line
feeds and carriage returns, and a document stays within the alphabet just if this is so for its
logins, its names and the cursors of the selected windows. -/
theorem documents_inAlphabet_iff (options : DocumentOptions) :
    (∀ s : String, IsStringValue (literal s) ↔ InAlphabet s) ∧
    (∀ (account : Account) (c : AccountConfig),
      InAlphabet (accountDocument account c options) ↔
        ∀ s ∈ account.login :: cursors (c.windows options), InAlphabet s) ∧
    (∀ (account : Account) (identity : ProjectIdentity) (c : ProjectConfig),
      InAlphabet (projectDocument account identity c options) ↔
        ∀ s ∈ account.login :: identity.texts ++ cursors c.windows, InAlphabet s) ∧
    ∀ (repository : RepositoryAddress) (c : RepositoryConfig),
      InAlphabet (repositoryDocument repository c options) ↔
        ∀ s ∈ repository.owner :: repository.name :: cursors c.windows, InAlphabet s :=
  ⟨fun _ => isStringValue_literal_iff,
    fun account c => inAlphabet_accountDocument_iff account c options,
    fun account identity c => inAlphabet_projectDocument_iff account identity c options,
    fun repository c => inAlphabet_repositoryDocument_iff repository c options⟩

/-- A control character in the name of a repository stands in its document as it is, and its literal
is no string value that a document may hold. -/
theorem not_inAlphabet_of_control :
    ¬ InAlphabet (repositoryDocument ⟨"owner", "\x01"⟩ (.ofScopes [.plain .license]) .plain) ∧
      ¬ IsStringValue (literal "\x01") := by
  have hcontrol : ¬ InAlphabet "\x01" := by decide
  constructor
  · intro h
    have hname := (inAlphabet_repositoryDocument_iff _ _ _).1 h "\x01" (by simp)
    exact hcontrol hname
  · rw [isStringValue_literal_iff]
    exact hcontrol

end ScopeComposer
