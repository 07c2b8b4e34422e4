import ScopeComposer.Compose.Account
import ScopeComposer.Proofs.Compose.Repository

/-!
# Documents as fields

The fields that the text of a project node and of an account node is read as, and with them the root
field of each of the three documents. A server that reads one of these documents finds exactly that
field and nothing else.
-/

namespace ScopeComposer

open Graphql

/-! ## Projects -/

namespace ProjectConfig

/-- The fields that one resolved scope contributes. -/
def partFields (c : ProjectConfig) (scopes : ResolvedScopes ProjectScope)
    (options : DocumentOptions) : ProjectScope → List Selection
  | .info => fieldSelections projectInfo
  | .repositories => [c.repositories.linkedField (scopes.windowOf .repositories) options]

/-- The fields of a project node. -/
def fields (c : ProjectConfig) (options : DocumentOptions) : List Selection :=
  let scopes := ResolvedScopes.resolve c.scopes
  .leaf (.plain "number") :: .leaf (.plain "title") ::
    scopes.tags.flatMap (c.partFields scopes options)

/-- The head of the field that looks for a project by name. -/
def nameHead (name : String) : Head :=
  ⟨none, "projectsV2", [⟨"query", .scalar (.string name)⟩, ⟨"first", .scalar (.int 1)⟩]⟩

/-- Projects as a field of an account. -/
def field (c : ProjectConfig) (address : ProjectAddress) (options : DocumentOptions) : Selection :=
  match address with
  | .single (.name name) => .node (nameHead name) [.node (.plain "nodes") (c.fields options)]
  | .single (.number number) => .node (numberHead "projectV2" number) (c.fields options)
  | .list w =>
    .node (windowHead "projectsV2" w) (collectionFields options.withTotals (c.fields options))

/-- A project that is addressed by its name is the first one that a search for the name finds; the
name stands in a literal. -/
theorem text_nameHead (name : String) :
    (nameHead name).text = "projectsV2(query: " ++ literal name ++ ", first: 1)" := by
  have hone : toString (1 : Int) = "1" := by decide
  apply String.ext
  simp [nameHead, Head.text, argumentsText, Argument.text, Value.text, Scalar.text, hone]

theorem isNamed_nameHead (name : String) : (nameHead name).isNamed = true := by
  have hnames : isName "projectsV2" = true ∧ isName "query" = true ∧ isName "first" = true := by
    decide
  simp [nameHead, Head.isNamed, Value.isNamed, Scalar.isNamed, hnames]

/-- A project with a number is asked for under that number. -/
theorem singleHead_named (number : UInt64) :
    (numberHead "projectV2" number).isNamed = true ∧
      (numberHead "projectV2" number).text = "projectV2(number: " ++ toString number ++ ")" :=
  ⟨isNamed_numberHead "projectV2" (by decide) number, text_numberHead (by decide) number⟩

/-- A list of projects is asked for by its window alone. -/
theorem listHead_named (w : PageWindow) :
    (windowHead "projectsV2" w).isNamed = true ∧
      (windowHead "projectsV2" w).text = "projectsV2(" ++ w.arguments ++ ")" :=
  ⟨isNamed_windowHead "projectsV2" (by decide) w, text_windowHead (by decide) w⟩

/-- Each scope of a project is read as the fields that it contributes. The cases are the scopes:
fixed fields, and the repositories with what was requested of them. -/
theorem reads_part (c : ProjectConfig) (scopes : ResolvedScopes ProjectScope)
    (options : DocumentOptions) (scope : ProjectScope) :
    Reads [c.part scopes options scope] (c.partFields scopes options scope) := by
  cases scope with
  | info => exact Reads.layout (by decide) 1
  | repositories => exact c.repositories.reads_linked _ options

/-- The fields that are always there come before those of the scopes. -/
theorem reads_parts (c : ProjectConfig) (options : DocumentOptions) :
    Reads ("number" :: "title" :: (ResolvedScopes.resolve c.scopes).tags.map
      (c.part (.resolve c.scopes) options)) (c.fields options) :=
  Reads.cons (Reads.name "number" (by decide)) (Reads.cons (Reads.name "title" (by decide))
    (Reads.map fun scope _ => c.reads_part (.resolve c.scopes) options scope))

/-- A project is read as its fields, whatever was requested for it. -/
theorem reads_body (c : ProjectConfig) (options : DocumentOptions) :
    Reads [c.body options] (c.fields options) :=
  Reads.stack (c.reads_parts options)

/-- A project is read as one field, whether it is addressed by name, by number or in a list. -/
theorem reads (c : ProjectConfig) (address : ProjectAddress) (options : DocumentOptions) :
    Reads [c.selection address options] [c.field address options] := by
  have hbody := c.reads_body options
  match address with
  | .single (.name name) =>
    have hnodes := Reads.namedBlock "nodes" (by decide) hbody
    have hall := Reads.block (isNamed_nameHead name) hnodes
    rwa [text_nameHead] at hall
  | .single (.number number) =>
    obtain ⟨hnamed, htext⟩ := singleHead_named number
    have hall := Reads.block hnamed hbody
    rwa [htext] at hall
  | .list w =>
    obtain ⟨hnamed, htext⟩ := listHead_named w
    have hall := Reads.collection hnamed options.withTotals hbody
    rwa [htext] at hall

end ProjectConfig

/-! ## Accounts -/

/-- The fields of the scope `essential` of a kind of account. -/
def AccountKind.essentialFields : AccountKind → List Field
  | .organization => organizationEssential
  | .user => userEssential

/-- The fields of the scope `info` of a kind of account. -/
def AccountKind.infoFields : AccountKind → List Field
  | .organization => organizationInfo
  | .user => userInfo

namespace AccountConfig

/-- The fields that one resolved scope contributes. -/
def partFields (c : AccountConfig) (kind : AccountKind) (scopes : ResolvedScopes AccountScope)
    (options : DocumentOptions) : AccountScope → List Selection
  | .essential => fieldSelections kind.essentialFields
  | .info => fieldSelections kind.infoFields
  | .packages => [scopedField "packages" (scopes.windowOf .packages) options packageFields]
  | .projects => [c.projects.field (.list (scopes.windowOf .projects)) options]
  | .all => []

/-- The fields of an account node. -/
def fields (c : AccountConfig) (kind : AccountKind) (options : DocumentOptions) :
    List Selection :=
  (c.resolved options).tags.flatMap (c.partFields kind (c.resolved options) options)

/-- The scopes of an account are read as the fields of the account. -/
theorem reads (c : AccountConfig) (kind : AccountKind) (options : DocumentOptions) :
    Reads [c.selection kind options] (c.fields kind options) := by
  have hpart : ∀ scope ∈ (c.resolved options).tags,
      Reads (c.parts kind (c.resolved options) options scope)
        (c.partFields kind (c.resolved options) options scope) := by
    intro scope _
    cases scope with
    | essential => cases kind <;> exact Reads.layout (by decide) 1
    | info => cases kind <;> exact Reads.layout (by decide) 1
    | packages => exact Reads.scopedCollection _ _ (by decide) (by decide) _ options
    | projects => exact c.projects.reads _ options
    | all => exact Reads.nil
  exact Reads.stack (Reads.flatMap hpart)

end AccountConfig

/-! ## Documents -/

namespace Account

/-- The head of the root field of an account. -/
def head (account : Account) : Head :=
  ⟨none, account.kind.text, [⟨"login", .scalar (.string account.login)⟩]⟩

/-- The root field of an account. -/
def rootField (account : Account) (fields : List Selection) : Selection :=
  .node account.head (.leaf (.plain "login") :: fields)

/-- The login stands in a literal, so that it stays one argument whatever it holds. -/
theorem text_head (account : Account) :
    account.head.text = account.kind.text ++ "(login: " ++ literal account.login ++ ")" := by
  apply String.ext
  simp [head, Head.text, argumentsText, Argument.text, Value.text, Scalar.text]

theorem isNamed_head (account : Account) : account.head.isNamed = true := by
  have hkind : isName account.kind.text = true := by
    cases account.kind <;> decide
  have hname : isName "login" = true := by decide
  simp [head, Head.isNamed, Value.isNamed, Scalar.isNamed, hkind, hname]

/-- The login is always asked for, before anything else of an account. -/
theorem reads_root (account : Account) {body : String} {fields : List Selection}
    (hbody : Reads [body] fields) : Reads [account.root body] [account.rootField fields] := by
  have hlogin := Reads.stack (Reads.cons (Reads.name "login" (by decide)) hbody)
  have hall := Reads.block account.isNamed_head hlogin
  rwa [text_head] at hall

end Account

/-- The document for an account is read token by token as the query for its fields, for every
configuration. -/
theorem tokens?_accountDocument (account : Account) (c : AccountConfig)
    (options : DocumentOptions) : tokens? (accountDocument account c options) =
      some (documentTokens [account.rootField (c.fields account.kind options)]) :=
  tokens?_document (account.reads_root (c.reads account.kind options))

/-- The same for a project; here the account has one field besides its login. -/
theorem tokens?_projectDocument (account : Account) (identity : ProjectIdentity)
    (c : ProjectConfig) (options : DocumentOptions) :
    tokens? (projectDocument account identity c options) =
      some (documentTokens [account.rootField [c.field (.single identity) options]]) :=
  tokens?_document (account.reads_root (c.reads (.single identity) options))

/-- The same for a repository, which is a root of its own. -/
theorem tokens?_repositoryDocument (repository : RepositoryAddress) (c : RepositoryConfig)
    (options : DocumentOptions) : tokens? (repositoryDocument repository c options) =
      some (documentTokens [repositoryField repository c options]) :=
  tokens?_document (reads_repository repository c options)

/-- The fields of a text with the tokens of a document. -/
theorem parse?_of_tokens {text : String} {fields : List Selection}
    (h : tokens? text = some (documentTokens fields)) : parse? text = some fields := by
  rw [parse?, h, Option.bind_some, parseTokens?_documentTokens]

end ScopeComposer
