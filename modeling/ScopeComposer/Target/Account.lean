import ScopeComposer.Json.Record

/-!
# Accounts

An organization or a user, by login: the root of every document about an account.
-/

namespace ScopeComposer

open Json (Record Decoder)

/-- The kind of an account. -/
inductive AccountKind where
  | organization
  | user
deriving DecidableEq, Repr, Inhabited

namespace AccountKind

/-- Both kinds. -/
def all : List AccountKind := [.organization, .user]

/-- The name of a kind, which is also the root field of the GraphQL schema for it. -/
def text : AccountKind → String
  | .organization => "organization"
  | .user => "user"

/-- The kind with a name. -/
def ofText? (s : String) : Option AccountKind := all.find? fun kind => kind.text = s

/-- Decodes a kind from its name. -/
def decoder : Decoder AccountKind := .variant (all.map fun kind => (kind.text, kind))

end AccountKind

/-- An account, by its login. -/
structure Account where
  /-- The login. -/
  login : String
  /-- Whether the login belongs to an organization or to a user. -/
  kind : AccountKind
deriving DecidableEq, Repr, Inhabited

namespace Account

/-- An account as JSON. -/
def toJson (a : Account) : Json :=
  .obj [("login", .str a.login), ("account_type", .str a.kind.text)]

/-- Decodes an account. -/
def decoder : Decoder Account :=
  (Account.mk
    <$> .required "login" .string
    <*> .required "account_type" AccountKind.decoder : Record Account).decoder "AccountTarget"

end Account

end ScopeComposer
