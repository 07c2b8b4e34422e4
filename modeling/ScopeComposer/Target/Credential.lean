import ScopeComposer.Json.Record

/-!
# Credentials

What a caller proves its identity with. A token is never shown: wherever a credential is printed,
stars stand in its place.
-/

namespace ScopeComposer

open Json (Record Decoder)

/-- How a credential was obtained. -/
inductive CredentialKind where
  /-- A personal access token. -/
  | token
  /-- An installation of an app. -/
  | app
deriving DecidableEq, Repr, Inhabited

namespace CredentialKind

/-- Both kinds. -/
def all : List CredentialKind := [.token, .app]

/-- The name of a kind on the wire. -/
def text : CredentialKind → String
  | .token => "TOKEN"
  | .app => "APP"

/-- The kind with a name. -/
def ofText? (s : String) : Option CredentialKind := all.find? fun kind => kind.text = s

/-- Decodes a kind from its name. -/
def decoder : Decoder CredentialKind := .variant (all.map fun kind => (kind.text, kind))

/-- A kind in diagnostics. -/
def diagnostic : CredentialKind → String
  | .token => "Token"
  | .app => "App"

end CredentialKind

/-- What a credential consists of. -/
inductive Authorization where
  /-- The number of an installation, which is no token yet. -/
  | installation (id : UInt64)
  /-- An access token. -/
  | token (secret : String)
deriving DecidableEq

namespace Authorization

/-- The value in diagnostics, without the secret. -/
def diagnostic : Authorization → String
  | .installation id => "Installation(" ++ toString id ++ ")"
  | .token _ => "Token(\"***\")"

/-- The value as JSON. -/
def toJson : Authorization → Json
  | .installation id => .nat id.toNat
  | .token secret => .str secret

/-- Decodes an installation from an integer and a token from a text. -/
def decoder : Decoder Authorization :=
  .either "AuthValue" (Decoder.uint64.map .installation) (Decoder.string.map .token)

end Authorization

/-- A credential. -/
structure Credential where
  /-- The token or the installation. -/
  auth : Authorization
  /-- How it was obtained. -/
  kind : CredentialKind
deriving DecidableEq

namespace Credential

/-- The credential in diagnostics, without the secret. -/
def diagnostic (c : Credential) : String :=
  "Credential \x7b auth: " ++ c.auth.diagnostic ++ ", auth_type: " ++ c.kind.diagnostic ++
    " \x7d"

/-- A credential as JSON. -/
def toJson (c : Credential) : Json :=
  .obj [("auth", c.auth.toJson), ("auth_type", .str c.kind.text)]

/-- Decodes a credential. -/
def decoder : Decoder Credential :=
  (Credential.mk
    <$> .required "auth" Authorization.decoder
    <*> .required "auth_type" CredentialKind.decoder : Record Credential).decoder "Credential"

end Credential

end ScopeComposer
