import ScopeComposer.Server.Fetch
import ScopeComposer.Server.Uri

/-!
# Clients

A transport over the network. A client is only built for an address that makes sense, and it only
sends tokens: the number of an installation never leaves it.
-/

namespace ScopeComposer

/-- A client of a server. -/
structure Client where
  /-- The address of the server, if it is not the usual one. -/
  baseUrl : Option String
  /-- The address makes sense. -/
  isValid_baseUrl : ∀ url ∈ baseUrl, Uri.isValid url = true

namespace Client

/-- The text of what is wrong with an address. -/
def addressError (url : String) : String := "Invalid GitHub API base URL: " ++ url

/-- A client of the server with an address, or the text of what is wrong with it. -/
def ofBaseUrl : Option String → Except String Client
  | none => .ok { baseUrl := none, isValid_baseUrl := by simp }
  | some url =>
    if h : Uri.isValid url = true then
      .ok { baseUrl := some url, isValid_baseUrl := by simpa using h }
    else .error (addressError url)

/-- What is wrong with a credential that carries no token. -/
def noToken (kind : CredentialKind) (id : UInt64) : String :=
  kind.text ++ " credential carries installation id " ++ toString id ++
    " instead of an installation token"

/-- Whether a text can stand in the head of a request: it holds no control character but tabs. This
is the rule of HTTP for the value of a header field, as the library that builds requests checks it
when it is given a token; it stands for that check and for nothing else. -/
def isHeadText (s : String) : Bool := s.toList.all fun c => c = '\t' || (' ' ≤ c && c ≠ '\x7f')

/-- Whether a request can be made on behalf of a credential; one that carries no token is refused
before there is a request. -/
def canRequest : Authorization → Bool
  | .installation _ => true
  | .token secret => isHeadText secret

/-- The transport of a client over a network. -/
def transport (network : Transport) : Transport := fun i call =>
  match call.credential.auth with
  | .installation id => .error (.credential (noToken call.credential.kind id))
  | .token _ => network i call

/-- A network on which no server answers. -/
def unreachable : Transport := fun _ _ => .error (.network "the server could not be reached")

end Client

end ScopeComposer
