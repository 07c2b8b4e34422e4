import ScopeComposer.Compose.Account
import ScopeComposer.Reply.Envelope
import ScopeComposer.Server.Classification
import ScopeComposer.Server.Quota
import ScopeComposer.Target.Credential

/-!
# Fetching

Sending a document on behalf of a credential, with retries. A transport is what the server gives on
each call in turn. While a call ends with an internal failure and retries are left, the same call is
made again after a wait that doubles from one retry to the next; everything else ends the run.
-/

namespace ScopeComposer

/-- The body of a request: a document, and values for its variables if it has any. -/
structure Payload where
  /-- The document. -/
  query : String
  /-- The values of its variables. -/
  values : Option Json

namespace Payload

/-- The body of a request for a document without variables. -/
def ofDocument (document : String) : Payload := ⟨document, none⟩

/-- The body of a request as JSON; without values the member for them is left out. -/
def toJson (p : Payload) : Json :=
  .obj (("query", .str p.query) :: Json.optionalMember "variables" id p.values)

end Payload

/-- The body of the request for a document as JSON. -/
def payload (document : String) : Json := (Payload.ofDocument document).toJson

/-- A request on its way to the server. -/
structure Call where
  /-- The name of the query, for diagnostics. -/
  name : String
  /-- The body. -/
  payload : Payload
  /-- On whose behalf it is sent. -/
  credential : Credential

/-- The document of a request. -/
def Call.document (call : Call) : String := call.payload.query

/-- What a call gives: the body of a response, or why there is none. -/
abbrev Outcome := Except TransportError Response

/-- What each call in turn gives, counted from zero. -/
abbrev Transport := Nat → Call → Outcome

/-- A length of time in nanoseconds. -/
abbrev Duration := Nat

/-- The longest time that can be asked for. -/
def maxDuration : Duration := UInt64.size * 1000000000 - 1

/-- The longest time that is slept at once, thirty years of 365 days. This is a limit of the timer
and not of the loop that asks for the waits: the timer puts no deadline farther off than that, so a
longer wait ends early. -/
def maxSleep : Duration := 30 * 365 * 86400 * 1000000000

/-- The nanoseconds of a millisecond. -/
def nanosPerMilli : Nat := 1000000

/-- The largest factor by which the first wait grows. -/
def maxBackoffFactor : Nat := UInt32.size - 1

/-- The factor by which the wait before a retry is longer than the first one; the first retry has
number 1. -/
def backoffFactor (retry : Nat) : Nat :=
  if retry ≤ 32 then Nat.pow 2 (retry - 1) else maxBackoffFactor

/-- The wait that is asked for before a retry. -/
def backoff (base : Duration) (retry : Nat) : Duration :=
  min (base * backoffFactor retry) maxDuration

/-- A finished run. -/
structure Run (α : Type) where
  /-- What the last call amounted to. -/
  result : Except Failure α
  /-- The calls that were made, in order. -/
  calls : List Call
  /-- The waits that were asked for between them, in order. -/
  waits : List Duration

namespace Run

variable {α β : Type}

/-- The result of a run in its envelope. -/
def envelope (r : Run α) : Envelope α := .ofResult r.result

/-- How long was slept for each of the waits. -/
def slept (r : Run α) : List Duration := r.waits.map (min · maxSleep)

/-- The time that was spent waiting. -/
def waited (r : Run α) : Duration := r.slept.foldr (· + ·) 0

/-- Applies a function to the data. -/
def map (f : α → β) (r : Run α) : Run β := { r with result := r.result.map f }

/-- Whether a result is worth another try. -/
def isRetryable : Except Failure α → Bool
  | .error failure => failure.kind == .internal
  | .ok _ => false

/-- The data of what one call gave, or the failure that it amounts to. -/
def resultOf (d : Json.Decoder α) : Outcome → Except Failure α
  | .ok response => response.result d
  | .error e => .error (.ofTransport e)

/-- Makes a call, whose results are `outcome` in turn, and makes it again as long as that is worth
it and retries are left; `retries` is the number of those already made. -/
def make (outcome : Nat → Except Failure α) (base : Duration) (call : Call) :
    (left retries : Nat) → Run α
  | 0, retries => ⟨outcome retries, [call], []⟩
  | left + 1, retries =>
    if isRetryable (outcome retries) then
      let later := make outcome base call left (retries + 1)
      ⟨later.result, call :: later.calls, backoff base (retries + 1) :: later.waits⟩
    else ⟨outcome retries, [call], []⟩

/-!
## The loop over words

`make` counts retries with natural numbers. `makeCounted` is the same loop with the count, the
exponent and the factor of a wait in words of 32 bits, and with the message that ends it. Where a
sum or a difference is no word, it stops and says which one.
-/

end Run

/-- How documents are fetched. -/
structure Fetcher where
  /-- How documents are composed. -/
  options : DocumentOptions := .plain
  /-- How often a call is made again. -/
  maxRetries : UInt32 := 0
  /-- The wait before the first retry. -/
  baseDelay : Duration := 500 * nanosPerMilli

namespace Fetcher

variable {α : Type}

/-- The failure of a call without a credential. -/
def missingCredential : Failure where
  kind := .noCredential
  message := "no credential was provided for the upstream call"

/-- Sends a document on behalf of a credential. Without one nothing is sent. -/
def execute (f : Fetcher) (d : Json.Decoder α) (transport : Transport) (name document : String)
    (credential : Option Credential) : Run α :=
  match credential with
  | none => ⟨.error missingCredential, [], []⟩
  | some credential =>
    let call : Call := ⟨name, .ofDocument document, credential⟩
    Run.make (fun i => Run.resultOf d (transport i call)) f.baseDelay call f.maxRetries.toNat 0

/-- Fetches an account. -/
def account (f : Fetcher) (d : Json.Decoder α) (transport : Transport) (target : Account)
    (c : AccountConfig) (credential : Option Credential) : Run α :=
  f.execute d transport "account" (accountDocument target c f.options) credential

/-- Fetches a project. -/
def project (f : Fetcher) (d : Json.Decoder α) (transport : Transport) (target : Account)
    (identity : ProjectIdentity) (c : ProjectConfig) (credential : Option Credential) : Run α :=
  f.execute d transport "project" (projectDocument target identity c f.options) credential

/-- Fetches a repository. -/
def repository (f : Fetcher) (d : Json.Decoder α) (transport : Transport)
    (target : RepositoryAddress) (c : RepositoryConfig) (credential : Option Credential) : Run α :=
  f.execute d transport "repository" (repositoryDocument target c f.options) credential

/-- Fetches the request quota of a credential. -/
def quota (f : Fetcher) (transport : Transport) (credential : Option Credential) : Run Quota :=
  (f.execute QuotaData.decoder transport "rate_limit" quotaDocument credential).map (·.quota)

end Fetcher

end ScopeComposer
