import ScopeComposer.Scope.Error
import ScopeComposer.Settings.Basic
import ScopeComposer.Settings.Error
import ScopeComposer.Text.Numeral
import ScopeComposer.Text.Split

/-!
# Settings from the environment

Six variables of the environment each replace one setting. They are looked at in a fixed order, and
the first one whose value does not fit is reported; one that is not set leaves its setting as it is.
-/

namespace ScopeComposer

/-- The variables that are set, by their names. -/
abbrev Environment := String → Option String

namespace Environment

/-- The environment of some variables with their values. -/
def ofList (assigned : List (String × String)) : Environment := fun name => assigned.lookup name

/-- Reads a truth value: one of a few words in any case of ASCII letters; nothing is false. -/
def flag (value : String) : Except String Bool :=
  let word := (Text.trim value).map Char.toLower
  if ["1", "true", "yes", "on"].contains word then .ok true
  else if ["", "0", "false", "no", "off"].contains word then .ok false
  else .error "expected a boolean"

/-- Reads an unsigned integer below a bound. -/
def number (bound : Nat) (value : String) : Except String Nat :=
  match Text.readBelow bound (Text.trim value) with
  | some n => .ok n
  | none => .error "expected a non-negative integer"

/-- Reads a list of issue states; nothing is the empty list. -/
def issueStates (value : String) : Except String (List IssueState) :=
  ((Text.entries value).mapM (Tag.parse IssueState)).mapError ValidationError.message

/-- Reads an address; a blank one is none. -/
def address (value : String) : Except String (Option String) :=
  .ok (if Text.isBlankText value then none else some value)

/-- The value of a setting: that of its variable if it is set, and the present one otherwise. -/
def override {α : Type} (env : Environment) (name : String) (read : String → Except String α)
    (present : α) : Except SettingsError α :=
  match env name with
  | none => .ok present
  | some value => (read value).mapError (.invalidValue name value)

end Environment

namespace Settings

open Environment

/-- The settings after the variables of the environment have replaced some of them. -/
def withEnvironment (env : Environment) (s : Settings) : Except SettingsError Settings := do
  let withTotals ← env.override "GITHUB_SCOPE_DEV_MODE" flag s.withTotals
  let withEssential ← env.override "GITHUB_SCOPE_IMPLICIT_ESSENTIAL" flag s.withEssential
  let defaultIssueStates ←
    env.override "GITHUB_SCOPE_DEFAULT_ISSUE_STATES" issueStates s.defaultIssueStates
  let maxRetries ←
    env.override "GITHUB_SCOPE_MAX_RETRIES" (fun value => (number UInt32.size value).map .ofNat)
      s.maxRetries
  let requestTimeout ←
    env.override "GITHUB_SCOPE_REQUEST_TIMEOUT"
      (fun value => (number UInt64.size value).map fun n => some (.ofNat n)) s.requestTimeout
  let baseUrl ← env.override "GITHUB_SCOPE_API_BASE_URL" address s.baseUrl
  .ok { s with withTotals, withEssential, defaultIssueStates, maxRetries, requestTimeout,
               baseUrl }

end Settings

end ScopeComposer
