import ScopeComposer.Settings.Environment
import ScopeComposer.Toml.Document

/-!
# Settings from a file

Settings are kept in a TOML document. Each key that is not there leaves its setting at the standard
value, keys that mean nothing are passed over, and one value that does not fit spoils the document.
-/

namespace ScopeComposer

/-- What is found under a path. -/
inductive Stored where
  /-- Nothing. -/
  | missing
  /-- A directory. -/
  | directory
  /-- A file. -/
  | file (content : ByteArray)

namespace Stored

/-- The text of a file, if it is one. -/
def text? : Stored → Option String
  | .file content => String.fromUTF8? content
  | _ => none

/-- A file with a text. -/
def ofText (text : String) : Stored := .file text.toUTF8

end Stored

namespace Settings

/-- Where the settings of a user are kept: in the directory for settings that the environment names
by an absolute path, or else below the home directory. -/
def usualPath? (env : Environment) : Option String :=
  let named := (env "XDG_CONFIG_HOME").filter (·.startsWith "/")
  let below := (env "HOME").map (· ++ "/.config")
  (named.or below).map (· ++ "/github-scope-query/config.toml")

/-- Reads a truth value. -/
def tomlFlag? : Toml.Value → Option Bool
  | .boolean b => some b
  | _ => none

/-- Reads a text. -/
def tomlText? : Toml.Value → Option String
  | .string s => some s
  | _ => none

/-- Reads an unsigned integer below a bound. -/
def tomlNumber? (bound : Nat) : Toml.Value → Option Nat
  | .integer n => if 0 ≤ n ∧ n < bound then some n.toNat else none
  | _ => none

/-- Reads a page size. -/
def tomlPageSize? : Toml.Value → Option PageSize
  | .integer n => PageSize.ofInt? n
  | _ => none

/-- Reads an issue state: its name, or a table that has it as its only key with nothing under it. -/
def tomlState? : Toml.Value → Option IssueState
  | .string name => Tag.ofName? name
  | .table [(name, .table [])] => Tag.ofName? name
  | .table [(name, .array [])] => Tag.ofName? name
  | _ => none

/-- Reads a list of issue states. -/
def tomlStates? : Toml.Value → Option (List IssueState)
  | .array items => items.mapM tomlState?
  | _ => none

/-- Reads what stands under a key of a document, which may not be there. -/
def tomlEntry? {α : Type} (entries : List (String × Toml.Value)) (key : String)
    (read : Toml.Value → Option α) (absent : α) : Option α :=
  match entries.lookup key with
  | none => some absent
  | some value => read value

/-- The settings of a document. -/
def ofToml? (entries : List (String × Toml.Value)) : Option Settings := do
  let withTotals ← tomlEntry? entries "debug_total_count" tomlFlag? standard.withTotals
  let withEssential ←
    tomlEntry? entries "implicit_essential" tomlFlag? standard.withEssential
  let defaultIssueStates ←
    tomlEntry? entries "default_issue_states" tomlStates? standard.defaultIssueStates
  let defaultPageSize ←
    tomlEntry? entries "default_page_size" tomlPageSize? standard.defaultPageSize
  let maxRetries ←
    tomlEntry? entries "max_retries" (fun value => (tomlNumber? UInt32.size value).map .ofNat)
      standard.maxRetries
  let requestTimeout ←
    tomlEntry? entries "request_timeout_secs"
      (fun value => (tomlNumber? UInt64.size value).map fun n => some (.ofNat n))
      standard.requestTimeout
  let baseUrl ←
    tomlEntry? entries "api_base_url" (fun value => (tomlText? value).map some) standard.baseUrl
  some { withTotals, withEssential, defaultIssueStates, defaultPageSize, maxRetries,
         requestTimeout, baseUrl }

/-- The settings in a file, which has to be there. -/
def ofFile (stored : Stored) : Except SettingsError Settings :=
  match stored.text? with
  | none => .error .unreadable
  | some text =>
    match (Toml.document? text).bind ofToml? with
    | none => .error .malformed
    | some settings => .ok settings

/-- The settings of a run: those in a file, or the standard ones if there is none, with what the
environment replaces. -/
def load (stored : Stored) (env : Environment) : Except SettingsError Settings := do
  let settings ←
    match stored with
    | .file _ => ofFile stored
    | _ => .ok standard
  settings.withEnvironment env

end Settings

end ScopeComposer
