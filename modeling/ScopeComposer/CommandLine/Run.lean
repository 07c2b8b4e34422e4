import ScopeComposer.CommandLine.Compose
import ScopeComposer.Server.Client
import ScopeComposer.Settings.File

/-!
# Runs of the program

A run reads its arguments, takes over the settings, composes the document and prints it, or sends it
and prints the envelope of the result. What a run finds around it is given as a value, so a run is a
function.
-/

namespace ScopeComposer.CommandLine

/-- The variables of the environment that a run may look at. -/
def variableNames : List String :=
  ["GITHUB_SCOPE_DEV_MODE", "GITHUB_SCOPE_IMPLICIT_ESSENTIAL",
    "GITHUB_SCOPE_DEFAULT_ISSUE_STATES", "GITHUB_SCOPE_MAX_RETRIES",
    "GITHUB_SCOPE_REQUEST_TIMEOUT", "GITHUB_SCOPE_API_BASE_URL", "GITHUB_SCOPE_GITHUB_TOKEN",
    "GITHUB_TOKEN", "XDG_CONFIG_HOME", "HOME"]

/-- What a run finds around it. -/
structure Surroundings where
  /-- The variables of the environment. -/
  environment : Environment
  /-- What is stored at a path, or at the usual place of the settings. -/
  settingsFile : Option String → Stored
  /-- The text of a body at a path, if it can be read. -/
  bodyText : String → Option String
  /-- The network. -/
  network : Transport

/-- What a run leaves behind. -/
structure Report where
  /-- The exit code. -/
  status : UInt8
  /-- What is printed. -/
  output : String
  /-- What is printed as an error. -/
  errors : String
  /-- The calls that were made, in order. -/
  calls : List Call

namespace Report

/-- A run that succeeds with an output of its own line. -/
def success (text : String) : Report := ⟨0, text ++ "\n", "", []⟩

/-- A run that stops for a reason other than validation. -/
def failure (reason : String) : Report := ⟨1, "", "Error: " ++ reason ++ "\n", []⟩

/-- A run that breaks off because a token cannot stand in the head of a request. The library that
builds requests does not report this but gives up, and the program with it. The text stands for what
is printed then, which is the library's own; nothing reads it. -/
def brokenOff : Report := ⟨101, "", "the token cannot stand in the head of a request\n", []⟩

/-- A run that prints an envelope after some calls. -/
def envelope (status : UInt8) (e : Envelope Json) (calls : List Call) : Report :=
  ⟨status, (e.toJson id).pretty ++ "\n", "", calls⟩

end Report

/-- The name of the program. -/
def programName : String := "github-scope-cli"

/-- The version of the program. -/
def programVersion : String := "0.1.0"

/-- How the program is called. -/
def usage : String :=
  "Usage: " ++ programName ++ " [OPTIONS] <" ++ "|".intercalate (CommandForm.all.map (·.1)) ++ ">"

/-- What is reported of a command line that is not carried out. -/
def Stop.report : Stop → Report
  | .help => .success usage
  | .version => .success (programName ++ " " ++ programVersion)
  | .misuse => ⟨2, "", usage ++ "\n", []⟩

/-- What is reported of a command that has no document. A refused scope is reported as an envelope,
like the failure of a call. -/
def ComposeError.report : ComposeError → Report
  | .scope reason => .envelope 2 (.failure (.ofValidation reason)) []
  | other => .failure other.message

namespace Invocation

/-- The settings of a run: those of its file and of the environment, and the limit of time from the
command line before both. -/
def settings (i : Invocation) (around : Surroundings) : Except SettingsError Settings := do
  let settings ← Settings.load (around.settingsFile i.common.config) around.environment
  .ok { settings with requestTimeout := i.common.requestTimeout.or settings.requestTimeout }

/-- The token of a run: the first one that is given at all, unless that one is blank. -/
def token? (i : Invocation) (env : Environment) : Option String :=
  ((i.common.token.or (env "GITHUB_SCOPE_GITHUB_TOKEN")).or (env "GITHUB_TOKEN")).filter
    fun token => !Text.isBlankText token

/-- The credential of a run. -/
def credential? (i : Invocation) (env : Environment) : Option Credential :=
  (i.token? env).map fun token => ⟨.token token, if i.common.app then .app else .token⟩

/-- Sends a document. -/
def send (i : Invocation) (around : Surroundings) (settings : Settings) (c : Composed) :
    ScopeComposer.Run Json :=
  let fetcher : Fetcher :=
    { options := settings.documentOptions, maxRetries := settings.maxRetries }
  fetcher.execute .value (Client.transport around.network) c.name c.document
    (i.credential? around.environment)

/-- What is reported of a document that has been composed. -/
def conclude (i : Invocation) (around : Surroundings) (settings : Settings) (c : Composed) :
    Report :=
  if i.common.execute then
    match Client.ofBaseUrl settings.baseUrl with
    | .error reason => .failure reason
    | .ok _ =>
      if (i.credential? around.environment).all fun credential => Client.canRequest credential.auth
      then
        let sent := i.send around settings c
        .envelope (if sent.envelope.isSuccess then 0 else 1) sent.envelope sent.calls
      else .brokenOff
  else .success c.document

/-- Carries out an invocation. -/
def run (i : Invocation) (around : Surroundings) : Report :=
  match i.settings around with
  | .error _ => .failure "Failed to load composer configuration"
  | .ok settings =>
    match i.command.compose settings around.bodyText with
    | .error reason => reason.report
    | .ok composed => i.conclude around settings composed

end Invocation

/-- Carries out a command line. -/
def run (args : List String) (around : Surroundings) : Report :=
  match Invocation.ofArguments args with
  | .error stop => stop.report
  | .ok invocation => invocation.run around

end ScopeComposer.CommandLine
