import ScopeComposer.CommandLine.Run

/-!
# The program

Collects what a run needs from the environment, the files and the standard input, and prints what it
reports. There is no network here, so every call fails.
-/

namespace ScopeComposer.CommandLine

/-- What is stored at a path. -/
def storedAt (path : String) : IO Stored := do
  try
    let content ← IO.FS.readBinFile path
    return .file content
  catch
    | .noFileOrDirectory .. => return .missing
    | _ => return .directory

/-- The text of a body at a path, if it can be read. -/
def bodyAt (path : String) : IO (Option String) := do
  if path = standardInput then
    try
      let text ← (← IO.getStdin).readToEnd
      return some text
    catch _ => return none
  else return (← storedAt path).text?

/-- The variables of the environment that a run may look at. -/
def presentVariables : IO Environment := do
  let values ← variableNames.filterMapM fun name => do
    return (← IO.getEnv name).map fun value => (name, value)
  return .ofList values

/-- What an invocation finds around it. -/
def Invocation.surroundings (i : Invocation) : IO Surroundings := do
  let environment ← presentVariables
  let settings ←
    match i.common.config.or (Settings.usualPath? environment) with
    | some path => storedAt path
    | none => pure .missing
  let body ←
    match i.bodyPath? with
    | some path => bodyAt path
    | none => pure none
  return { environment, settingsFile := fun _ => settings, bodyText := fun _ => body,
           network := Client.unreachable }

/-- Prints a report and gives its exit code. -/
def Report.print (r : Report) : IO UInt32 := do
  IO.print r.output
  IO.eprint r.errors
  return r.status.toUInt32

end ScopeComposer.CommandLine

/-- Carries out a command line. -/
def main (args : List String) : IO UInt32 := do
  match ScopeComposer.CommandLine.Invocation.ofArguments args with
  | .error stop => stop.report.print
  | .ok invocation => (invocation.run (← invocation.surroundings)).print
