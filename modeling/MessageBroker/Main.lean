import MessageBroker.Demonstration
import MessageBroker.Environment.File

/-!
# Command line

Runs the demonstration with the environment and the files of the process, prints the log and tells
by the exit code whether there was a run.
-/

set_option autoImplicit false

namespace MessageBroker.CommandLine

/-- What reading a path as text gives. -/
def look (path : String) : IO FileState := do
  match ← (IO.FS.readBinFile path).toBaseIO with
  | .ok content => return (String.fromUTF8? content).elim .unreadable .text
  | .error (.noFileOrDirectory ..) => return .absent
  | .error _ => return .unreadable

/-- The first file of variables in the working directory and those above it. -/
def variableFile : IO (Option ByteArray) := do
  let depth := (← IO.currentDir).components.length
  for level in List.range depth do
    let path := String.join (List.replicate level "../") ++ ".env"
    if let .ok content ← (IO.FS.readBinFile path).toBaseIO then return some content
  return none

/-- The variables of the process among the given ones. -/
def readVariables (names : List String) : IO Environment := do
  let entries ← names.eraseDups.filterMapM fun name => do
    return (← IO.getEnv name).map fun value => (name, value)
  return ⟨entries⟩

/-- Variables that matter to a run in any case. -/
def runVariables : List String := ["HOME", "RUST_LOG"] ++ Overrides.variableNames

/-- Runs the demonstration in the environment of the process. -/
def run : IO (Except Demonstration.Failure (List LogEvent)) := do
  let file ← variableFile
  let mentioned := (file.map VariableLine.mentionedNames).getD []
  let environment := (← readVariables (runVariables ++ mentioned)).addFile? file
  let home := (environment.find? "HOME").getD ""
  let paths := match Overrides.ofEnvironment environment with
    | .ok overrides => Startup.candidates home overrides
    | .error _ => []
  let states ← paths.mapM fun path => return (path, ← look path)
  return Demonstration.run environment (fun path => (states.lookup path).getD .absent) home

end MessageBroker.CommandLine

/-- Prints the log of a run, or why there is none. -/
def main : IO UInt32 := do
  match ← MessageBroker.CommandLine.run with
  | .ok events =>
    for event in events do
      IO.println event.text
    return 0
  | .error failure =>
    IO.eprintln ("Error: " ++ failure.message)
    return 1
