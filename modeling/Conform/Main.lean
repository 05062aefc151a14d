import Conform.CommandLine.Help
import Conform.Program

/-!
The command line: reads the files and the surroundings of a run, and writes what it says.
-/

namespace Conform.Main
open CommandLine (Invocation UsageFault)

/-- What a path leads to on the disk. -/
def entryAt (path : String) : IO (Option Entry) := do
  try
    let place ← IO.FS.realPath path
    if ← place.isDir then return some .directory
    if ← place.pathExists then
      let bytes ← IO.FS.readBinFile place
      return some ((String.fromUTF8? bytes).elim .unreadable .text)
    return none
  catch e =>
    match e with
    | .noFileOrDirectory .. => return none
    | _ => return some .unreadable

def filesAt (paths : List String) : IO Files := do
  let entries ← paths.mapM fun path => do return (path, ← entryAt path)
  return ⟨fun path => (Assoc.lookup path entries).join⟩

/-- The variables that a run takes notice of. -/
def variableNames : List String :=
  ["HOME", "XDG_CONFIG_HOME", CommandLine.configVariable, Invocation.formatVariable, "RUST_LOG"]

def surroundings : IO Environment := do
  let values ← variableNames.mapM fun name => do
    return (← IO.getEnv name).map fun value => (name, value)
  return values.filterMap id

def report (f : UsageFault) : IO Unit :=
  match f with
  | .helpAsked => IO.print CommandLine.help
  | .versionAsked => IO.print CommandLine.version
  | .nothingAsked => IO.eprint CommandLine.help
  | f => IO.eprint f.render

def run (arguments : List String) : IO UInt32 := do
  let env ← surroundings
  match Invocation.parse env arguments with
  | .error f =>
    report f
    return f.exitCode.toUInt32
  | .ok invocation =>
    let files ← filesAt (invocation.paths env)
    let colors ← (← IO.getStdout).isTty
    let ending := invocation.run files env colors
    IO.print ending.outcome.text
    (← IO.getStdout).flush
    IO.eprint ending.errorText
    return ending.exitCode.toUInt32

end Conform.Main

def main (arguments : List String) : IO UInt32 := Conform.Main.run arguments
