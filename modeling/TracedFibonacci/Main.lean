import TracedFibonacci.Program
import TracedFibonacci.Text.Uuid

/-!
# The executable

Reads the environment and the file of settings and, if the program comes to a run, the whole input,
and prints what the program wrote. There is no network here: nothing is listened at, and no trace
can be sent.
-/

namespace TracedFibonacci.Executable

/-- The variables that the program looks up. -/
def variableNames : List String :=
  [Environment.endpointName, Environment.serviceNameName, Environment.metricsAddressName,
    Environment.logLevelName, Filter.variableName]

/-- The environment of the process. -/
def readEnvironment : IO Environment := do
  let values ← variableNames.mapM fun name ↦ return (name, ← IO.getEnv name)
  return fun name ↦ (values.lookup name).join

/-- The content of a file, or why it cannot be read. -/
def readFile (path : String) : IO FileContent := do
  try
    return .ok (← IO.FS.readBinFile path).toList
  catch
    | .noFileOrDirectory .. => return .missing
    | .inappropriateType .. => return .directory
    | e => return .error ⟨.other, some (toString e)⟩

/-- The files that a command line names. -/
def readFiles (args : List String) : IO Files := do
  match CommandLine.read args with
  | .ok { config? := some path, .. } =>
    let content ← readFile path
    return fun p ↦ if p = path then content else .missing
  | _ => return fun _ ↦ .missing

/-- All that arrives at the input. -/
partial def readInput (input : IO.FS.Stream) (taken : List Arrival) : IO (List Arrival) := do
  let bytes ← input.read 8192
  if bytes.isEmpty then return taken.reverse
  readInput input (.bytes bytes.toList :: taken)

/-- What is around the process, apart from its input. -/
def readSurroundings (args : List String) : IO Surroundings := do
  let runId := Text.Uuid.ofBytes (← IO.getRandomBytes 16).toList
  return {
    files := ← readFiles args
    environment := ← readEnvironment
    input := []
    exportFault? := some "no connection"
    placeholders := { runId, elapsed := "0ns" } }

/-- Prints what the program wrote, and gives its exit code. -/
def print (e : Execution) : IO UInt32 := do
  e.output.forM IO.println
  e.complaints.forM IO.eprintln
  return UInt32.ofNat (e.exitCode?.getD 0)

end TracedFibonacci.Executable

open TracedFibonacci in
/-- Performs the program with the arguments of the process. -/
def main (args : List String) : IO UInt32 := do
  let surroundings ← Executable.readSurroundings args
  match Program.plan surroundings args with
  | .error ended => Executable.print ended
  | .ok plan =>
    let input ← Executable.readInput (← IO.getStdin) []
    Executable.print (Program.execute { surroundings with input } plan none)
