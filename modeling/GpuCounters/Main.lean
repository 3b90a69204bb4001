import GpuCounters.CommandLine.Run

/-!
# The program

The program reads the files and variables that a command looks at, runs it and prints what it
says.
-/

namespace GpuCounters

open CommandLine Storage

def variableNames : List String :=
  ["MDLENS_CONFIG", "MDLENS_SAMPLING", "MDLENS_METRIC_SET", "MDLENS_METRICS_FILE",
    "MDLENS_INCLUDE_MAX_VALUES", "MDLENS_REPORT_TIMING", "MDLENS_DRIVER_LIBRARY",
    "MDLENS_DUMP_ROOT"]

def faultOf : IO.Error → Fault
  | .inappropriateType .. => .isADirectory
  | .noSuchThing .. => .notADirectory
  | .resourceExhausted .. => .noSpace
  | .invalidArgument .. => .nameTooLong
  | _ => .notFound

def readText (path : Path) : IO (Except Fault String) := do
  if !path.isClean then return .error .nullInPath
  try
    let bytes ← IO.FS.readBinFile path.text
    match String.fromUTF8? bytes with
    | some text => return .ok text
    | none => return .error .notText
  catch error => return .error (faultOf error)

def readVariables : IO (List (String × String)) :=
  variableNames.filterMapM fun name ↦ do
    return (← IO.getEnv name).map fun value ↦ (name, value)

end GpuCounters

open GpuCounters CommandLine in
/-- Run the command that the arguments ask for. -/
def main (arguments : List String) : IO UInt32 := do
  let environment ← readVariables
  match parse? arguments (environment.lookup fileVariable) with
  | none =>
    IO.eprintln "usage: mdlens [-v] [--metrics] report|translate|config ..."
    return 2
  | some invocation =>
    let files ← invocation.command.paths.mapM fun path ↦ do return (path, ← readText path)
    let outcome := runInvocation
      ⟨fun path ↦ (files.lookup path).getD (.error .notFound), environment⟩ invocation
    IO.print outcome.output
    IO.eprint outcome.messages
    return outcome.exit.toUInt32
