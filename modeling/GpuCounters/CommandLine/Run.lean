import GpuCounters.CommandLine.Arguments
import GpuCounters.Counter.Json
import GpuCounters.Dump.Reader
import GpuCounters.Queue.Numerals
import GpuCounters.Queue.Properties
import GpuCounters.Settings.Load
import GpuCounters.Settings.Print
import GpuCounters.Telemetry

/-!
# Commands

A command prints what it is asked for, and says on the side how it went.
-/

namespace GpuCounters.CommandLine

open Storage

/-- What a command prints and says, and how it ends. -/
structure Outcome where
  exit : UInt8
  output : String
  /-- What is said on the side -/
  messages : String
  deriving DecidableEq, Repr

/-- What the commands look at. -/
structure Surroundings where
  /-- The text of each file, or why it cannot be read -/
  files : Path → Except Fault String
  /-- The names and values of the environment's variables -/
  environment : List (String × String)

def info (text : String) : String := "ℹ " ++ text ++ "\n"

def warning (text : String) : String := "⚠ " ++ text ++ "\n"

def failure (text : String) : String := "✗ " ++ text ++ "\n"

def success (text : String) : String := "✓ " ++ text ++ "\n"

/-- What a command does: what it prints and says, or why it failed. -/
abbrev Result := Except String (String × String)

/-! ## Summing up a dump -/

/-- The wording of a dump's error with its causes; the fault of the system is one. -/
def dumpError : Dump.Error → String
  | .io path fault => (Dump.Error.io path fault).message ++ ": " ++ fault.message
  | .malformed path fault => (Dump.Error.malformed path fault).message

def metricJson (name : String) (record : Summary.Record) : Option Json.Document :=
  record.average?.map fun average ↦
    .ofMembers
      [("metric", .ofString name), ("average", Json.ofBinary Json.double average),
        ("min", Json.ofBinary Json.double record.min),
        ("max", Json.ofBinary Json.double record.max)]

def summaryJson (aggregator : Summary.Aggregator) : Json.Document :=
  .array (aggregator.operations.toList.map fun (name, operation) ↦
    .ofMembers
      [("operation", .ofString name), ("calls", .ofNat operation.calls),
        ("metrics", .array (operation.metrics.toList.filterMap fun (metric, record) ↦
          metricJson metric record))])

def count (n : Nat) : String := String.ofList (Nat.toDigits 10 n)

/-- What is said of a dump that was read. -/
def readMessages (dump : String) (contents : Dump.Contents) : String :=
  info ("Read " ++ count contents.rows.length ++ " rows (" ++ count contents.metrics.length ++
    " metrics) from " ++ dump) ++
  match contents.mode with
  | .event => ""
  | .time => warning "Time-based dump: all samples are grouped under the sampling tag"

def report (surroundings : Surroundings) (dump : String) (json : Bool) : Result :=
  match Dump.ofFile ⟨dump⟩ (surroundings.files ⟨dump⟩) with
  | .error cause => .error ("Failed to read dump " ++ dump ++ ": " ++ dumpError cause)
  | .ok contents =>
    let messages := readMessages dump contents
    let aggregator := Summary.Aggregator.ofRows contents.rows
    if json then .ok ((summaryJson aggregator).toIndented ++ "\n", messages)
    else
      match Summary.table? aggregator with
      | some table => .ok (table, messages)
      | none => .ok ("", messages ++ warning "Dump contains no counter rows")

/-! ## Property lists -/

/-- The bit field of a property list that is spread over arguments; an empty list is none. -/
def bitsOfArguments (properties : List String) : Except String Queue.Bits :=
  match Queue.readNumeralList (" ".intercalate properties) with
  | .error bad => .error ("Invalid property list: " ++ bad.message)
  | .ok list =>
    match Queue.bitsOf (if list = [] then none else some list) with
    | .error refusal => .error ("Queue properties rejected: " ++ refusal.message)
    | .ok bits => .ok bits

/-- Express a property list as a bit field. -/
def translate (properties : List String) : Result :=
  match bitsOfArguments properties with
  | .error message => .error message
  | .ok bits =>
    .ok (success ("Queue properties: " ++ Decimal.hex bits.toNat ++ " (" ++
      Queue.describe bits ++ ")"), "")

/-! ## Settings -/

/-- The text of a file with settings. A file that is not there may be named without the ending
of its kind. -/
def settingsFile (surroundings : Surroundings) (file : String) : Option String :=
  match surroundings.files ⟨file⟩ with
  | .ok text => some text
  | .error .notText => none
  | .error _ => (surroundings.files ⟨file ++ ".toml"⟩).toOption

/-- Print the settings of a file and of the environment. -/
def config (surroundings : Surroundings) (file : Option String) : Result :=
  match Settings.load (file.map (settingsFile surroundings)) surroundings.environment with
  | .error cause => .error cause.message
  | .ok settings => .ok (settings.toToml, "")

/-! ## Running a command -/

/-- The variable that names a file with settings. -/
def fileVariable : String := "MDLENS_CONFIG"

def perform (surroundings : Surroundings) : Command → Result
  | .report dump json => report surroundings dump json
  | .translate properties => translate properties
  | .config file => config surroundings file

/-- The files that a command may look at. -/
def Command.paths : Command → List Path
  | .report dump _ => [⟨dump⟩]
  | .translate _ => []
  | .config none => []
  | .config (some file) => [⟨file⟩, ⟨file ++ ".toml"⟩]

/-- Run a command. The counts of the engine are those of one that has done nothing. -/
def runInvocation (surroundings : Surroundings) (invocation : Invocation) : Outcome :=
  match perform surroundings invocation.command with
  | .error message => ⟨1, "", failure message⟩
  | .ok (output, messages) =>
    ⟨0, output ++ (if invocation.metrics then ({} : Telemetry).toText else ""), messages⟩

/-- Run the command that arguments ask for, if they can be understood. -/
def run? (surroundings : Surroundings) (arguments : List String) : Option Outcome :=
  (parse? arguments (surroundings.environment.lookup fileVariable)).map
    (runInvocation surroundings)

end GpuCounters.CommandLine
