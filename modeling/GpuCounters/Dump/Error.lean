import GpuCounters.Storage.Disk
import GpuCounters.Text.Quoted

/-!
# What can go wrong with a dump
-/

namespace GpuCounters.Dump

open Storage

/-- Why a text is no dump. -/
inductive Malformation
  /-- There is no line of names. -/
  | missingNames
  /-- There is no line of units. -/
  | missingUnits
  /-- There is not one unit for each column. -/
  | unitCount (units columns : Nat)
  /-- The column of labels has a name that no dump gives it. -/
  | unknownLabel (title : String)
  /-- The row of the given line has not one field for each column. -/
  | fieldCount (line fields columns : Nat)
  deriving DecidableEq, Repr

namespace Malformation

def line : Malformation → Nat
  | .missingNames => 1
  | .missingUnits => 2
  | .unitCount _ _ => 2
  | .unknownLabel _ => 1
  | .fieldCount line _ _ => line

def reason : Malformation → String
  | .missingNames => "missing metric name row"
  | .missingUnits => "missing metric unit row"
  | .unitCount units columns =>
    String.ofList (Nat.toDigits 10 units) ++ " units for " ++
      String.ofList (Nat.toDigits 10 columns) ++ " columns"
  | .unknownLabel title => "unknown label column " ++ Text.quote .double title
  | .fieldCount _ fields columns =>
    String.ofList (Nat.toDigits 10 fields) ++ " fields, expected " ++
      String.ofList (Nat.toDigits 10 columns)

end Malformation

/-- The wording of a fault of the system at a file. -/
def faultMessage (path : Path) (fault : Fault) : String :=
  "dump file " ++ path.text ++ ": " ++ fault.message

/-- The wording of a fault in a line of a file. -/
def lineMessage (path : Path) (line : Nat) (reason : String) : String :=
  "dump file " ++ path.text ++ " line " ++ String.ofList (Nat.toDigits 10 line) ++ ": " ++ reason

/-- Why a dump cannot be written or read. -/
inductive Error
  /-- The system refuses a request. -/
  | io (path : Path) (fault : Fault)
  /-- The file is no dump. -/
  | malformed (path : Path) (fault : Malformation)
  deriving DecidableEq, Repr

def Error.message : Error → String
  | .io path fault => faultMessage path fault
  | .malformed path fault => lineMessage path fault.line fault.reason

end GpuCounters.Dump
