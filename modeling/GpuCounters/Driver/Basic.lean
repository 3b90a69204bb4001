import GpuCounters.Counter.Mode
import GpuCounters.Counter.Report
import GpuCounters.Compute.Status

/-!
# Counter drivers

A connection to a counter driver is asked for with a sampling mode and a metric set. This module
holds what is asked and what can go wrong.
-/

namespace GpuCounters.Driver

structure Request where
  mode : Mode
  /-- The library that reaches the driver -/
  library : String
  metricSet : String
  /-- A file with metric definitions of the user's own -/
  metricsFile? : Option String
  /-- Whether the greatest values of metrics are wanted -/
  includeMax : Bool
  deriving DecidableEq, Repr

/-- Why a call of a driver failed. -/
inductive Error
  /-- The library cannot be loaded. -/
  | libraryUnavailable (library reason : String)
  /-- The driver has no metric set of that name. -/
  | metricSetNotFound (metricSet : String)
  /-- The file with metric definitions cannot be used. -/
  | invalidMetricsFile (path reason : String)
  /-- The driver cannot sample in that mode. -/
  | unsupportedMode (mode : Mode)
  /-- A call answered with a status of its own. -/
  | callFailed (call : String) (status : Status)
  deriving DecidableEq, Repr

def Error.message : Error → String
  | .libraryUnavailable library reason =>
    "driver library " ++ library ++ " could not be loaded: " ++ reason
  | .metricSetNotFound metricSet => "metric set " ++ metricSet ++ " not found"
  | .invalidMetricsFile path reason => "metrics file " ++ path ++ " is invalid: " ++ reason
  | .unsupportedMode mode => mode.name ++ " sampling is not supported by the driver"
  | .callFailed call status =>
    "driver call " ++ call ++ " failed with status " ++ status.toText

/-- How a stream is sampled. -/
structure StreamParameters where
  /-- The timer's period in nanoseconds -/
  period : UInt32
  /-- The size of the driver's buffer in bytes, zero for the greatest -/
  bufferSize : UInt32
  /-- The process to sample, zero for all -/
  process : UInt32
  deriving DecidableEq, Repr

/-- Sampling of all processes with the greatest buffer, at the given period in nanoseconds or the
longest one there is. -/
def StreamParameters.allProcesses (nanoseconds : Nat) : StreamParameters :=
  ⟨if nanoseconds < UInt32.size then .ofNat nanoseconds else .ofNat (UInt32.size - 1), 0, 0⟩

/-- A session samples its stream every ten milliseconds. -/
def streamPeriod : Nat := 10000000

end GpuCounters.Driver
