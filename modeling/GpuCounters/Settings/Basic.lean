import GpuCounters.Driver.Basic
import GpuCounters.Storage.Path
import GpuCounters.Summary.Table
import GpuCounters.Text.Blank

/-!
# Settings

What an engine is told before it starts: how and what to sample, through which library, and where
dumps go. By default they go to the directory for temporary files, with `TMPDIR` taken to be unset.
-/

namespace GpuCounters

open Storage

structure Settings where
  sampling : Mode := .event
  metricSet : String := "ComputeBasic"
  /-- A file with metric definitions of the user's own -/
  metricsFile? : Option String := none
  /-- Whether the greatest values of metrics are decoded and dumped -/
  includeMax : Bool := false
  /-- Whether the summary is printed in the end -/
  reportTiming : Bool := true
  /-- The library that reaches the driver -/
  driverLibrary : String := "libmdlens_mdapi.so"
  /-- Where the directory of dumps is -/
  dumpRoot : Path := ⟨"/tmp"⟩
  deriving DecidableEq, Repr, Inhabited

namespace Settings

/-- Why settings are of no use. -/
inductive Invalid
  /-- The metric set has no name. -/
  | blankMetricSet
  /-- The name of the metric set cannot be part of a file's name. -/
  | unsafeMetricSet (name : String)
  /-- The library has no name. -/
  | blankLibrary
  deriving DecidableEq, Repr

def Invalid.message : Invalid → String
  | .blankMetricSet => "Metric set name must not be empty"
  | .unsafeMetricSet name => "Invalid metric set name: " ++ name
  | .blankLibrary => "Driver library must not be empty"

/-- Whether a text has nothing but white space in it. -/
def isBlankText (text : String) : Bool := Text.isAllBlank text.toList

/-- Whether a character cannot be in a file's name. -/
def isUnsafe (c : Char) : Bool := c = '/' || c = '\x00'

def flaw? (settings : Settings) : Option Invalid :=
  if isBlankText settings.metricSet then some .blankMetricSet
  else if settings.metricSet.toList.any isUnsafe then some (.unsafeMetricSet settings.metricSet)
  else if isBlankText settings.driverLibrary then some .blankLibrary
  else none

def IsValid (settings : Settings) : Prop := settings.flaw? = none

instance (settings : Settings) : Decidable settings.IsValid :=
  inferInstanceAs (Decidable (_ = _))

def request (settings : Settings) : Driver.Request where
  mode := settings.sampling
  library := settings.driverLibrary
  metricSet := settings.metricSet
  metricsFile? := settings.metricsFile?
  includeMax := settings.includeMax

/-- Whether an engine with the settings has a summary. Samples of a stream are not summed up. -/
def reportsSummary (settings : Settings) : Bool :=
  settings.reportTiming && settings.sampling = .event

def summary? (settings : Settings) (aggregator : Summary.Aggregator) : Option String :=
  if settings.reportsSummary then Summary.table? aggregator else none

theorem isValid_iff (settings : Settings) :
    settings.IsValid ↔
      isBlankText settings.metricSet = false ∧ settings.metricSet.toList.any isUnsafe = false ∧
        isBlankText settings.driverLibrary = false := by
  unfold IsValid flaw?
  cases isBlankText settings.metricSet <;> cases settings.metricSet.toList.any isUnsafe <;>
    cases isBlankText settings.driverLibrary <;> simp

end Settings

end GpuCounters
