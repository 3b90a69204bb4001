import GpuCounters.Counter.Mode
import GpuCounters.Counter.Report
import GpuCounters.Dump.Field

/-!
# The layout of a dump

A dump opens with a line of names and a line of units. The first column labels the rows. Each
metric has a column, and one for its greatest values behind it if these are wanted; dumps of a
stream end with a column for each value of the driver's further information.
-/

namespace GpuCounters.Dump

/-- What a dump has columns for. -/
structure Layout where
  mode : Mode
  metrics : List Descriptor
  information : List Descriptor
  /-- Whether each metric has a column for its greatest values -/
  includeMax : Bool
  deriving DecidableEq, Repr

/-- The name of the column of labels, which says how the dump was sampled. -/
def labelTitle : Mode → String
  | .event => "Operation"
  | .time => "Sampling"

/-- What the name of a column for greatest values ends in. -/
def maxMark : String := ".max"

/-- What the name of a column for further information starts with. -/
def informationMark : String := "io."

namespace Layout

/-- The further information that has columns: only a stream has any. -/
def shownInformation (layout : Layout) : List Descriptor :=
  match layout.mode with
  | .time => layout.information
  | .event => []

/-- The names and units of all columns behind that of the labels. -/
def columns (layout : Layout) : List Descriptor :=
  (layout.metrics.flatMap fun metric ↦
    metric :: if layout.includeMax then [⟨metric.name ++ maxMark, metric.unit⟩] else []) ++
  layout.shownInformation.map fun value ↦ ⟨informationMark ++ value.name, value.unit⟩

def nameLine (layout : Layout) : List Char :=
  joinFields ((labelTitle layout.mode).toList ::
    layout.columns.map fun column ↦ escapeField column.name.toList)

def unitLine (layout : Layout) : List Char :=
  joinFields ([] :: layout.columns.map fun column ↦ escapeField column.unit.toList)

end Layout

end GpuCounters.Dump
