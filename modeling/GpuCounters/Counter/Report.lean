import GpuCounters.Counter.Value

/-!
# Counter reports

A report lists the values of the metrics of a metric set, some with the greatest value they can
take, and the values of the driver's further information.
-/

namespace GpuCounters

/-- The name and the unit of a metric, or of a value of the driver's further information. -/
structure Descriptor where
  name : String
  unit : String
  deriving DecidableEq, Repr, Inhabited

structure Metric where
  name : String
  value : Value
  /-- The greatest value that the metric can take, where the report has it -/
  max? : Option Value := none
  deriving DecidableEq, Repr

/-- A decoded counter report. -/
structure Report where
  /-- The metrics, in the order of the metric set -/
  metrics : List Metric := []
  /-- The driver's further information, in the order of its descriptors -/
  information : List Value := []
  deriving DecidableEq, Repr, Inhabited

namespace Report

def isEmpty (report : Report) : Bool := report.metrics.isEmpty

def length (report : Report) : Nat := report.metrics.length

/-- The first metric of the given name. -/
def get? (report : Report) (name : String) : Option Metric :=
  report.metrics.find? (·.name = name)

theorem isEmpty_iff (report : Report) : report.isEmpty = true ↔ report.metrics = [] := by
  simp [isEmpty]

theorem length_eq_zero_iff (report : Report) : report.length = 0 ↔ report.isEmpty = true := by
  simp [length, isEmpty]

/-- A metric that is found has the name it was looked for by. -/
theorem name_of_get? {report : Report} {name : String} {metric : Metric}
    (h : report.get? name = some metric) : metric.name = name := by
  simpa using List.find?_some h

end Report

end GpuCounters
