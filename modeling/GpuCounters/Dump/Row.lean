import GpuCounters.Dump.Layout

/-!
# Rows

A report is written as one row under its label. Its values go under the columns of their metrics,
and a metric that the report does not have leaves its columns empty.
-/

namespace GpuCounters.Dump

/-- The metric of a report that belongs in the column of the given position and name: the one at
that position if it has the name, and otherwise the first that has it. -/
def metricFor (report : Report) (position : Nat) (name : String) : Option Metric :=
  match report.metrics[position]? with
  | some metric => if metric.name = name then some metric else report.get? name
  | none => report.get? name

/-- The written form of a value, or nothing. -/
def cell (value : Option Value) : List Char :=
  match value with
  | some value => escapeField value.toText.toList
  | none => []

def metricCells (includeMax : Bool) (metric : Option Metric) : List (List Char) :=
  cell (metric.map (·.value)) :: if includeMax then [cell (metric.bind (·.max?))] else []

/-- The columns that the rows of a dump fill. -/
structure RowShape where
  /-- The names of the metrics -/
  metrics : List String
  includeMax : Bool
  /-- The number of columns for further information -/
  information : Nat
  deriving DecidableEq, Repr

def Layout.rowShape (layout : Layout) : RowShape :=
  ⟨layout.metrics.map (·.name), layout.includeMax, layout.shownInformation.length⟩

namespace RowShape

def cells (shape : RowShape) (report : Report) : List (List Char) :=
  (shape.metrics.zipIdx.flatMap fun (name, position) ↦
    metricCells shape.includeMax (metricFor report position name)) ++
  (List.range shape.information).map fun position ↦ cell report.information[position]?

def line (shape : RowShape) (label : String) (report : Report) : List Char :=
  joinFields (escapeField label.toList :: shape.cells report)

end RowShape

end GpuCounters.Dump
