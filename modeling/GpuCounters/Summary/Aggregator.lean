import GpuCounters.Counter.Report
import GpuCounters.Summary.OrderedMap
import GpuCounters.Summary.Record

/-!
# Aggregation

Reports are folded into one record for each operation and each metric, so that what is kept does
not grow with the number of reports. Operations and metrics stay in the order of their first
coming.
-/

namespace GpuCounters.Summary

/-- What was seen under one operation. -/
structure Operation where
  metrics : OrderedMap Record := .empty
  /-- The number of reports -/
  calls : Nat := 0

namespace Operation

/-- The operation with one more number under a metric. -/
def observe (operation : Operation) (metric : String) (x : Binary64) : Operation :=
  { operation with
    metrics :=
      match operation.metrics.access? metric with
      | some (record, put) => put (record.observe x)
      | none => operation.metrics.insert metric (.first x) }

/-- The operation with the numbers of some metrics, and how many they were. -/
def observeAll (operation : Operation) : List Metric → Operation × Nat
  | [] => (operation, 0)
  | metric :: metrics =>
    match metric.value.toNumber? with
    | some x =>
      let (operation, folded) := (operation.observe metric.name x).observeAll metrics
      (operation, folded + 1)
    | none => operation.observeAll metrics

/-- As many values are folded in as there are numbers, whatever was seen before. -/
theorem observeAll_snd (operation : Operation) (metrics : List Metric) :
    (operation.observeAll metrics).2 = metrics.countP (·.value.toNumber?.isSome) := by
  induction metrics generalizing operation with
  | nil => rfl
  | cons metric metrics ih =>
    rw [observeAll]
    cases hnumber : metric.value.toNumber? with
    | none => simp [hnumber, ih]
    | some x => simp [hnumber, ih]

/-- The operation with one more report, and how many numbers the report had. -/
def aggregate (operation : Operation) (report : Report) : Operation × Nat :=
  { operation with calls := operation.calls + 1 }.observeAll report.metrics

def fold (operation : Operation) (report : Report) : Operation :=
  (operation.aggregate report).1

def record? (operation : Operation) (metric : String) : Option Record :=
  operation.metrics.get? metric

end Operation

/-- What was seen under every operation. -/
structure Aggregator where
  operations : OrderedMap Operation := .empty

namespace Aggregator

def empty : Aggregator := {}

instance : Inhabited Aggregator := ⟨empty⟩

/-- The aggregator with one more report under an operation, and how many numbers the report had. An
operation that was entered is always found, so that the last case never comes up. -/
def aggregate (aggregator : Aggregator) (operation : String) (report : Report) :
    Aggregator × Nat :=
  match aggregator.operations.accessOr operation {} with
  | some (seen, put) =>
    let (seen, folded) := seen.aggregate report
    (⟨put seen⟩, folded)
  | none => (aggregator, 0)

def add (aggregator : Aggregator) (operation : String) (report : Report) : Aggregator :=
  (aggregator.aggregate operation report).1

/-- How many metrics of a report have a number, and so are folded in. -/
def numbers (report : Report) : Nat :=
  report.metrics.countP (·.value.toNumber?.isSome)

def operation? (aggregator : Aggregator) (operation : String) : Option Operation :=
  aggregator.operations.get? operation

def record? (aggregator : Aggregator) (operation metric : String) : Option Record :=
  (aggregator.operation? operation).bind (·.record? metric)

def average? (aggregator : Aggregator) (operation metric : String) : Option Binary64 :=
  (aggregator.record? operation metric).bind (·.average?)

def size (aggregator : Aggregator) : Nat := aggregator.operations.size

/-- The aggregator of labelled reports, in order. -/
def ofRows (rows : List (String × Report)) : Aggregator :=
  rows.foldl (fun aggregator (label, report) ↦ aggregator.add label report) empty

@[simp] theorem ofRows_nil : ofRows [] = empty := rfl

/-- One more row is one more report. -/
@[simp] theorem ofRows_append_singleton (rows : List (String × Report)) (label : String)
    (report : Report) : ofRows (rows ++ [(label, report)]) = (ofRows rows).add label report := by
  simp [ofRows]

end Aggregator

end GpuCounters.Summary
