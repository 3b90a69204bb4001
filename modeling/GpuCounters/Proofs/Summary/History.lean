import GpuCounters.Proofs.Summary.Grouping
import Mathlib.Data.List.DropRight

/-!
# Aggregators as folds of their histories

An aggregator is filled and emptied by calls. What it holds after any calls is told by the reports
since it was emptied last: its operations and their metrics in the order of their first coming, and
for each metric under an operation the folds of the numbers that came for the two, in the order in
which they came. Nothing else about how reports, operations and metrics alternate plays a part.
-/

namespace GpuCounters

/-! ## Reports -/

def Value.isText : Value → Bool
  | .text _ => true
  | _ => false

theorem Value.isSome_toNumber? (value : Value) : value.toNumber?.isSome = !value.isText := by
  cases value <;> rfl

namespace Report

/-- The metrics that have a number, with it. -/
def readings (report : Report) : List (String × Binary64) :=
  report.metrics.filterMap fun metric ↦ metric.value.toNumber?.map (metric.name, ·)

def numbersOf (report : Report) (metric : String) : List Binary64 :=
  (report.metrics.filter (·.name = metric)).filterMap (·.value.toNumber?)

theorem under_readings (report : Report) (metric : String) :
    Summary.OrderedMap.under report.readings metric = report.numbersOf metric := by
  unfold Summary.OrderedMap.under readings numbersOf
  induction report.metrics with
  | nil => rfl
  | cons first metrics ih =>
    cases hnumber : first.value.toNumber? with
    | none => by_cases hname : first.name = metric <;> simp [hnumber, hname, ih]
    | some x => by_cases hname : first.name = metric <;> simp [hnumber, hname, ih]

theorem length_readings (report : Report) :
    report.readings.length = Summary.Aggregator.numbers report := by
  unfold readings Summary.Aggregator.numbers
  rw [List.length_filterMap_eq_countP]
  apply List.countP_congr
  intro metric hmetric
  rw [Option.isSome_map]

end Report

namespace Summary

/-! ## Records -/

/-- The record of some numbers: their number and the folds of addition, `min` and `max` over them
from the first one on. -/
def Record.ofNumbers? : List Binary64 → Option Record
  | [] => none
  | x :: xs =>
    some {
      sum := xs.foldl Binary.add x
      count := (x :: xs).length
      min := xs.foldl Binary.min x
      max := xs.foldl Binary.max x }

/-- The induction is on the numbers behind the first, with the record so far generalised. -/
theorem Record.foldl_observe (record : Record) (xs : List Binary64) :
    xs.foldl Record.observe record =
      ⟨xs.foldl Binary.add record.sum, record.count + xs.length,
        xs.foldl Binary.min record.min, xs.foldl Binary.max record.max⟩ := by
  induction xs generalizing record with
  | nil => rfl
  | cons x xs ih =>
    rw [List.foldl_cons, ih, Record.mk.injEq]
    refine ⟨rfl, ?_, rfl, rfl⟩
    rw [Record.count_observe, List.length_cons]
    omega

theorem Record.gather_observe (xs : List Binary64) :
    gather Record.first Record.observe xs = Record.ofNumbers? xs := by
  cases xs with
  | nil => rfl
  | cons x xs =>
    rw [gather, Record.foldl_observe, ofNumbers?, Record.count_first, List.length_cons,
      Nat.add_comm]
    rfl

theorem Record.count_of_ofNumbers? {xs : List Binary64} {record : Record}
    (h : Record.ofNumbers? xs = some record) : record.count = xs.length := by
  cases xs with
  | nil => cases h
  | cons x xs =>
    obtain rfl := Option.some.inj h
    rfl

/-! ## Operations -/

namespace Operation

def ofReports (reports : List Report) : Operation := reports.foldl fold {}

/-- One more number changes the record of its metric, if anything. -/
theorem metrics_observe {operation : Operation} (h : operation.metrics.WellIndexed)
    (metric : String) (x : Binary64) :
    (operation.observe metric x).metrics =
      operation.metrics.upsert metric (·.observe x) (.first x) := by
  rw [h.upsert_eq_access?, observe]
  cases operation.metrics.access? metric <;> rfl

/-- The induction is on the metrics: each that has a number is one more reading. -/
theorem metrics_observeAll {operation : Operation} (h : operation.metrics.WellIndexed)
    (metrics : List Metric) :
    (operation.observeAll metrics).1.metrics =
      operation.metrics.pushAll Record.first Record.observe
        (Report.readings { metrics := metrics }) := by
  induction metrics generalizing operation with
  | nil => rfl
  | cons metric metrics ih =>
    unfold Report.readings at ih ⊢
    rw [observeAll]
    cases hnumber : metric.value.toNumber? with
    | none =>
      rw [List.filterMap_cons_none (by rw [hnumber, Option.map_none])]
      exact ih h
    | some x =>
      have hwell : (operation.observe metric.name x).metrics.WellIndexed := by
        rw [metrics_observe h]
        exact h.upsert _ _ _
      rw [List.filterMap_cons_some (by rw [hnumber, Option.map_some])]
      exact (ih hwell).trans (by rw [metrics_observe h]; rfl)

theorem metrics_fold {operation : Operation} (h : operation.metrics.WellIndexed)
    (report : Report) :
    (operation.fold report).metrics =
      operation.metrics.pushAll Record.first Record.observe report.readings := by
  let called : Operation := { operation with calls := operation.calls + 1 }
  have hcalled : called.metrics.WellIndexed := h
  exact metrics_observeAll hcalled report.metrics

/-- The induction is on the reports from their end: each is one more call, and its readings come
behind those of the earlier ones. -/
theorem ofReports_spec (reports : List Report) :
    (ofReports reports).calls = reports.length ∧
      (ofReports reports).metrics =
        OrderedMap.empty.pushAll Record.first Record.observe (reports.flatMap Report.readings) := by
  induction reports using List.reverseRecOn with
  | nil => exact ⟨rfl, rfl⟩
  | append_singleton reports report ih =>
    obtain ⟨hcalls, hmetrics⟩ := ih
    have hwell : (ofReports reports).metrics.WellIndexed := by
      rw [hmetrics]
      exact (OrderedMap.wellIndexed_empty.pushAll _ _ _).1
    have hstep : ofReports (reports ++ [report]) = (ofReports reports).fold report :=
      List.foldl_append
    rw [hstep]
    constructor
    · rw [calls_fold, hcalls, List.length_append, List.length_singleton]
    · rw [metrics_fold hwell, hmetrics, ← OrderedMap.pushAll_append, List.flatMap_append,
        List.flatMap_singleton]

/-- Every number of a report counts in the record of its metric. -/
theorem sum_count_ofReports (reports : List Report) :
    ((ofReports reports).metrics.toList.map fun entry ↦ entry.2.count).sum =
      (reports.map Aggregator.numbers).sum := by
  obtain ⟨_, hmetrics⟩ := ofReports_spec reports
  rw [hmetrics]
  calc
    _ = (reports.flatMap Report.readings).length :=
      OrderedMap.sum_pushAll_empty Record.first Record.observe Record.count_first
        Record.count_observe _
    _ = (reports.map Aggregator.numbers).sum := by
      rw [List.length_flatMap]
      exact congrArg (fun f ↦ (reports.map f).sum) (funext Report.length_readings)

theorem record?_ofReports (reports : List Report) (metric : String) :
    (ofReports reports).record? metric =
      Record.ofNumbers? (reports.flatMap (Report.numbersOf · metric)) := by
  obtain ⟨_, hmetrics⟩ := ofReports_spec reports
  obtain ⟨_, _, hget⟩ := OrderedMap.pushAll_empty Record.first Record.observe
    (reports.flatMap Report.readings)
  rw [record?, hmetrics, hget, Record.gather_observe, OrderedMap.under_flatMap]
  simp only [Report.under_readings]

theorem gather_fold (reports : List Report) :
    gather ({} : Operation).fold fold reports =
      if reports = [] then none else some (ofReports reports) := by
  cases reports <;> rfl

end Operation

/-! ## Aggregators -/

namespace Aggregator

/-- The numbers that came for a metric under an operation. -/
def seen (rows : List (String × Report)) (operation metric : String) : List Binary64 :=
  (OrderedMap.under rows operation).flatMap (Report.numbersOf · metric)

/-- Whether an aggregator sums up labelled reports. -/
structure Sums (rows : List (String × Report)) (aggregator : Aggregator) : Prop where
  operations : aggregator.operations.keys = (rows.map Prod.fst).eraseDups
  listed : ∀ name operation, aggregator.operation? name = some operation ↔
    (name, operation) ∈ aggregator.operations.toList
  calls : ∀ name operation, aggregator.operation? name = some operation →
    operation.calls = (OrderedMap.under rows name).length
  metrics : ∀ name operation, aggregator.operation? name = some operation →
    operation.metrics.keys =
      (((OrderedMap.under rows name).flatMap Report.readings).map Prod.fst).eraseDups
  listedRecord : ∀ name operation metric record, aggregator.operation? name = some operation →
    (aggregator.record? name metric = some record ↔ (metric, record) ∈ operation.metrics.toList)
  /-- Each value that is not a text counts in one record -/
  counts : ∀ name operation, aggregator.operation? name = some operation →
    (operation.metrics.toList.map fun entry ↦ entry.2.count).sum =
      ((OrderedMap.under rows name).map numbers).sum
  record : ∀ name metric,
    aggregator.record? name metric = Record.ofNumbers? (seen rows name metric)
  count : ∀ name metric record, aggregator.record? name metric = some record →
    record.count = (seen rows name metric).length ∧ record.count ≠ 0
  average : ∀ name metric, aggregator.average? name metric =
    (Record.ofNumbers? (seen rows name metric)).map fun record ↦
      record.sum.div (.ofNat _ record.count)

theorem wellIndexed_ofRows (rows : List (String × Report)) :
    (ofRows rows).operations.WellIndexed := by
  induction rows using List.reverseRecOn with
  | nil => exact wellIndexed_empty
  | append_singleton rows row ih =>
    rw [ofRows_append_singleton]
    exact wellIndexed_add ih _ _

/-- The operations of labelled reports are the reports, grouped by their labels. -/
theorem operations_ofRows (rows : List (String × Report)) :
    (ofRows rows).operations =
      OrderedMap.empty.pushAll ({} : Operation).fold Operation.fold rows := by
  induction rows using List.reverseRecOn with
  | nil => rfl
  | append_singleton rows row ih =>
    rw [ofRows_append_singleton, operations_add (wellIndexed_ofRows rows),
      OrderedMap.pushAll_append, ih]
    rfl

theorem operation?_ofRows (rows : List (String × Report)) (name : String) :
    (ofRows rows).operation? name =
      if OrderedMap.under rows name = [] then none
      else some (Operation.ofReports (OrderedMap.under rows name)) := by
  obtain ⟨-, -, hget⟩ := OrderedMap.pushAll_empty ({} : Operation).fold Operation.fold rows
  rw [operation?, operations_ofRows, hget, Operation.gather_fold]

theorem operation?_ofRows_eq_some {rows : List (String × Report)} {name : String}
    {operation : Operation} (h : (ofRows rows).operation? name = some operation) :
    operation = Operation.ofReports (OrderedMap.under rows name) := by
  rw [operation?_ofRows] at h
  split at h
  · cases h
  · exact (Option.some.inj h).symm

theorem record?_ofRows (rows : List (String × Report)) (name metric : String) :
    (ofRows rows).record? name metric = Record.ofNumbers? (seen rows name metric) := by
  rw [record?, operation?_ofRows]
  unfold seen
  split
  · rename_i hnil
    rw [hnil]
    rfl
  · exact Operation.record?_ofReports _ metric

theorem sums_ofRows (rows : List (String × Report)) : Sums rows (ofRows rows) := by
  obtain ⟨hwell, hkeys, -⟩ :=
    OrderedMap.pushAll_empty ({} : Operation).fold Operation.fold rows
  rw [← operations_ofRows] at hwell hkeys
  have hrecord := record?_ofRows rows
  have hcount : ∀ name metric record, (ofRows rows).record? name metric = some record →
      record.count = (seen rows name metric).length ∧ record.count ≠ 0 := by
    intro name metric record hfound
    rw [hrecord] at hfound
    have hlength := Record.count_of_ofNumbers? hfound
    refine ⟨hlength, ?_⟩
    intro hzero
    rw [hzero] at hlength
    rw [List.eq_nil_of_length_eq_zero hlength.symm] at hfound
    cases hfound
  exact {
    operations := hkeys
    listed := fun _ _ ↦ hwell.get?_eq_some_iff
    calls := by
      intro name operation hfound
      obtain rfl := operation?_ofRows_eq_some hfound
      exact (Operation.ofReports_spec _).1
    metrics := by
      intro name operation hfound
      obtain rfl := operation?_ofRows_eq_some hfound
      rw [(Operation.ofReports_spec _).2]
      exact (OrderedMap.pushAll_empty _ _ _).2.1
    listedRecord := by
      intro name operation metric record hfound
      rw [record?, hfound, Option.bind_some, Operation.record?]
      obtain rfl := operation?_ofRows_eq_some hfound
      rw [(Operation.ofReports_spec _).2]
      exact (OrderedMap.pushAll_empty _ _ _).1.get?_eq_some_iff
    counts := by
      intro name operation hfound
      obtain rfl := operation?_ofRows_eq_some hfound
      exact Operation.sum_count_ofReports _
    record := hrecord
    count := hcount
    average := by
      intro name metric
      rw [average?, hrecord]
      cases hfound : Record.ofNumbers? (seen rows name metric) with
      | none => rfl
      | some record =>
        rw [Option.bind_some, Record.average?,
          if_neg (hcount name metric record (hrecord name metric ▸ hfound)).2]
        rfl }

/-! ## Calls -/

inductive Call
  | add (operation : String) (report : Report)
  | clear

namespace Call

/-- The labelled report of a call that brings one. -/
def row? : Call → Option (String × Report)
  | .add operation report => some (operation, report)
  | .clear => none

def serve (aggregator : Aggregator) : Call → Aggregator
  | .add operation report => aggregator.add operation report
  | .clear => empty

end Call

/-- The aggregator after some calls of an empty one, in order. -/
def serveAll (calls : List Call) : Aggregator := calls.foldl Call.serve empty

/-- The labelled reports since the aggregator was emptied last. -/
def history (calls : List Call) : List (String × Report) :=
  (calls.rtakeWhile (·.row?.isSome)).filterMap Call.row?

theorem history_append_add (calls : List Call) (operation : String) (report : Report) :
    history (calls ++ [.add operation report]) = history calls ++ [(operation, report)] := by
  simp [history, Call.row?]

theorem history_append_clear (calls : List Call) : history (calls ++ [.clear]) = [] := by
  simp [history, Call.row?]

/-- The induction is on the calls from their end: one more report comes behind the others, and
emptying the aggregator forgets them all. -/
theorem serveAll_eq_ofRows (calls : List Call) : serveAll calls = ofRows (history calls) := by
  induction calls using List.reverseRecOn with
  | nil => rfl
  | append_singleton calls call ih =>
    have hstep : serveAll (calls ++ [call]) = call.serve (serveAll calls) := List.foldl_append
    rw [hstep, ih]
    cases call with
    | add operation report =>
      rw [history_append_add, ofRows_append_singleton]
      rfl
    | clear =>
      rw [history_append_clear]
      rfl

/-- As many values of one more report are folded in as it has numbers. -/
theorem aggregate_snd {aggregator : Aggregator} (h : aggregator.operations.WellIndexed)
    (name : String) (report : Report) :
    (aggregator.aggregate name report).2 = numbers report := by
  rw [aggregate, h.accessOr_eq]
  exact Operation.observeAll_snd _ _

/-- After any calls an aggregator sums up the reports since it was emptied last. One more call
answers with how many values of its report are no texts. What it tells of a metric under an
operation depends on the numbers that came for the two alone, and a report under one operation
leaves every other operation alone. -/
theorem sums_serveAll (calls : List Call) :
    Sums (history calls) (serveAll calls) ∧
      (∀ (name : String) (report : Report),
        ((serveAll calls).aggregate name report).2 = numbers report ∧
          numbers report = (report.metrics.filter (!·.value.isText)).length) ∧
      (∀ others name metric, seen (history calls) name metric = seen (history others) name metric →
        (serveAll calls).record? name metric = (serveAll others).record? name metric ∧
          (serveAll calls).average? name metric = (serveAll others).average? name metric) ∧
      ∀ name report other, other ≠ name →
        (serveAll (calls ++ [.add name report])).operation? other =
          (serveAll calls).operation? other := by
  have hsums : ∀ calls, Sums (history calls) (serveAll calls) := by
    intro calls
    rw [serveAll_eq_ofRows]
    exact sums_ofRows _
  refine ⟨hsums calls, ?_, ?_, ?_⟩
  · intro name report
    constructor
    · rw [serveAll_eq_ofRows]
      exact aggregate_snd (wellIndexed_ofRows _) name report
    · unfold numbers
      rw [List.countP_eq_length_filter]
      simp only [Value.isSome_toNumber?]
  · intro others name metric hseen
    constructor
    · rw [(hsums calls).record, (hsums others).record, hseen]
    · rw [(hsums calls).average, (hsums others).average, hseen]
  · intro name report other hother
    rw [serveAll_eq_ofRows, serveAll_eq_ofRows, history_append_add, operation?_ofRows,
      operation?_ofRows, OrderedMap.under_append_singleton, if_neg hother]

/-- Reports of two operations in turn, behind one that is forgotten. One of them has a text, and one
has two numbers of one metric. -/
def alternating : List Call :=
  [.add "scale" { metrics := [⟨"GpuTime", .u32 7, none⟩] }, .clear,
    .add "scale" { metrics := [⟨"GpuTime", .u32 10, none⟩, ⟨"Arch", .text "gen12", none⟩] },
    .add "copy" { metrics := [⟨"GpuTime", .u32 5, none⟩] },
    .add "scale" { metrics := [⟨"GpuTime", .u32 20, none⟩, ⟨"GpuTime", .u32 30, none⟩] }]

/-- The same numbers, one operation after the other and one number in each report. -/
def oneByOne : List Call :=
  [.add "copy" { metrics := [⟨"GpuTime", .u64 5, none⟩] },
    .add "scale" { metrics := [⟨"GpuTime", .u64 10, none⟩] },
    .add "scale" { metrics := [⟨"GpuTime", .u64 20, none⟩] },
    .add "scale" { metrics := [⟨"GpuTime", .u64 30, none⟩] }]

theorem sums_serveAll_alternating :
    (serveAll alternating).operations.keys = ["scale", "copy"] ∧
      (serveAll oneByOne).operations.keys = ["copy", "scale"] ∧
      seen (history alternating) "scale" "GpuTime" = seen (history oneByOne) "scale" "GpuTime" ∧
      (serveAll alternating).record? "scale" "GpuTime" =
        (serveAll oneByOne).record? "scale" "GpuTime" ∧
      (serveAll alternating).record? "scale" "GpuTime" =
        some ⟨.ofNat _ 60, 3, .ofNat _ 10, .ofNat _ 30⟩ ∧
      (serveAll alternating).average? "scale" "GpuTime" = some (.ofNat _ 20) ∧
      (serveAll alternating).average? "scale" "Arch" = none ∧
      ((serveAll alternating).aggregate "scale"
        { metrics := [⟨"GpuTime", .u32 40, none⟩, ⟨"Arch", .text "gen12", none⟩] }).2 = 1 ∧
      (serveAll (alternating ++ [.add "scale" {}])).operation? "copy" =
        (serveAll alternating).operation? "copy" := by
  obtain ⟨hsums, hfolded, halike, hother⟩ := sums_serveAll alternating
  obtain ⟨hgrouped, -⟩ := sums_serveAll oneByOne
  have hseen : seen (history alternating) "scale" "GpuTime" =
      seen (history oneByOne) "scale" "GpuTime" := rfl
  refine ⟨hsums.operations.trans (by decide), hgrouped.operations.trans (by decide), hseen,
    (halike oneByOne "scale" "GpuTime" hseen).1,
    (hsums.record "scale" "GpuTime").trans (by decide +kernel),
    (hsums.average "scale" "GpuTime").trans (by decide +kernel),
    (hsums.average "scale" "Arch").trans (by decide +kernel),
    (hfolded "scale" _).1.trans (by decide),
    hother "scale" {} "copy" (by decide)⟩

end Aggregator

end Summary

end GpuCounters
