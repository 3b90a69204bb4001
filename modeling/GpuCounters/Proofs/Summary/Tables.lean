import GpuCounters.Proofs.Counter.Text
import GpuCounters.Proofs.Decimal.Fixed
import GpuCounters.Proofs.Summary.History
import GpuCounters.Proofs.Text.Ascii
import GpuCounters.Proofs.Text.Lines
import GpuCounters.Summary.Table
import Mathlib.Tactic.MkIffOfInductiveProp

/-!
# What tables show

The table of an aggregator is told by the reports that it sums up. It has a row for each operation
and a column for each metric, in the order of their first coming, and a cell shows the average of
its metric under its operation, or nothing if no number came for the two. Where the texts are no
wider than their columns, the rows are aligned with the header.
-/

namespace GpuCounters.Summary

open Aggregator

/-! ## Averages as texts -/

theorem isBlank_of_mem_averageText (x : Binary64) :
    ∀ c ∈ averageText x, Text.isBlank c = false := by
  have hdigits : ∀ n, ∀ c ∈ Nat.toDigits 10 n, Text.isBlank c = false := fun n c hc ↦
    Text.isBlank_of_isDigit (Nat.isDigit_of_mem_toDigits (by decide) (by decide) hc)
  intro c hc
  unfold averageText at hc
  split at hc
  · split at hc
    · obtain rfl | hdigit := List.mem_cons.1 hc
      · rfl
      · exact hdigits _ c hdigit
    · exact hdigits _ c hc
  · exact Decimal.isBlank_of_mem_fixed 3 x c
      (Decimal.dropTrailing_subset _ _ (Decimal.dropTrailing_subset _ _ hc))

theorem averageText_ne_nil (x : Binary64) : averageText x ≠ [] := by
  unfold averageText
  split
  · split
    · exact List.cons_ne_nil _ _
    · exact Nat.toDigits_ne_nil
  · exact Decimal.dropTrailing_fixed_ne_nil 3 x

/-! ## Texts in columns -/

theorem length_padLeft {width : Nat} {text : List Char} (h : text.length ≤ width) :
    (padLeft width text).length = width := by
  rw [padLeft, List.length_append, List.length_replicate]
  omega

/-- A text that can be seen is told from blanks. -/
theorem padLeft_eq_replicate_iff {text : List Char} (h : ∀ c ∈ text, Text.isBlank c = false)
    (width : Nat) : padLeft width text = List.replicate width ' ' ↔ text = [] := by
  constructor
  · intro hblanks
    apply List.eq_nil_iff_forall_not_mem.2
    intro c hc
    have hmem : c ∈ padLeft width text := List.mem_append_right _ hc
    rw [hblanks] at hmem
    have hvisible := h c hc
    rw [List.eq_of_mem_replicate hmem] at hvisible
    cases hvisible
  · rintro rfl
    rw [padLeft, List.length_nil, Nat.sub_zero, List.append_nil]

theorem length_closed (text : List Char) : (closed text).length = text.length + 2 :=
  List.length_append

/-! ## Columns and rows by history -/

/-- Collecting what is not there yet keeps what comes first. -/
theorem foldl_collect (names : List String) :
    names.foldl (fun names name ↦ if name ∈ names then names else names ++ [name]) [] =
      names.eraseDups := by
  induction names using List.reverseRecOn with
  | nil => rfl
  | append_singleton names name ih =>
    rw [List.foldl_append, ih, eraseDups_append_singleton, List.foldl_cons, List.foldl_nil]
    simp only [List.mem_eraseDups]

/-- The operations of labelled reports, in the order of their first coming. -/
def operationNames (rows : List (String × Report)) : List String := (rows.map Prod.fst).eraseDups

/-- The metrics that came with a number under an operation, in the order of their first coming. -/
def metricNames (rows : List (String × Report)) (operation : String) : List String :=
  (((OrderedMap.under rows operation).flatMap Report.readings).map Prod.fst).eraseDups

/-- The metrics of all operations, those of the first one first. -/
def columnNames (rows : List (String × Report)) : List String :=
  ((operationNames rows).flatMap (metricNames rows)).eraseDups

/-- The cell of an operation under a metric: the average of what came for the two, if anything
did, as wide as the name of the metric has bytes. -/
def averageCell (rows : List (String × Report)) (operation metric : String) : List Char :=
  padLeft metric.utf8ByteSize ((((ofRows rows).average? operation metric).map averageText).getD [])

/-- The line of an operation under some metrics: its name, how many reports came for it, and its
cells. -/
def rowLine (rows : List (String × Report)) (metrics : List String) (operation : String) :
    List Char :=
  closed (padLeft nameWidth operation.toList) ++
    closed (padLeft callsWidth (Nat.toDigits 10 (OrderedMap.under rows operation).length)) ++
    metrics.flatMap fun metric ↦ closed (averageCell rows operation metric)

def shownLines (rows : List (String × Report)) : List (List Char) :=
  [] :: title.toList :: headerLine (columnNames rows) ::
    (operationNames rows).map (rowLine rows (columnNames rows))

section History

variable (rows : List (String × Report))

theorem operation?_of_mem_toList {name : String} {operation : Operation}
    (h : (name, operation) ∈ (ofRows rows).operations.toList) :
    (ofRows rows).operation? name = some operation :=
  ((sums_ofRows rows).listed name operation).2 h

theorem map_fst_operations :
    (ofRows rows).operations.toList.map Prod.fst = operationNames rows :=
  (sums_ofRows rows).operations

theorem columns_ofRows : columns (ofRows rows) = columnNames rows := by
  have hmetrics : ∀ entry ∈ (ofRows rows).operations.toList,
      entry.2.metrics.toList.map (·.1) = metricNames rows entry.1 := fun entry hentry ↦
    (sums_ofRows rows).metrics entry.1 entry.2 (operation?_of_mem_toList rows hentry)
  rw [columns, foldl_collect, columnNames, ← map_fst_operations, List.flatMap_map]
  exact congrArg List.eraseDups (List.flatMap_congr hmetrics)

theorem operationLine_of_mem_toList (metrics : List String) {name : String}
    {operation : Operation} (h : (name, operation) ∈ (ofRows rows).operations.toList) :
    operationLine metrics name operation = rowLine rows metrics name := by
  have hfound := operation?_of_mem_toList rows h
  have hcalls := (sums_ofRows rows).calls name operation hfound
  have hcell : ∀ metric, cellText operation metric =
      (((ofRows rows).average? name metric).map averageText).getD [] := by
    intro metric
    rw [cellText, average?, record?, hfound, Option.bind_some]
  rw [operationLine, rowLine, hcalls]
  simp only [hcell, averageCell]

theorem tableLines_ofRows :
    tableLines (ofRows rows) = headerLine (columnNames rows) ::
      (operationNames rows).map (rowLine rows (columnNames rows)) := by
  rw [tableLines, columns_ofRows, ← map_fst_operations, List.map_map]
  exact congrArg _ (List.map_congr_left fun entry hentry ↦
    operationLine_of_mem_toList rows (columnNames rows) hentry)

theorem size_ofRows_eq_zero_iff : (ofRows rows).size = 0 ↔ rows = [] := by
  have hnames : (ofRows rows).operations.toList = [] ↔ operationNames rows = [] := by
    rw [← map_fst_operations, List.map_eq_nil_iff]
  rw [Aggregator.size, ← OrderedMap.size_eq_length, List.length_eq_zero_iff, hnames]
  cases rows with
  | nil => exact iff_of_true rfl rfl
  | cons row rows => simp [operationNames, List.eraseDups_cons]

/-- A cell is blank exactly if no number came for its metric under its operation. -/
theorem averageCell_eq_replicate_iff (operation metric : String) :
    averageCell rows operation metric = List.replicate metric.utf8ByteSize ' ' ↔
      seen rows operation metric = [] := by
  have haverage := (sums_ofRows rows).average operation metric
  rw [averageCell, haverage]
  cases hseen : seen rows operation metric with
  | nil => exact iff_of_true ((padLeft_eq_replicate_iff (by simp [Record.ofNumbers?]) _).2 rfl) rfl
  | cons x xs =>
    simp only [Record.ofNumbers?, Option.map_some, Option.getD_some, reduceCtorEq, iff_false]
    rw [padLeft_eq_replicate_iff (isBlank_of_mem_averageText _)]
    exact averageText_ne_nil _

end History

/-! ## Alignment -/

/-- Whether all texts of a table fit in their columns, and none of them ends a line. -/
@[mk_iff]
structure HasRoom (rows : List (String × Report)) : Prop where
  ascii : ∀ metric ∈ columnNames rows, Text.IsAscii metric.toList
  metrics : ∀ metric ∈ columnNames rows, '\n' ∉ metric.toList
  operations : ∀ operation ∈ operationNames rows, '\n' ∉ operation.toList
  names : ∀ operation ∈ operationNames rows, operation.toList.length ≤ nameWidth
  calls : ∀ operation ∈ operationNames rows,
    (Nat.toDigits 10 (OrderedMap.under rows operation).length).length ≤ callsWidth
  averages : ∀ operation ∈ operationNames rows, ∀ metric ∈ columnNames rows,
    ∀ average ∈ (ofRows rows).average? operation metric,
      (averageText average).length ≤ metric.toList.length

instance (rows : List (String × Report)) : Decidable (HasRoom rows) :=
  decidable_of_iff' _ (hasRoom_iff rows)

/-- Whether the line of an operation is as long as the header, and each of its cells ends where the
name of the column ends. -/
structure IsAligned (rows : List (String × Report)) (operation : String) : Prop where
  length : (rowLine rows (columnNames rows) operation).length =
    (headerLine (columnNames rows)).length
  cells : ∀ before metric after, columnNames rows = before ++ metric :: after →
    ∃ headerRest rowRest,
      headerLine (columnNames rows) = headerLine before ++ metric.toList ++ headerRest ∧
      rowLine rows (columnNames rows) operation =
        rowLine rows before operation ++ averageCell rows operation metric ++ rowRest ∧
      (rowLine rows before operation ++ averageCell rows operation metric).length =
        (headerLine before ++ metric.toList).length

section Alignment

variable {rows : List (String × Report)} {operation : String}

theorem HasRoom.length_averageCell (h : HasRoom rows) (hoperation : operation ∈ operationNames rows)
    {metric : String} (hmetric : metric ∈ columnNames rows) :
    (averageCell rows operation metric).length = metric.toList.length := by
  have hbytes : metric.utf8ByteSize = metric.toList.length := by
    have hsize := (h.ascii metric hmetric).utf8ByteSize_ofList
    rwa [String.ofList_toList] at hsize
  rw [averageCell, hbytes]
  apply length_padLeft
  cases haverage : (ofRows rows).average? operation metric with
  | none => exact Nat.zero_le _
  | some average => exact h.averages operation hoperation metric hmetric average haverage

/-- The induction is on the columns: each adds as much to the row as to the header. -/
theorem HasRoom.length_cells (h : HasRoom rows) (hoperation : operation ∈ operationNames rows)
    {metrics : List String} (hmetrics : metrics ⊆ columnNames rows) :
    (metrics.flatMap fun metric ↦ closed (averageCell rows operation metric)).length =
      (metrics.flatMap fun metric ↦ closed metric.toList).length := by
  induction metrics with
  | nil => rfl
  | cons metric metrics ih =>
    obtain ⟨hmetric, hrest⟩ := List.cons_subset.1 hmetrics
    rw [List.flatMap_cons, List.flatMap_cons, List.length_append, List.length_append,
      length_closed, length_closed, h.length_averageCell hoperation hmetric, ih hrest]

theorem HasRoom.length_rowLine (h : HasRoom rows) (hoperation : operation ∈ operationNames rows)
    {metrics : List String} (hmetrics : metrics ⊆ columnNames rows) :
    (rowLine rows metrics operation).length = (headerLine metrics).length := by
  have hname := length_padLeft (h.names operation hoperation)
  have hcalls := length_padLeft (h.calls operation hoperation)
  have htitle : (padLeft nameWidth "FunctionName".toList).length = nameWidth := by decide
  have hcallsTitle : (padLeft callsWidth "Calls".toList).length = callsWidth := by decide
  simp only [rowLine, headerLine, List.length_append, length_closed, hname, hcalls, htitle,
    hcallsTitle, h.length_cells hoperation hmetrics]

theorem HasRoom.isAligned (h : HasRoom rows) (hoperation : operation ∈ operationNames rows) :
    IsAligned rows operation := by
  refine ⟨h.length_rowLine hoperation (List.Subset.refl _), fun before metric after hcolumns ↦ ?_⟩
  have hbefore : before ⊆ columnNames rows := by
    rw [hcolumns]
    exact List.subset_append_left _ _
  have hmetric : metric ∈ columnNames rows := by
    rw [hcolumns]
    exact List.mem_append_right _ List.mem_cons_self
  refine ⟨[',', ' '] ++ after.flatMap fun column ↦ closed column.toList,
    [',', ' '] ++ after.flatMap fun column ↦ closed (averageCell rows operation column), ?_, ?_, ?_⟩
  · rw [hcolumns]
    simp [headerLine, closed]
  · rw [hcolumns]
    simp [rowLine, closed]
  · rw [List.length_append, List.length_append, h.length_rowLine hoperation hbefore,
      h.length_averageCell hoperation hmetric]

/-! ## Lines -/

theorem lineFeed_not_mem_closed {text : List Char} (h : '\n' ∉ text) : '\n' ∉ closed text := by
  simp [closed, h]

theorem lineFeed_not_mem_padLeft {text : List Char} (h : '\n' ∉ text) (width : Nat) :
    '\n' ∉ padLeft width text := by
  simp [padLeft, h, List.mem_replicate]

theorem lineFeed_not_mem_averageCell (rows : List (String × Report)) (operation metric : String) :
    '\n' ∉ averageCell rows operation metric := by
  apply lineFeed_not_mem_padLeft
  cases (ofRows rows).average? operation metric with
  | none => exact List.not_mem_nil
  | some average =>
    intro hmem
    have hvisible := isBlank_of_mem_averageText average '\n' hmem
    cases hvisible

theorem HasRoom.lineFeed_not_mem_shownLines (h : HasRoom rows) :
    ∀ line ∈ shownLines rows, '\n' ∉ line := by
  refine List.forall_mem_cons.2 ⟨List.not_mem_nil, List.forall_mem_cons.2 ⟨by decide,
    List.forall_mem_cons.2 ⟨?_, List.forall_mem_map.2 fun operation hoperation ↦ ?_⟩⟩⟩
  · have hfirst : '\n' ∉ closed (padLeft nameWidth "FunctionName".toList) ++
        closed (padLeft callsWidth "Calls".toList) := by decide
    intro hmem
    obtain hmem | hmem := List.mem_append.1 hmem
    · exact hfirst hmem
    · obtain ⟨metric, hmetric, hmem⟩ := List.mem_flatMap.1 hmem
      exact lineFeed_not_mem_closed (h.metrics metric hmetric) hmem
  · intro hmem
    obtain hmem | hmem := List.mem_append.1 hmem
    · obtain hmem | hmem := List.mem_append.1 hmem
      · exact lineFeed_not_mem_closed
          (lineFeed_not_mem_padLeft (h.operations operation hoperation) _) hmem
      · exact lineFeed_not_mem_closed
          (lineFeed_not_mem_padLeft (Decimal.lineFeed_not_mem_toDigits _) _) hmem
    · obtain ⟨metric, -, hmem⟩ := List.mem_flatMap.1 hmem
      exact lineFeed_not_mem_closed (lineFeed_not_mem_averageCell rows operation metric) hmem

end Alignment

/-! ## Tables -/

/-- There is a table once there is an operation. It has the header of all metrics and a line for
each operation, with the number of its reports, and a cell is blank exactly if no number came for
it. Where there is room for all texts, the table falls into these lines and no others, and the rows
are aligned with the header. -/
theorem table?_ofRows (rows : List (String × Report)) :
    (table? (ofRows rows) = none ↔ (ofRows rows).size = 0) ∧
      ((ofRows rows).size = 0 ↔ rows = []) ∧
      (rows ≠ [] → table? (ofRows rows) = some (String.ofList (Text.ended (shownLines rows)))) ∧
      (columnNames rows).Nodup ∧ (operationNames rows).Nodup ∧
      (∀ name operation, (ofRows rows).operation? name = some operation →
        operation.calls = (OrderedMap.under rows name).length ∧
          operation.metrics.toList.map Prod.fst = metricNames rows name) ∧
      (∀ operation metric,
        averageCell rows operation metric = List.replicate metric.utf8ByteSize ' ' ↔
          seen rows operation metric = []) ∧
      (HasRoom rows →
        Text.segments (Text.ended (shownLines rows)) = shownLines rows ++ [[]] ∧
        ∀ operation ∈ operationNames rows, IsAligned rows operation) := by
  refine ⟨table?_eq_none_iff _, size_ofRows_eq_zero_iff rows, fun hrows ↦ ?_,
    nodup_eraseDups _, nodup_eraseDups _, fun name operation hfound ↦ ?_,
    averageCell_eq_replicate_iff rows, fun hroom ↦ ⟨?_, fun operation ↦ hroom.isAligned⟩⟩
  · have hsize : ¬ (ofRows rows).size = 0 := fun h ↦ hrows ((size_ofRows_eq_zero_iff rows).1 h)
    rw [table?, if_neg hsize, tableLines_ofRows, shownLines, Text.ended_cons, Text.ended_cons,
      Text.ended]
    rfl
  · exact ⟨(sums_ofRows rows).calls name operation hfound,
      (sums_ofRows rows).metrics name operation hfound⟩
  · rw [Text.segments_ended, Text.flatMap_segments hroom.lineFeed_not_mem_shownLines]

/-- Reports of two operations with different metrics, of which one is a text. -/
def kernelRows : List (String × Report) :=
  [("scale", ⟨[⟨"GpuTime", .u32 1, none⟩, ⟨"Arch", .text "gen12", none⟩], []⟩),
    ("copy", ⟨[⟨"EuStall", .u32 9, none⟩], []⟩),
    ("scale", ⟨[⟨"GpuTime", .u32 2, none⟩, ⟨"EuActive", .u64 50, none⟩], []⟩)]

/-- The metrics of the first operation come first, though one of them came last. -/
theorem table?_ofRows_kernelRows :
    kernelRows ≠ [] ∧ HasRoom kernelRows ∧
      columnNames kernelRows = ["GpuTime", "EuActive", "EuStall"] ∧
      table? (ofRows kernelRows) =
        some ("\nDevice Performance Counter Timing: (Average metric per enqueue)\n" ++
          "                                FunctionName,  Calls, GpuTime, EuActive, EuStall, \n" ++
          "                                       scale,      2,     1.5,       50,        , \n" ++
          "                                        copy,      1,        ,         ,       9, \n") ∧
      averageCell kernelRows "copy" "GpuTime" = List.replicate 7 ' ' ∧
      IsAligned kernelRows "copy" := by
  have hrows : kernelRows ≠ [] := by decide
  have hroom : HasRoom kernelRows := by decide +kernel
  obtain ⟨-, -, htable, -, -, -, hcells, haligned⟩ := table?_ofRows kernelRows
  refine ⟨hrows, hroom, by decide +kernel, ?_, (hcells "copy" "GpuTime").2 (by decide +kernel),
    (haligned hroom).2 "copy" (by decide +kernel)⟩
  rw [htable hrows]
  decide +kernel

end GpuCounters.Summary
