import GpuCounters.Proofs.Session.Rows

/-!
# Cells by the names of their columns

A row takes the metric at the position of its column if that one has the name of the column, and
looks the name up otherwise. Where no two metrics have one name, both ways lead to the same metric,
so that what stands under a name is what the report has for it. Neither the order of the metrics nor
metrics without a column make a difference to the row.
-/

namespace GpuCounters

/-! ## Rearranged reports -/

/-- Whether a report has the metrics of another one and some further ones, in whatever order, beside
the same further information. -/
structure Report.Rearranges (further : List Metric) (report other : Report) : Prop where
  metrics : other.metrics.Perm (further ++ report.metrics)
  information : other.information = report.information

namespace Report.Rearranges

variable {further : List Metric} {report other : Report} {name : String}

/-- Of a name that no further metric has, both reports have the same metrics. -/
theorem mem_iff (h : report.Rearranges further other)
    (hfurther : ∀ metric ∈ further, metric.name ≠ name) {metric : Metric}
    (hname : metric.name = name) : metric ∈ other.metrics ↔ metric ∈ report.metrics := by
  have hnew : metric ∉ further := fun hmem ↦ hfurther metric hmem hname
  calc metric ∈ other.metrics
    _ ↔ metric ∈ further ++ report.metrics := h.metrics.mem_iff
    _ ↔ metric ∈ report.metrics := by simp [hnew]

theorem determines (h : report.Rearranges further other)
    (hfurther : ∀ metric ∈ further, metric.name ≠ name) (hreport : report.Determines name) :
    other.Determines name := by
  intro metric hmetric same hsame hname hsameName
  apply hreport
  · exact (h.mem_iff hfurther hname).1 hmetric
  · exact (h.mem_iff hfurther hsameName).1 hsame
  · exact hname
  · exact hsameName

theorem get?_eq (h : report.Rearranges further other)
    (hfurther : ∀ metric ∈ further, metric.name ≠ name) (hreport : report.Determines name) :
    other.get? name = report.get? name := by
  apply Option.ext
  intro metric
  rw [(h.determines hfurther hreport).get?_eq_some_iff, hreport.get?_eq_some_iff]
  apply and_congr_left
  exact h.mem_iff hfurther

end Report.Rearranges

namespace Dump

/-! ## Rows of rearranged reports -/

/-- A row is the same for every arrangement if each column determines its metric, and no further
metric has a column. -/
theorem RowShape.line_eq_of_rearranges {shape : RowShape} {further : List Metric}
    {report other : Report} (h : report.Rearranges further other)
    (hfurther : ∀ metric ∈ further, metric.name ∉ shape.metrics)
    (hreport : ∀ name ∈ shape.metrics, report.Determines name) (label : String) :
    shape.line label other = shape.line label report := by
  have hforeign : ∀ name ∈ shape.metrics, ∀ metric ∈ further, metric.name ≠ name := by
    intro name hname metric hmetric heq
    exact hfurther metric hmetric (heq ▸ hname)
  have hother : ∀ name ∈ shape.metrics, other.Determines name :=
    fun name hname ↦ h.determines (hforeign name hname) (hreport name hname)
  have hcells : (shape.metrics.flatMap fun name ↦
        metricTexts shape.includeMax (other.get? name)) =
      shape.metrics.flatMap fun name ↦ metricTexts shape.includeMax (report.get? name) := by
    apply List.flatMap_congr
    intro name hname
    rw [h.get?_eq (hforeign name hname) (hreport name hname)]
  rw [RowShape.line_eq, RowShape.line_eq, RowShape.fields_eq_of_determines hother,
    RowShape.fields_eq_of_determines hreport, hcells, h.information]

/-! ## Columns and what stands in them -/

namespace Layout

def metricNames (includeMax : Bool) (column : Descriptor) : List (List Char) :=
  column.name.toList :: if includeMax then [(column.name ++ maxMark).toList] else []

/-- What stands under the names of the columns: the label, under the name of a metric the text of
its value and under that of its greatest values the text of the greatest, and the further
information by its position. A metric that the report does not have leaves its columns empty. -/
def cellsOf (layout : Layout) (label : String) (report : Report) :
    List (List Char × List Char) :=
  ((labelTitle layout.mode).toList, label.toList) ::
    ((layout.metrics.flatMap fun column ↦
        (metricNames layout.includeMax column).zip
          (metricTexts layout.includeMax (report.get? column.name))) ++
      layout.shownInformation.zipIdx.map fun (column, position) ↦
        ((informationMark ++ column.name).toList, valueText report.information[position]?))

theorem nameFields_eq (layout : Layout) :
    layout.nameFields = (labelTitle layout.mode).toList ::
      ((layout.metrics.flatMap (metricNames layout.includeMax)) ++
        layout.shownInformation.map fun column ↦ (informationMark ++ column.name).toList) := by
  have hmetric : ∀ column : Descriptor,
      (column :: if layout.includeMax then [⟨column.name ++ maxMark, column.unit⟩] else []).map
        (·.name.toList) = metricNames layout.includeMax column := by
    intro column
    cases layout.includeMax <;> rfl
  rw [nameFields, columns, List.map_append, List.map_flatMap, List.map_map]
  simp only [hmetric]
  rfl

end Layout

/-- The induction is on the elements: each gives two lists of the same length. -/
theorem zip_flatMap {α β γ : Type} {f : α → List β} {g : α → List γ}
    (h : ∀ x, (f x).length = (g x).length) (xs : List α) :
    (xs.flatMap f).zip (xs.flatMap g) = xs.flatMap fun x ↦ (f x).zip (g x) := by
  induction xs with
  | nil => rfl
  | cons x xs ih => rw [List.flatMap_cons, List.flatMap_cons, List.zip_append (h x), ih,
      List.flatMap_cons]

/-- Further information stands under its names by its position. -/
theorem zip_map_range {α β γ : Type} (xs : List α) (f : α → β) (g : Nat → γ) :
    (xs.map f).zip ((List.range xs.length).map g) =
      xs.zipIdx.map fun (x, position) ↦ (f x, g position) := by
  rw [List.zip_map, List.range_eq_range', ← List.zipIdx_eq_zip_range']
  rfl

/-- The fields of a row go with those of the line of names, one by one. -/
theorem zip_nameFields_fields {layout : Layout} {report : Report}
    (h : ∀ name ∈ layout.rowShape.metrics, report.Determines name) (label : String) :
    layout.nameFields.zip (layout.rowShape.fields label report) = layout.cellsOf label report := by
  have hlength : ∀ column : Descriptor, (Layout.metricNames layout.includeMax column).length =
      (metricTexts layout.includeMax (report.get? column.name)).length := by
    intro column
    cases layout.includeMax <;> rfl
  have hlengths : (layout.metrics.flatMap (Layout.metricNames layout.includeMax)).length =
      (layout.metrics.flatMap fun column ↦
        metricTexts layout.includeMax (report.get? column.name)).length := by
    simp only [List.length_flatMap, hlength]
  rw [RowShape.fields_eq_of_determines h, Layout.nameFields_eq, Layout.rowShape,
    List.flatMap_map, List.zip_cons_cons, List.zip_append hlengths, zip_flatMap hlength,
    zip_map_range]
  rfl

/-! ## Rows that are written -/

/-- The rows of every dump are those of some layout. -/
theorem RowShape.exists_layout (shape : RowShape) : ∃ layout : Layout, layout.rowShape = shape := by
  refine ⟨⟨.time, shape.metrics.map (⟨·, ""⟩), List.replicate shape.information default,
    shape.includeMax⟩, ?_⟩
  simp [Layout.rowShape, Layout.shownInformation, Function.comp_def]

/-- A row has under the name of each metric what the report has for it, and under no name anything
else, and a disk that refuses nothing takes it. So every report with the same metrics, and whatever
metrics without a column between them, is written as the same row, with the same outcome on every
disk. -/
theorem Writer.writeRow_byName (writer : Writer) (label : String) {report : Report}
    (h : report.IsDistinct) :
    let line := writer.shape.line label report
    (∃ layout : Layout, layout.rowShape = writer.shape) ∧
      (∀ layout : Layout, layout.rowShape = writer.shape →
        (splitFields layout.nameLine).length = (splitFields line).length ∧
          (splitFields layout.nameLine).zip (splitFields line) = layout.cellsOf label report) ∧
      (∀ disk next later, writer.output.handle.AtEnd disk →
        writer.writeRow label report disk = (.ok (), next, later) →
          next.output.content later = writer.output.content disk ++
            ((String.ofList line).toUTF8 ++ "\n".toUTF8)) ∧
      (∀ disk, writer.output.IsFree disk →
        ∃ next later, writer.writeRow label report disk = (.ok (), next, later)) ∧
      ∀ further other, (∀ metric ∈ further, metric.name ∉ writer.shape.metrics) →
        report.Rearranges further other →
          writer.shape.line label other = line ∧
            ∀ disk, writer.writeRow label other disk = writer.writeRow label report disk := by
  intro line
  have hdetermines : ∀ name ∈ writer.shape.metrics, report.Determines name :=
    fun name _ ↦ h.determines name
  refine ⟨writer.shape.exists_layout, ?_, fun disk next later ↦ Session.content_writeRow, ?_, ?_⟩
  · intro layout hshape
    have hfields : splitFields line = layout.rowShape.fields label report := by
      rw [hshape]
      exact RowShape.splitFields_line _ label report
    rw [layout.splitFields_nameLine, hfields]
    constructor
    · rw [RowShape.length_fields, Layout.width_rowShape, Layout.nameFields, List.length_cons,
        List.length_map, Layout.width]
    · apply zip_nameFields_fields
      rwa [hshape]
  · intro disk hfree
    obtain ⟨output, later, hwrite, -⟩ := writeRow_of_isFree hfree label report
    exact ⟨_, later, hwrite⟩
  · intro further other hfurther hother
    have hline : writer.shape.line label other = line :=
      RowShape.line_eq_of_rearranges hother hfurther hdetermines label
    refine ⟨hline, fun disk ↦ ?_⟩
    rw [Writer.writeRow, Writer.writeRow, hline]

def gapLayout : Layout :=
  ⟨.event, [⟨"GpuTime", "ns"⟩, ⟨"EuActive", "percent"⟩, ⟨"EuStall", "percent"⟩], [], true⟩

def gapWriter : Writer :=
  ⟨⟨"gap.csv"⟩, .ofHandle ⟨.file 0, .overwrite, 0⟩, gapLayout.rowShape, 0⟩

/-- A report without the second metric. -/
def gapReport : Report :=
  { metrics := [⟨"GpuTime", .u64 100, none⟩, ⟨"EuStall", .text "a,b", some (.u32 100)⟩] }

/-- The same metrics the other way round, with some that have no column between them. One is named
like the greatest values of a metric, and two have one name. -/
def shuffledReport : Report :=
  { metrics := [⟨"Clock", .u32 1, none⟩, ⟨"EuStall", .text "a,b", some (.u32 100)⟩,
      ⟨"GpuTime.max", .u32 3, none⟩, ⟨"Clock", .u32 2, none⟩, ⟨"GpuTime", .u64 100, none⟩] }

/-- A disk with the file of the writer, which is empty. -/
def gapDisk : Storage.Disk := ⟨[(["gap.csv"], .target (.file 0))], #[.empty], []⟩

theorem isFree_gapWriter :
    gapWriter.output.IsFree gapDisk ∧ gapWriter.output.handle.AtEnd gapDisk := by
  have hfile : 0 < gapDisk.files.size := by decide
  exact ⟨⟨⟨0, rfl⟩, by decide⟩, ⟨hfile, fun _ ↦ rfl⟩⟩

theorem Writer.writeRow_byName_shuffled :
    gapReport.IsDistinct ∧ ¬ shuffledReport.IsDistinct ∧
      gapWriter.shape.line "k" gapReport = "k,100,,,,\"a,b\",100".toList ∧
      (splitFields gapLayout.nameLine).zip (splitFields (gapWriter.shape.line "k" gapReport)) =
        [("Operation".toList, "k".toList), ("GpuTime".toList, "100".toList),
          ("GpuTime.max".toList, []), ("EuActive".toList, []), ("EuActive.max".toList, []),
          ("EuStall".toList, "a,b".toList), ("EuStall.max".toList, "100".toList)] ∧
      gapWriter.shape.line "k" shuffledReport = gapWriter.shape.line "k" gapReport ∧
      (∃ next later, gapWriter.writeRow "k" shuffledReport gapDisk = (.ok (), next, later) ∧
        next.output.content later = "k,100,,,,\"a,b\",100\n".toUTF8) := by
  have hdistinct : gapReport.IsDistinct := by decide
  let further : List Metric :=
    [⟨"Clock", .u32 1, none⟩, ⟨"GpuTime.max", .u32 3, none⟩, ⟨"Clock", .u32 2, none⟩]
  have hfurther : ∀ metric ∈ further, metric.name ∉ gapWriter.shape.metrics := by decide
  have hshuffled : gapReport.Rearranges further shuffledReport := ⟨by decide, rfl⟩
  obtain ⟨hfree, hend⟩ := isFree_gapWriter
  obtain ⟨-, hcells, hcontent, htaken, hsame⟩ := Writer.writeRow_byName gapWriter "k" hdistinct
  obtain ⟨hline, hwrite⟩ := hsame further shuffledReport hfurther hshuffled
  obtain ⟨next, later, htook⟩ := htaken gapDisk hfree
  exact ⟨hdistinct, by decide, by decide +kernel,
    (hcells gapLayout rfl).2.trans (by decide +kernel), hline, next, later,
    (hwrite gapDisk).trans htook,
    (hcontent gapDisk next later hend htook).trans (by decide +kernel)⟩

end Dump

end GpuCounters
