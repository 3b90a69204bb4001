import GpuCounters.Proofs.Counter.Text
import GpuCounters.Proofs.Dump.Columns
import Mathlib.Data.List.Nodup

/-!
# Rows read back

A row has a field for each column of its layout. Read under the columns of a legible layout it gives
the report back as far as texts can tell: values without a text are left out, and every other value
is what its text reads as.
-/

namespace GpuCounters

/-- A value as its text reads; one without a text is none. -/
def Value.reread? (value : Value) : Option Value :=
  if value.toText = "" then none else some (.ofCell value.toText)

/-- A metric as its texts read. -/
def Metric.reread? (includeMax : Bool) (metric : Metric) : Option Metric :=
  metric.value.reread?.map fun value ↦
    ⟨metric.name, value, if includeMax then metric.max?.bind Value.reread? else none⟩

/-- Whether no two metrics of a report have the same name. -/
def Report.IsDistinct (report : Report) : Prop := (report.metrics.map (·.name)).Nodup

instance (report : Report) : Decidable report.IsDistinct :=
  inferInstanceAs (Decidable (List.Nodup _))

/-- Whether no two different metrics of a report have a certain name. -/
def Report.Determines (report : Report) (name : String) : Prop :=
  ∀ metric ∈ report.metrics, ∀ other ∈ report.metrics,
    metric.name = name → other.name = name → metric = other

theorem Report.IsDistinct.determines {report : Report} (h : report.IsDistinct) (name : String) :
    report.Determines name :=
  fun _ hmetric _ hother hname hsame ↦
    List.inj_on_of_nodup_map h hmetric hother (hname.trans hsame.symm)

/-- A name that determines a metric leads to it. -/
theorem Report.Determines.get?_eq_some_iff {report : Report} {name : String} {metric : Metric}
    (h : report.Determines name) :
    report.get? name = some metric ↔ metric ∈ report.metrics ∧ metric.name = name := by
  constructor
  · intro hfound
    exact ⟨List.mem_of_find?_eq_some hfound, name_of_get? hfound⟩
  · rintro ⟨hmem, hname⟩
    cases hfound : report.get? name with
    | none =>
      have hnone := List.find?_eq_none.1 hfound metric hmem
      simp [hname] at hnone
    | some found =>
      rw [h found (List.mem_of_find?_eq_some hfound) metric hmem (name_of_get? hfound) hname]

namespace Dump

/-- A report as a row of the layout reads. -/
def Layout.readBack (layout : Layout) (report : Report) : Report where
  metrics := layout.metrics.filterMap fun column ↦
    (report.get? column.name).bind (Metric.reread? layout.includeMax)
  information := (List.range layout.shownInformation.length).map fun position ↦
    (report.information[position]?.bind Value.reread?).getD (.text "")

/-! ## The texts of a row -/

def valueText (value : Option Value) : List Char :=
  match value with
  | some value => value.toText.toList
  | none => []

theorem cell_eq (value : Option Value) : cell value = escapeField (valueText value) := by
  cases value <;> rfl

theorem valueText_eq_nil_iff (value : Option Value) :
    valueText value = [] ↔ value.bind Value.reread? = none := by
  cases value with
  | none => simp [valueText]
  | some value => simp [valueText, Value.reread?]

theorem reread?_of_valueText_ne_nil {value : Option Value} (h : valueText value ≠ []) :
    value.bind Value.reread? = some (.ofCell (String.ofList (valueText value))) := by
  cases value with
  | none => exact absurd rfl h
  | some value =>
    have htext : value.toText ≠ "" := by simpa [valueText] using h
    simp [valueText, Value.reread?, htext]

def metricTexts (includeMax : Bool) (metric : Option Metric) : List (List Char) :=
  valueText (metric.map (·.value)) ::
    if includeMax then [valueText (metric.bind (·.max?))] else []

theorem metricCells_eq (includeMax : Bool) (metric : Option Metric) :
    metricCells includeMax metric = (metricTexts includeMax metric).map escapeField := by
  cases includeMax <;> simp [metricCells, metricTexts, cell_eq]

namespace RowShape

/-- The texts of a row, that of its label first. -/
def fields (shape : RowShape) (label : String) (report : Report) : List (List Char) :=
  label.toList ::
    ((shape.metrics.zipIdx.flatMap fun (name, position) ↦
        metricTexts shape.includeMax (metricFor report position name)) ++
      (List.range shape.information).map fun position ↦ valueText report.information[position]?)

def width (shape : RowShape) : Nat :=
  shape.metrics.length * (if shape.includeMax then 2 else 1) + shape.information + 1

theorem line_eq (shape : RowShape) (label : String) (report : Report) :
    shape.line label report = fieldLine (shape.fields label report) := by
  unfold line fieldLine fields cells
  simp only [List.map_cons, List.map_append, List.map_flatMap, List.map_map, metricCells_eq,
    Function.comp_def, cell_eq]

theorem one_lt_width {shape : RowShape} (h : shape.metrics ≠ []) : 1 < shape.width := by
  have hmetrics := List.length_pos_of_ne_nil h
  unfold width
  split <;> omega

theorem fields_ne_nil (shape : RowShape) (label : String) (report : Report) :
    shape.fields label report ≠ [] := List.cons_ne_nil _ _

/-- However many metrics a report has, its row has as many fields as the shape says. -/
theorem length_fields (shape : RowShape) (label : String) (report : Report) :
    (shape.fields label report).length = shape.width := by
  have hmetric : ∀ column ∈ shape.metrics.zipIdx,
      (metricTexts shape.includeMax (metricFor report column.2 column.1)).length =
        if shape.includeMax then 2 else 1 := by
    intro column _
    cases shape.includeMax <;> rfl
  unfold fields width
  rw [List.length_cons, List.length_append, List.length_map, List.length_range,
    List.length_flatMap, List.map_congr_left hmetric]
  simp

end RowShape

theorem Layout.width_rowShape (layout : Layout) : layout.rowShape.width = layout.width := by
  unfold RowShape.width Layout.rowShape Layout.width Layout.columns
  rw [List.length_append, List.length_flatMap, List.length_map, List.length_map]
  cases layout.includeMax <;> simp

/-! ## Single lines -/

section SingleLine

variable {shape : RowShape} {label : String} {report : Report}

theorem mem_of_metricFor {position : Nat} {name : String} {metric : Metric}
    (h : metricFor report position name = some metric) : metric ∈ report.metrics := by
  unfold metricFor at h
  split at h
  · rename_i found hfound
    split at h
    · rw [← Option.some.inj h]
      exact List.mem_of_getElem? hfound
    · exact List.mem_of_find?_eq_some h
  · exact List.mem_of_find?_eq_some h

theorem lineFeed_not_mem_valueText {value : Option Value} (h : ∀ v ∈ value, v.IsSingleLine) :
    '\n' ∉ valueText value := by
  cases value with
  | none => simp [valueText]
  | some value => exact (h value rfl).toText

theorem lineFeed_not_mem_metricTexts (includeMax : Bool) {metric : Option Metric}
    (hvalue : ∀ m ∈ metric, m.value.IsSingleLine)
    (hmax : ∀ m ∈ metric, ∀ value ∈ m.max?, value.IsSingleLine) :
    ∀ text ∈ metricTexts includeMax metric, '\n' ∉ text := by
  have hvalueText : '\n' ∉ valueText (metric.map (·.value)) := by
    apply lineFeed_not_mem_valueText
    simpa using hvalue
  have hmaxText : '\n' ∉ valueText (metric.bind (·.max?)) := by
    apply lineFeed_not_mem_valueText
    intro value hmem
    obtain ⟨m, hm, hv⟩ := Option.bind_eq_some_iff.1 hmem
    exact hmax m hm value hv
  unfold metricTexts
  cases includeMax <;> simp [hvalueText, hmaxText]

/-- Whether no value of a report that a row shows is a text with a line feed. -/
@[mk_iff]
structure RowShape.IsSingleLine (shape : RowShape) (report : Report) : Prop where
  value : ∀ metric ∈ report.metrics, metric.value.IsSingleLine
  max : ∀ metric ∈ report.metrics, ∀ value ∈ metric.max?, value.IsSingleLine
  information : ∀ value ∈ report.information.take shape.information, value.IsSingleLine

instance (shape : RowShape) (report : Report) : Decidable (shape.IsSingleLine report) :=
  decidable_of_iff' _ (shape.isSingleLine_iff report)

theorem RowShape.isSingleLine_of_report (shape : RowShape) (h : report.IsSingleLine) :
    shape.IsSingleLine report :=
  ⟨h.value, h.max, fun value hvalue ↦ h.information value (List.mem_of_mem_take hvalue)⟩

theorem RowShape.lineFeed_not_mem_fields (hlabel : '\n' ∉ label.toList)
    (hreport : shape.IsSingleLine report) :
    ∀ field ∈ shape.fields label report, '\n' ∉ field := by
  intro field hfield
  obtain rfl | hcells := List.mem_cons.1 hfield
  · exact hlabel
  obtain hmetrics | hinformation := List.mem_append.1 hcells
  · obtain ⟨⟨name, position⟩, -, hcell⟩ := List.mem_flatMap.1 hmetrics
    refine lineFeed_not_mem_metricTexts shape.includeMax ?_ ?_ field hcell
    · intro metric hmetric
      exact hreport.value metric (mem_of_metricFor hmetric)
    · intro metric hmetric
      exact hreport.max metric (mem_of_metricFor hmetric)
  · obtain ⟨position, hposition, rfl⟩ := List.mem_map.1 hinformation
    apply lineFeed_not_mem_valueText
    intro value hvalue
    apply hreport.information
    apply List.mem_of_getElem?
    rw [List.getElem?_take_of_lt (List.mem_range.1 hposition)]
    exact hvalue

theorem RowShape.lineFeed_not_mem_line (hlabel : '\n' ∉ label.toList)
    (hreport : shape.IsSingleLine report) : '\n' ∉ shape.line label report := by
  rw [RowShape.line_eq]
  exact lineFeed_not_mem_fieldLine (RowShape.lineFeed_not_mem_fields hlabel hreport)

/-- A row with a column besides that of the labels is not blank, and neither is one with a visible
label. -/
theorem RowShape.isAllBlank_line (h : 1 < shape.width ∨ Text.isAllBlank label.toList = false)
    (report : Report) : Text.isAllBlank (shape.line label report) = false := by
  obtain ⟨texts, hfields⟩ : ∃ texts, shape.fields label report = label.toList :: texts :=
    ⟨_, rfl⟩
  have hlength := shape.length_fields label report
  rw [hfields, List.length_cons] at hlength
  rw [RowShape.line_eq, hfields]
  by_cases htexts : texts = []
  · subst htexts
    obtain hwidth | hlabel := h
    · rw [List.length_nil] at hlength
      omega
    · exact isAllBlank_escapeField hlabel
  · exact isAllBlank_fieldLine_cons htexts _

end SingleLine

/-! ## Looking metrics up -/

/-- Where a name determines a metric, the metric at a position is the one that is looked up. -/
theorem metricFor_eq_get? {report : Report} {name : String} (h : report.Determines name)
    (position : Nat) : metricFor report position name = report.get? name := by
  unfold metricFor
  split
  · rename_i metric hmetric
    split
    · rename_i hname
      exact (h.get?_eq_some_iff.2 ⟨List.mem_of_getElem? hmetric, hname⟩).symm
    · rfl
  · rfl

/-- The texts of a row by the names of its columns. -/
theorem RowShape.fields_eq_of_determines {shape : RowShape} {report : Report}
    (h : ∀ name ∈ shape.metrics, report.Determines name) (label : String) :
    shape.fields label report = label.toList ::
      ((shape.metrics.flatMap fun name ↦ metricTexts shape.includeMax (report.get? name)) ++
        (List.range shape.information).map fun position ↦
          valueText report.information[position]?) := by
  have hcolumns : (shape.metrics.zipIdx.flatMap fun (name, position) ↦
      metricTexts shape.includeMax (metricFor report position name)) =
        (shape.metrics.zipIdx.map Prod.fst).flatMap fun name ↦
          metricTexts shape.includeMax (report.get? name) := by
    rw [List.flatMap_map]
    apply List.flatMap_congr
    rintro ⟨name, position⟩ hcolumn
    have hname : name ∈ shape.metrics := List.fst_mem_of_mem_zipIdx hcolumn
    simp only [metricFor_eq_get? (h name hname)]
  rw [RowShape.fields, hcolumns, List.zipIdx_map_fst]

theorem RowShape.fields_eq {shape : RowShape} {report : Report} (h : report.IsDistinct)
    (label : String) :
    shape.fields label report = label.toList ::
      ((shape.metrics.flatMap fun name ↦ metricTexts shape.includeMax (report.get? name)) ++
        (List.range shape.information).map fun position ↦
          valueText report.information[position]?) :=
  RowShape.fields_eq_of_determines (fun name _ ↦ h.determines name) label

/-! ## Reading cells -/

/-- The report with the cells of some more columns read. -/
def readOn (report : Report) (columns : List Column) (texts : List (List Char)) : Report :=
  (columns.zip texts).foldl (fun report (column, text) ↦ readCell report column text) report

theorem readCells_eq_readOn (columns : List Column) (texts : List (List Char)) :
    readCells columns texts = readOn {} columns texts := rfl

theorem readOn_cons (report : Report) (column : Column) (columns : List Column)
    (text : List Char) (texts : List (List Char)) :
    readOn report (column :: columns) (text :: texts) =
      readOn (readCell report column text) columns texts := rfl

theorem readOn_append (report : Report) {columns more : List Column}
    {texts : List (List Char)} (h : columns.length = texts.length) (rest : List (List Char)) :
    readOn report (columns ++ more) (texts ++ rest) =
      readOn (readOn report columns texts) more rest := by
  unfold readOn
  rw [List.zip_append h, List.foldl_append]

/-- A metric of another name is not given the greatest value. -/
theorem giveMax_of_forall_ne {metrics : List Metric} {name : String}
    (h : ∀ metric ∈ metrics, metric.name ≠ name) (value : Value) :
    giveMax metrics name value = metrics := by
  unfold giveMax
  split
  · rename_i last hlast
    exact if_neg (h last (List.mem_of_getLast? hlast))
  · rfl

theorem giveMax_append_singleton (metrics : List Metric) (metric : Metric) (value : Value) :
    giveMax (metrics ++ [metric]) metric.name value =
      metrics ++ [{ metric with max? := some value }] := by
  simp [giveMax]

theorem readCell_metric (report : Report) (column : Descriptor) (value : Option Value) :
    readCell report (.metric column) (valueText value) =
      { report with
        metrics := report.metrics ++
          ((value.bind Value.reread?).map fun value ↦
            (⟨column.name, value, none⟩ : Metric)).toList } := by
  unfold readCell
  by_cases htext : valueText value = []
  · simp [htext, (valueText_eq_nil_iff value).1 htext]
  · simp [htext, reread?_of_valueText_ne_nil htext]

theorem readCell_max (report : Report) (name : String) (value : Option Value) :
    readCell report (.max name) (valueText value) =
      { report with
        metrics := match value.bind Value.reread? with
          | some value => giveMax report.metrics name value
          | none => report.metrics } := by
  unfold readCell
  by_cases htext : valueText value = []
  · simp [htext, (valueText_eq_nil_iff value).1 htext]
  · simp [htext, reread?_of_valueText_ne_nil htext]

theorem readCell_information (report : Report) (column : Descriptor) (value : Option Value) :
    readCell report (.information column) (valueText value) =
      { report with
        information := report.information ++ [(value.bind Value.reread?).getD (.text "")] } := by
  unfold readCell
  by_cases htext : valueText value = []
  · simp [htext, (valueText_eq_nil_iff value).1 htext]
  · simp [htext, reread?_of_valueText_ne_nil htext]

/-- The cells of a metric without a text leave the metrics before it as they are, even if the metric
has greatest values, unless one of them has its name. -/
theorem readOn_metricRoles_of_none {includeMax : Bool} {column : Descriptor}
    {metric : Option Metric} (hread : metric.bind (Metric.reread? includeMax) = none)
    {report : Report} (hbefore : ∀ m ∈ report.metrics, m.name ≠ column.name) :
    readOn report (Layout.metricRoles includeMax column) (metricTexts includeMax metric) =
      report := by
  have hvalue : (metric.map (·.value)).bind Value.reread? = none := by
    cases metric with
    | none => rfl
    | some metric => simpa [Metric.reread?] using hread
  have hcell : readCell report (.metric column) (valueText (metric.map (·.value))) = report := by
    rw [readCell_metric, hvalue]
    simp
  cases includeMax with
  | false => exact hcell
  | true =>
    have hmax : readCell report (.max column.name) (valueText (metric.bind (·.max?))) =
        report := by
      rw [readCell_max]
      split
      · rw [giveMax_of_forall_ne hbefore]
      · rfl
    calc
      readOn report (Layout.metricRoles true column) (metricTexts true metric) =
          readCell (readCell report (.metric column) (valueText (metric.map (·.value))))
            (.max column.name) (valueText (metric.bind (·.max?))) := rfl
      _ = report := by rw [hcell, hmax]

/-- The cells of a metric with a text give the metric as its texts read. -/
theorem readOn_metricRoles_of_some {includeMax : Bool} {column : Descriptor} {metric read : Metric}
    (hname : metric.name = column.name) (hread : metric.reread? includeMax = some read)
    (report : Report) :
    readOn report (Layout.metricRoles includeMax column) (metricTexts includeMax (some metric)) =
      { report with metrics := report.metrics ++ [read] } := by
  obtain ⟨value, hvalue, rfl⟩ := Option.map_eq_some_iff.1 hread
  have hcell : readCell report (.metric column) (valueText (some metric.value)) =
      { report with metrics := report.metrics ++ [⟨metric.name, value, none⟩] } := by
    have hbind : (some metric.value).bind Value.reread? = some value := hvalue
    rw [readCell_metric, hbind, hname]
    rfl
  cases includeMax with
  | false => exact hcell
  | true =>
    calc
      readOn report (Layout.metricRoles true column) (metricTexts true (some metric)) =
          readCell (readCell report (.metric column) (valueText (some metric.value)))
            (.max column.name) (valueText metric.max?) := rfl
      _ = _ := by
        rw [hcell, readCell_max, ← hname]
        cases metric.max?.bind Value.reread? with
        | none => rfl
        | some greatest =>
          have hgive := giveMax_append_singleton report.metrics ⟨metric.name, value, none⟩ greatest
          simp only [hgive, if_true]

/-- The induction is on the columns of metrics. Each metric read so far is one that the report has a
text for, which keeps greatest values without a value of their own from going to it. -/
theorem readOn_metrics {includeMax : Bool} {report : Report} {columns : List Descriptor}
    {read : Report}
    (hread : ∀ metric ∈ read.metrics,
      (report.get? metric.name).bind (Metric.reread? includeMax) ≠ none) :
    readOn read (columns.flatMap (Layout.metricRoles includeMax))
        (columns.flatMap fun column ↦ metricTexts includeMax (report.get? column.name)) =
      { read with
        metrics := read.metrics ++ columns.filterMap fun column ↦
          (report.get? column.name).bind (Metric.reread? includeMax) } := by
  induction columns generalizing read with
  | nil => simp [readOn]
  | cons column columns ih =>
    have hlength : (Layout.metricRoles includeMax column).length =
        (metricTexts includeMax (report.get? column.name)).length := by
      cases includeMax <;> rfl
    rw [List.flatMap_cons, List.flatMap_cons, readOn_append read hlength, List.filterMap_cons]
    cases hcolumn : (report.get? column.name).bind (Metric.reread? includeMax) with
    | none =>
      have hbefore : ∀ metric ∈ read.metrics, metric.name ≠ column.name := by
        intro metric hmetric hname
        apply hread metric hmetric
        rw [hname]
        exact hcolumn
      rw [readOn_metricRoles_of_none hcolumn hbefore, ih hread]
    | some metric =>
      obtain ⟨found, hfound, hmetric⟩ := Option.bind_eq_some_iff.1 hcolumn
      have hfoundName : found.name = column.name := Report.name_of_get? hfound
      have hname : metric.name = column.name := by
        obtain ⟨value, -, rfl⟩ := Option.map_eq_some_iff.1 hmetric
        exact hfoundName
      rw [hfound, readOn_metricRoles_of_some hfoundName hmetric, ih]
      · simp
      · intro other hother
        obtain hold | hnew := List.mem_append.1 hother
        · exact hread other hold
        · rw [List.mem_singleton.1 hnew, hname, hcolumn]
          simp

/-- The induction is on the columns of further information. -/
theorem readOn_information (read : Report) (columns : List Descriptor)
    (values : List (Option Value)) (h : columns.length = values.length) :
    readOn read (columns.map .information) (values.map valueText) =
      { read with
        information := read.information ++
          values.map fun value ↦ (value.bind Value.reread?).getD (.text "") } := by
  induction columns generalizing read values with
  | nil =>
    obtain rfl : values = [] := List.length_eq_zero_iff.1 h.symm
    simp [readOn]
  | cons column columns ih =>
    cases values with
    | nil => simp at h
    | cons value values =>
      have hvalues : columns.length = values.length := by simpa using h
      rw [List.map_cons, List.map_cons, readOn_cons, readCell_information, ih _ values hvalues]
      simp

/-! ## Reading rows -/

/-- A row under the columns of its layout is the report as its texts read. -/
theorem readCells_fields {layout : Layout} {report : Report} (h : report.IsDistinct)
    (label : String) :
    readCells layout.roles (layout.rowShape.fields label report).tail =
      layout.readBack report := by
  have htexts : (layout.rowShape.fields label report).tail =
      (layout.metrics.flatMap fun column ↦
        metricTexts layout.includeMax (report.get? column.name)) ++
      ((List.range layout.shownInformation.length).map fun position ↦
        report.information[position]?).map valueText := by
    rw [RowShape.fields_eq h, List.tail_cons, List.map_map, Layout.rowShape, List.flatMap_map]
    rfl
  have hlength : (layout.metrics.flatMap (Layout.metricRoles layout.includeMax)).length =
      (layout.metrics.flatMap fun column ↦
        metricTexts layout.includeMax (report.get? column.name)).length := by
    rw [List.length_flatMap, List.length_flatMap]
    cases layout.includeMax <;> rfl
  rw [readCells_eq_readOn, htexts, Layout.roles, readOn_append {} hlength]
  -- The metrics come first, and the information goes on with what they have left.
  rw [readOn_metrics (by simp), readOn_information _ _ _ (by simp), List.map_map]
  rfl

theorem RowShape.splitFields_line (shape : RowShape) (label : String) (report : Report) :
    splitFields (shape.line label report) = shape.fields label report := by
  rw [RowShape.line_eq, splitFields_fieldLine (shape.fields_ne_nil label report)]

/-- A row is read under columns of its own number, whatever they hold, and under no others. -/
theorem readRow_line (columns : List Column) (shape : RowShape) (label : String) (report : Report)
    (number : Nat) :
    readRow columns (shape.line label report) number =
      if shape.width = columns.length + 1 then
        .ok (label, readCells columns (shape.fields label report).tail)
      else .error (.fieldCount number shape.width (columns.length + 1)) := by
  have hlabel : String.ofList ((shape.fields label report).headD []) = label :=
    String.ofList_toList
  simp only [readRow, RowShape.splitFields_line, RowShape.length_fields, hlabel]

theorem Layout.Legible.readRow_line {layout : Layout} (hlegible : layout.Legible) {report : Report}
    (hreport : report.IsDistinct) (label : String) (number : Nat) :
    readRow layout.readAs (layout.rowShape.line label report) number =
      .ok (label, layout.readBack report) := by
  have hwidth : layout.rowShape.width = layout.readAs.length + 1 := by
    rw [Layout.width_rowShape, Layout.length_readAs, Layout.width]
  rw [Dump.readRow_line, if_pos hwidth, hlegible.readAs_eq_roles, readCells_fields hreport]

end Dump

end GpuCounters
