import GpuCounters.Driver.Library
import GpuCounters.Proofs.Dump.Columns
import GpuCounters.Proofs.Dump.Rows

/-!
# Reports of a library

A library fills buffers with one value for each metric, of which some may be of no known kind. The
report lists the metrics whose values are known, in their order. Although such a report is shorter
than the metric set, each of its values is written under the column of its own metric, and the
columns of the others stay empty.
-/

namespace GpuCounters

open Dump

/-! ## Finding by name -/

/-- Among elements with distinct keys, what one of them comes to is found by its key. -/
theorem find?_filterMap_of_nodup {α β : Type} (key : α → String) {name : β → String}
    {f : α → Option β} (hname : ∀ a b, f a = some b → name b = key a) {xs : List α}
    (hnodup : (xs.map key).Nodup) {x : α} (hx : x ∈ xs) :
    (xs.filterMap f).find? (name · = key x) = f x := by
  induction xs with
  | nil => cases hx
  | cons y ys ih =>
    obtain ⟨hfresh, hrest⟩ := List.nodup_cons.1 hnodup
    obtain rfl | hmem := List.mem_cons.1 hx
    · cases hf : f x with
      | some b =>
        rw [List.filterMap_cons_some hf, List.find?_cons_of_pos (by simp [hname x b hf])]
      | none =>
        rw [List.filterMap_cons_none hf, List.find?_eq_none]
        intro b hb heq
        obtain ⟨other, hother, hfound⟩ := List.mem_filterMap.1 hb
        have hkey : key other = key x := by
          rw [← hname other b hfound]
          exact of_decide_eq_true heq
        exact hfresh (hkey ▸ List.mem_map_of_mem hother)
    · have hne : key y ≠ key x := fun heq ↦ hfresh (heq ▸ List.mem_map_of_mem hmem)
      cases hf : f y with
      | none => rw [List.filterMap_cons_none hf, ih hrest hmem]
      | some b =>
        rw [List.filterMap_cons_some hf, List.find?_cons_of_neg (by simp [hname y b hf, hne]),
          ih hrest hmem]

theorem sublist_map_filterMap {α β : Type} (key : α → String) {name : β → String}
    {f : α → Option β} (hname : ∀ a b, f a = some b → name b = key a) (xs : List α) :
    ((xs.filterMap f).map name).Sublist (xs.map key) := by
  induction xs with
  | nil => exact List.Sublist.slnil
  | cons x xs ih =>
    cases hf : f x with
    | none =>
      rw [List.filterMap_cons_none hf]
      exact ih.cons _
    | some b =>
      rw [List.filterMap_cons_some hf, List.map_cons, List.map_cons, hname x b hf]
      exact ih.cons_cons _

namespace Driver.Loaded

/-! ## Known values -/

/-- The value at a position of a buffer, if it was filled with one of a known kind. -/
def known? (values : List (Option RawValue)) (position : Nat) : Option Value :=
  values[position]?.join.bind RawValue.toValue?

theorem known?_cons_succ (value : Option RawValue) (values : List (Option RawValue))
    (position : Nat) : known? (value :: values) (position + 1) = known? values position := by
  rw [known?, known?, List.getElem?_cons_succ]

/-- A buffer has as many values as its caller asks for, whatever was filled in. The induction is on
what was. -/
theorem fill_eq (length : Nat) (values : List (Option RawValue)) :
    fill length values = (List.range length).map (known? values) := by
  induction values generalizing length with
  | nil =>
    have hnone : known? [] = fun _ ↦ none := rfl
    rw [hnone, List.map_const', List.length_range]
    simp [fill]
  | cons value values ih =>
    cases length with
    | zero => simp [fill]
    | succ length =>
      have hrest := ih length
      have hhead : known? (value :: values) 0 = value.bind RawValue.toValue? := by
        rw [known?, List.getElem?_cons_zero, Option.join_some]
      rw [List.range_succ_eq_map, List.map_cons, List.map_map, hhead]
      simp only [fill] at hrest
      simp only [fill, List.map_cons, List.take_succ_cons, List.length_cons,
        Nat.add_sub_add_right, List.cons_append, hrest, Function.comp_def, Nat.succ_eq_add_one,
        known?_cons_succ]

/-! ## Reports -/

/-- The metric at a position of the metric set, if its value is known. -/
def metricAt? (connection : Connection) (raw : RawReport) : Descriptor × Nat → Option Metric
  | (metric, position) =>
    (known? raw.values position).map fun value ↦
      ⟨metric.name, value, if connection.includeMax then known? raw.max position else none⟩

/-- A report lists the metrics whose values are known, in their order. -/
theorem metrics_report (connection : Connection) (raw : RawReport) :
    (report connection raw).metrics =
      connection.metrics.zipIdx.filterMap (metricAt? connection raw) := by
  have hmax : (if connection.includeMax then fill connection.metrics.length raw.max
      else List.replicate connection.metrics.length none) =
        (List.range connection.metrics.length).map fun position ↦
          if connection.includeMax then known? raw.max position else none := by
    cases connection.includeMax with
    | true => exact fill_eq _ _
    | false => simp [List.map_const']
  unfold report
  dsimp only
  rw [hmax, fill_eq, List.zip_map', List.zip_map_right, List.filterMap_map,
    List.zipIdx_eq_zip_range', List.range_eq_range']
  rfl

variable {connection : Connection}

theorem name_of_metricAt? (connection : Connection) (raw : RawReport) (column : Descriptor × Nat)
    (metric : Metric) (h : metricAt? connection raw column = some metric) :
    metric.name = column.1.name := by
  obtain ⟨value, -, rfl⟩ := Option.map_eq_some_iff.1 h
  rfl

theorem map_name_zipIdx (metrics : List Descriptor) :
    (metrics.zipIdx.map fun column ↦ column.1.name) = metrics.map (·.name) := by
  have hfst := congrArg (List.map fun metric : Descriptor ↦ metric.name)
    (List.zipIdx_map_fst 0 metrics)
  rwa [List.map_map] at hfst

theorem isDistinct_report (hdistinct : (connection.metrics.map (·.name)).Nodup)
    (raw : RawReport) (information : List Value) :
    { report connection raw with information }.IsDistinct := by
  show ((report connection raw).metrics.map (·.name)).Nodup
  rw [metrics_report]
  have hsublist := sublist_map_filterMap (fun column : Descriptor × Nat ↦ column.1.name)
    (name_of_metricAt? connection raw) connection.metrics.zipIdx
  rw [map_name_zipIdx] at hsublist
  exact hdistinct.sublist hsublist

/-- The value of each metric is found by its name. -/
theorem get?_report (hdistinct : (connection.metrics.map (·.name)).Nodup) (raw : RawReport)
    (information : List Value) {column : Descriptor × Nat}
    (hcolumn : column ∈ connection.metrics.zipIdx) :
    { report connection raw with information }.get? column.1.name =
      metricAt? connection raw column := by
  show (report connection raw).metrics.find? (·.name = column.1.name) = _
  rw [metrics_report]
  apply find?_filterMap_of_nodup (fun column : Descriptor × Nat ↦ column.1.name)
    (name_of_metricAt? connection raw) _ hcolumn
  rw [map_name_zipIdx]
  exact hdistinct

/-- Whether a report comes to nothing: it could not be read, or none of its values is known. -/
def IsVacant (connection : Connection) (raw : RawReport) : Prop :=
  raw.status ≠ .success ∨
    ∀ position < connection.metrics.length, known? raw.values position = none

instance (connection : Connection) (raw : RawReport) : Decidable (IsVacant connection raw) :=
  inferInstanceAs (Decidable (_ ∨ _))

theorem isEmpty_report_iff (connection : Connection) (raw : RawReport) :
    (report connection raw).isEmpty = true ↔
      ∀ position < connection.metrics.length, known? raw.values position = none := by
  rw [Report.isEmpty_iff, metrics_report, List.filterMap_eq_nil_iff]
  constructor
  · intro hnone position hposition
    have hcolumn : (connection.metrics[position], position) ∈ connection.metrics.zipIdx :=
      List.mk_mem_zipIdx_iff_getElem?.2 (List.getElem?_eq_getElem hposition)
    exact Option.map_eq_none_iff.1 (hnone _ hcolumn)
  · rintro hnone ⟨metric, position⟩ hcolumn
    have hposition := List.mk_mem_zipIdx_iff_getElem?.1 hcolumn
    exact Option.map_eq_none_iff.2 (hnone position (List.getElem?_eq_some_iff.1 hposition).1)

theorem result_decode (library : Library) (bytes : ByteArray) (connection : Connection)
    (state : library.State) :
    (decode library bytes connection state).result =
      if (library.decode bytes connection.handle state).1.status = .success then
        report connection (library.decode bytes connection.handle state).1
      else {} := by
  unfold decode
  dsimp only
  split <;> simp only

/-- What is decoded is empty just if the report is vacant, and otherwise it is the report. -/
theorem decode_cases (library : Library) (bytes : ByteArray) (connection : Connection)
    (state : library.State) :
    let raw := (library.decode bytes connection.handle state).1
    (IsVacant connection raw → (decode library bytes connection state).result.isEmpty = true) ∧
      (¬ IsVacant connection raw → (decode library bytes connection state).result.isEmpty = false ∧
        (decode library bytes connection state).result = report connection raw) := by
  intro raw
  rw [result_decode]
  constructor
  · rintro (hstatus | hnone)
    · rw [if_neg hstatus]
      rfl
    · split
      · exact (isEmpty_report_iff connection raw).2 hnone
      · rfl
  · intro hvacant
    obtain ⟨hstatus, hknown⟩ := not_or.1 hvacant
    rw [if_pos (not_not.1 hstatus), ← Bool.not_eq_true, isEmpty_report_iff]
    exact ⟨hknown, rfl⟩

/-! ## Rows -/

/-- The texts of the columns of a metric: that of its value, and that of its greatest value if there
are columns for these. Both are empty if the value is not known. -/
def columnTexts (connection : Connection) (raw : RawReport) (position : Nat) : List (List Char) :=
  valueText (known? raw.values position) ::
    if connection.includeMax then
      [valueText ((known? raw.values position).bind fun _ ↦ known? raw.max position)]
    else []

theorem metricTexts_metricAt? (connection : Connection) (raw : RawReport)
    (column : Descriptor × Nat) :
    metricTexts connection.includeMax (metricAt? connection raw column) =
      columnTexts connection raw column.2 := by
  obtain ⟨metric, position⟩ := column
  unfold metricTexts columnTexts metricAt?
  dsimp only
  cases known? raw.values position with
  | none => rfl
  | some value => cases connection.includeMax <;> rfl

/-- Every value of a row is in the column of its metric, however many values are not known. -/
theorem splitFields_line (hdistinct : (connection.metrics.map (·.name)).Nodup) (mode : Mode)
    (label : String) (raw : RawReport) (information : List Value) :
    let layout : Layout :=
      ⟨mode, connection.metrics, connection.information, connection.includeMax⟩
    splitFields (layout.rowShape.line label { report connection raw with information }) =
      label.toList ::
        ((connection.metrics.zipIdx.flatMap fun column ↦ columnTexts connection raw column.2) ++
          (List.range layout.shownInformation.length).map fun position ↦
            valueText information[position]?) := by
  intro layout
  have hshape : layout.rowShape = ⟨connection.metrics.map (·.name), connection.includeMax,
    layout.shownInformation.length⟩ := rfl
  rw [RowShape.splitFields_line,
    RowShape.fields_eq (isDistinct_report hdistinct raw information), hshape]
  dsimp only
  congr 2
  rw [← map_name_zipIdx, List.flatMap_map]
  apply List.flatMap_congr
  intro column hcolumn
  rw [get?_report hdistinct raw information hcolumn, metricTexts_metricAt?]

end Driver.Loaded

end GpuCounters
