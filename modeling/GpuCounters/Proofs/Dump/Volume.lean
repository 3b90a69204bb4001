import GpuCounters.Proofs.Dump.Rows

/-!
# Volumes

The file of a dump is a volume: the header of one layout, and rows behind it. Rows may have been
written under another layout than that of the header. Such a volume is accepted exactly if each of
its rows has as many fields as its header has columns, and if all of it was written under one
legible layout it says what it was written for.
-/

namespace GpuCounters.Dump

/-! ## Lines in bytes -/

def lineBytes (lines : List (List Char)) : ByteArray := (String.ofList (Text.ended lines)).toUTF8

@[simp] theorem lineBytes_nil : lineBytes [] = .empty := by decide

@[simp] theorem lineBytes_append (lines more : List (List Char)) :
    lineBytes (lines ++ more) = lineBytes lines ++ lineBytes more := by
  simp [lineBytes, String.ofList_append, String.toByteArray_append]

theorem lineBytes_singleton (line : List Char) :
    lineBytes [line] = (String.ofList line).toUTF8 ++ "\n".toUTF8 := by
  unfold lineBytes
  rw [Text.ended_cons, Text.ended_nil, String.ofList_append]
  exact String.toByteArray_append

theorem fromUTF8?_lineBytes (lines : List (List Char)) :
    String.fromUTF8? (lineBytes lines) = some (String.ofList (Text.ended lines)) := by
  have hvalid : (String.ofList (Text.ended lines)).toUTF8.IsValidUTF8 :=
    (String.ofList (Text.ended lines)).isValidUTF8
  exact dif_pos hvalid

/-! ## Volumes -/

/-- A report that was written under a label, and the columns that it was written for. -/
structure Row where
  shape : RowShape
  label : String
  report : Report
  deriving DecidableEq

def Row.line (row : Row) : List Char := row.shape.line row.label row.report

/-- What the file of a dump holds: a header and the rows behind it. -/
structure Volume where
  layout : Layout
  rows : List Row := []
  deriving DecidableEq

namespace Volume

def lines (volume : Volume) : List (List Char) :=
  volume.layout.nameLine :: volume.layout.unitLine :: volume.rows.map Row.line

def bytes (volume : Volume) : ByteArray := lineBytes volume.lines

def push (volume : Volume) (row : Row) : Volume := { volume with rows := volume.rows ++ [row] }

/-- More rows are more lines. -/
theorem bytes_append (layout : Layout) (rows more : List Row) :
    (mk layout (rows ++ more)).bytes = (mk layout rows).bytes ++ lineBytes (more.map Row.line) := by
  simp [bytes, lines, ← lineBytes_append]

theorem bytes_push (volume : Volume) (row : Row) :
    (volume.push row).bytes = volume.bytes ++ lineBytes [row.line] :=
  bytes_append volume.layout volume.rows [row]

/-- There is a line end at least. -/
theorem size_bytes_pos (volume : Volume) : 0 < volume.bytes.size := by
  have hlines : volume.bytes = lineBytes [volume.layout.nameLine] ++
      lineBytes (volume.layout.unitLine :: volume.rows.map Row.line) := by
    rw [← lineBytes_append]
    rfl
  have hend : 0 < "\n".toUTF8.size := by decide
  rw [hlines, lineBytes_singleton, ByteArray.size_append, ByteArray.size_append]
  omega

/-- What a reader makes of a volume's bytes. -/
def read (volume : Volume) : Except Malformation Contents :=
  readContents (String.ofList (Text.ended volume.lines))

end Volume

/-! ## Single lines -/

/-- Whether the name and the unit of a column have no line feed. -/
@[mk_iff]
structure Descriptor.IsSingleLine (descriptor : Descriptor) : Prop where
  name : '\n' ∉ descriptor.name.toList
  unit : '\n' ∉ descriptor.unit.toList

instance (descriptor : Descriptor) : Decidable (Descriptor.IsSingleLine descriptor) :=
  decidable_of_iff' _ (Descriptor.isSingleLine_iff descriptor)

/-- Whether no name or unit of a layout's columns has a line feed. -/
@[mk_iff]
structure Layout.IsSingleLine (layout : Layout) : Prop where
  metrics : ∀ metric ∈ layout.metrics, Descriptor.IsSingleLine metric
  information : ∀ value ∈ layout.shownInformation, Descriptor.IsSingleLine value

instance (layout : Layout) : Decidable layout.IsSingleLine :=
  decidable_of_iff' _ layout.isSingleLine_iff

/-- Whether no text of a row has a line feed. -/
@[mk_iff]
structure Row.IsSingleLine (row : Row) : Prop where
  label : '\n' ∉ row.label.toList
  report : row.shape.IsSingleLine row.report

instance (row : Row) : Decidable row.IsSingleLine := decidable_of_iff' _ row.isSingleLine_iff

@[mk_iff]
structure Volume.IsSingleLine (volume : Volume) : Prop where
  layout : volume.layout.IsSingleLine
  rows : ∀ row ∈ volume.rows, row.IsSingleLine

instance (volume : Volume) : Decidable volume.IsSingleLine :=
  decidable_of_iff' _ volume.isSingleLine_iff

theorem Layout.IsSingleLine.columns {layout : Layout} (h : layout.IsSingleLine) :
    ∀ column ∈ layout.columns, Descriptor.IsSingleLine column := by
  have hmax : '\n' ∉ maxMark.toList := by decide
  have hinformation : '\n' ∉ informationMark.toList := by decide
  intro column hcolumn
  unfold Layout.columns at hcolumn
  obtain hmetric | hvalue := List.mem_append.1 hcolumn
  · obtain ⟨metric, hmem, hpair⟩ := List.mem_flatMap.1 hmetric
    obtain ⟨hname, hunit⟩ := h.metrics metric hmem
    obtain rfl | hpair := List.mem_cons.1 hpair
    · exact ⟨hname, hunit⟩
    · split at hpair
      · obtain rfl := List.mem_singleton.1 hpair
        exact ⟨by simp [hname, hmax], hunit⟩
      · simp at hpair
  · obtain ⟨value, hmem, rfl⟩ := List.mem_map.1 hvalue
    obtain ⟨hname, hunit⟩ := h.information value hmem
    exact ⟨by simp [hname, hinformation], hunit⟩

theorem Layout.IsSingleLine.nameLine {layout : Layout} (h : layout.IsSingleLine) :
    '\n' ∉ layout.nameLine := by
  have htitle : '\n' ∉ (labelTitle layout.mode).toList := by
    cases layout.mode <;> decide
  rw [Layout.nameLine_eq]
  apply lineFeed_not_mem_fieldLine
  intro field hfield
  obtain rfl | hname := List.mem_cons.1 hfield
  · exact htitle
  · obtain ⟨column, hcolumn, rfl⟩ := List.mem_map.1 hname
    exact (h.columns column hcolumn).name

theorem Layout.IsSingleLine.unitLine {layout : Layout} (h : layout.IsSingleLine) :
    '\n' ∉ layout.unitLine := by
  rw [Layout.unitLine_eq]
  apply lineFeed_not_mem_fieldLine
  intro field hfield
  obtain rfl | hunit := List.mem_cons.1 hfield
  · exact List.not_mem_nil
  · obtain ⟨column, hcolumn, rfl⟩ := List.mem_map.1 hunit
    exact (h.columns column hcolumn).unit

theorem Row.IsSingleLine.line {row : Row} (h : row.IsSingleLine) : '\n' ∉ row.line :=
  RowShape.lineFeed_not_mem_line h.label h.report

theorem Row.dropReturn_line (row : Row) : Text.dropReturn row.line = row.line := by
  rw [Row.line, RowShape.line_eq, dropReturn_fieldLine]

/-- The lines of a volume of single lines are the lines of its text. -/
theorem Volume.IsSingleLine.lines_ended {volume : Volume} (h : volume.IsSingleLine) :
    Text.lines (Text.ended volume.lines) = volume.lines := by
  have hsingle : ∀ line ∈ volume.lines, '\n' ∉ line := by
    intro line hline
    obtain rfl | hline := List.mem_cons.1 hline
    · exact h.layout.nameLine
    obtain rfl | hline := List.mem_cons.1 hline
    · exact h.layout.unitLine
    · obtain ⟨row, hrow, rfl⟩ := List.mem_map.1 hline
      exact (h.rows row hrow).line
  have hrows : (volume.rows.map Row.line).map Text.dropReturn = volume.rows.map Row.line := by
    rw [List.map_map]
    exact List.map_congr_left fun row _ ↦ row.dropReturn_line
  rw [Text.lines_ended hsingle, Volume.lines, List.map_cons, List.map_cons, hrows,
    Layout.nameLine_eq, Layout.unitLine_eq, dropReturn_fieldLine, dropReturn_fieldLine]

/-- Only the rows of a volume can be at fault. -/
theorem Volume.IsSingleLine.read_eq {volume : Volume} (h : volume.IsSingleLine) :
    volume.read =
      match readRows volume.layout.readAs (volume.rows.map Row.line) 3 with
      | .error fault => .error fault
      | .ok rows =>
        .ok ⟨volume.layout.mode, volume.layout.readAs.filterMap Column.metric?,
          volume.layout.readAs.filterMap Column.information?, rows⟩ := by
  have hlines : Text.lines (String.ofList (Text.ended volume.lines)).toList = volume.lines := by
    rw [String.toList_ofList, h.lines_ended]
  have hread : volume.read = readLines volume.lines := by
    unfold Volume.read readContents
    rw [hlines]
  rw [hread, Volume.lines]
  exact readLines_header volume.layout (volume.rows.map Row.line)

/-! ## Accepted volumes -/

/-- Whether a row's line holds more than white space. -/
def Row.IsVisible (row : Row) : Prop :=
  1 < row.shape.width ∨ Text.isAllBlank row.label.toList = false

theorem Row.IsVisible.isAllBlank_line {row : Row} (h : row.IsVisible) :
    Text.isAllBlank row.line = false := RowShape.isAllBlank_line h row.report

/-- The induction is on the rows; the first one of another width is at fault. -/
theorem readRows_line (columns : List Column) {rows : List Row}
    (hvisible : ∀ row ∈ rows, row.IsVisible) (number : Nat) :
    (∃ reports, readRows columns (rows.map Row.line) number = .ok reports) ↔
      ∀ row ∈ rows, row.shape.width = columns.length + 1 := by
  induction rows generalizing number with
  | nil => simp [readRows]
  | cons row rows ih =>
    have hrow := (hvisible row List.mem_cons_self).isAllBlank_line
    have hrows := ih (fun x hx ↦ hvisible x (List.mem_cons_of_mem row hx)) (number + 1)
    have hread : readRow columns row.line number = _ := readRow_line columns _ _ _ number
    rw [List.map_cons, List.forall_mem_cons, ← hrows]
    simp only [readRows, hrow, hread, Bool.false_eq_true, if_false]
    by_cases hwidth : row.shape.width = columns.length + 1
    · simp only [hwidth, true_and]
      cases readRows columns (rows.map Row.line) (number + 1) <;> simp
    · simp [hwidth]

/-- A volume of visible rows is accepted exactly if each row is as wide as the header. -/
theorem Volume.IsSingleLine.read_isOk_iff {volume : Volume} (h : volume.IsSingleLine)
    (hvisible : ∀ row ∈ volume.rows, row.IsVisible) :
    (∃ contents, volume.read = .ok contents) ↔
      ∀ row ∈ volume.rows, row.shape.width = volume.layout.width := by
  have hrows := readRows_line volume.layout.readAs hvisible 3
  rw [Layout.length_readAs] at hrows
  unfold Layout.width
  rw [← hrows, h.read_eq]
  cases readRows volume.layout.readAs (volume.rows.map Row.line) 3 <;> simp

/-! ## Volumes of one layout -/

/-- Whether a row was written for a layout, with metrics that can be told apart. -/
structure Row.Fits (layout : Layout) (row : Row) : Prop where
  shape : row.shape = layout.rowShape
  distinct : row.report.IsDistinct

/-- The induction is on the rows, each of which is read on its own. -/
theorem Layout.Legible.readRows_line {layout : Layout} (h : layout.Legible) {rows : List Row}
    (hvisible : ∀ row ∈ rows, row.IsVisible) (hfits : ∀ row ∈ rows, row.Fits layout)
    (number : Nat) :
    readRows layout.readAs (rows.map Row.line) number =
      .ok (rows.map fun row ↦ (row.label, layout.readBack row.report)) := by
  induction rows generalizing number with
  | nil => rfl
  | cons row rows ih =>
    have hrow := (hvisible row List.mem_cons_self).isAllBlank_line
    have hfit := hfits row List.mem_cons_self
    have hrows := ih (fun x hx ↦ hvisible x (List.mem_cons_of_mem row hx))
      (fun x hx ↦ hfits x (List.mem_cons_of_mem row hx)) (number + 1)
    have hread : readRow layout.readAs row.line number =
        .ok (row.label, layout.readBack row.report) := by
      rw [Row.line, hfit.shape]
      exact h.readRow_line hfit.distinct row.label number
    simp only [List.map_cons, readRows, hrow, hread, hrows, Bool.false_eq_true, if_false]

/-- A volume of one legible layout says what it was written for. -/
theorem Volume.IsSingleLine.read_of_fits {volume : Volume} (h : volume.IsSingleLine)
    (hlegible : volume.layout.Legible) (hvisible : ∀ row ∈ volume.rows, row.IsVisible)
    (hfits : ∀ row ∈ volume.rows, row.Fits volume.layout) :
    volume.read = .ok ⟨volume.layout.mode, volume.layout.metrics, volume.layout.shownInformation,
      volume.rows.map fun row ↦ (row.label, volume.layout.readBack row.report)⟩ := by
  obtain ⟨hmetrics, hinformation⟩ := hlegible.filterMap_readAs
  rw [h.read_eq, hlegible.readRows_line hvisible hfits, hmetrics, hinformation]

/-! ## Files -/

open Storage

/-- What the file of a path holds is read from its bytes alone. -/
theorem read_of_bytes {path : Path} {disk : Disk} {volume : Volume}
    (h : disk.read path = .ok volume.bytes) :
    read path disk =
      match volume.read with
      | .error fault => .error (.malformed path fault)
      | .ok contents => .ok contents := by
  have htext : disk.readText path = .ok (String.ofList (Text.ended volume.lines)) := by
    have hbytes : String.fromUTF8? volume.bytes = _ := fromUTF8?_lineBytes volume.lines
    simp only [Disk.readText, h, hbytes]
  cases hcontents : readContents (String.ofList (Text.ended volume.lines)) with
  | error fault => simp only [read, htext, ofFile, Volume.read, hcontents]
  | ok contents => simp only [read, htext, ofFile, Volume.read, hcontents]

end GpuCounters.Dump
