import GpuCounters.Proofs.Dump.RoundTrip

/-!
# Labels read back

A reader cuts a dump into lines before it looks at quotes, and passes over blank lines. So a row is
read back under its label exactly if the label has no line feed and the row's line is not blank;
nothing else about labels matters. A unit with a line feed spoils the dump just as well.
-/

namespace GpuCounters.Dump

open Storage

/-! ## Rows of any lines -/

/-- The label that a line is read under. -/
def labelOf (line : List Char) : String := String.ofList ((splitFields line).headD [])

theorem lineFeed_not_mem_labelOf {line : List Char} (h : '\n' ∉ line) :
    '\n' ∉ (labelOf line).toList := by
  have hsublist : (splitFields line).flatten.Sublist line := flatten_splitFrom_sublist false line
  rw [labelOf, String.toList_ofList]
  intro hmem
  cases hfields : splitFields line with
  | nil =>
    rw [hfields] at hmem
    cases hmem
  | cons first fields =>
    rw [hfields] at hmem hsublist
    exact h (hsublist.subset (List.mem_append_left _ hmem))

/-- Every line that is not blank is read under its label. -/
theorem labels_of_readRows {columns : List Column} {lines : List (List Char)} {number : Nat}
    {rows : List (String × Report)} (h : readRows columns lines number = .ok rows) :
    rows.map Prod.fst = (lines.filter fun line ↦ !Text.isAllBlank line).map labelOf := by
  induction lines generalizing number rows with
  | nil =>
    obtain rfl := Except.ok.inj h
    rfl
  | cons line lines ih =>
    rw [readRows] at h
    split at h
    · rename_i hblank
      rw [List.filter_cons_of_neg (by simp [hblank])]
      exact ih h
    · rename_i hvisible
      rw [List.filter_cons_of_pos (by simpa using hvisible)]
      cases hrow : readRow columns line number with
      | error fault => simp [hrow] at h
      | ok row =>
        cases hrest : readRows columns lines (number + 1) with
        | error fault => simp [hrow, hrest] at h
        | ok rest =>
          simp only [hrow, hrest] at h
          obtain rfl := Except.ok.inj h
          have hlabel : row.1 = labelOf line := by
            unfold readRow at hrow
            dsimp only at hrow
            split at hrow
            · rw [← Except.ok.inj hrow]
              rfl
            · cases hrow
          rw [List.map_cons, List.map_cons, ih hrest, hlabel]

/-- Lines are accepted if each that is not blank has a field for each column. -/
theorem readRows_isOk {columns : List Column} {lines : List (List Char)}
    (h : ∀ line ∈ lines, Text.isAllBlank line = false →
      (splitFields line).length = columns.length + 1) (number : Nat) :
    ∃ rows, readRows columns lines number = .ok rows := by
  induction lines generalizing number with
  | nil => exact ⟨[], rfl⟩
  | cons line lines ih =>
    obtain ⟨rest, hrest⟩ := ih (fun x hx ↦ h x (List.mem_cons_of_mem line hx)) (number + 1)
    rw [readRows]
    cases hblank : Text.isAllBlank line with
    | true => exact ⟨rest, hrest⟩
    | false =>
      have hwidth := h line List.mem_cons_self hblank
      simp [readRow, hwidth, hrest]

theorem exists_readRows_of_readLines {nameLine unitLine : List Char} {rest : List (List Char)}
    {contents : Contents} (h : readLines (nameLine :: unitLine :: rest) = .ok contents) :
    ∃ columns, readRows columns rest 3 = .ok contents.rows := by
  unfold readLines at h
  dsimp only at h
  split at h
  · cases h
  · split at h
    · cases h
    · split at h
      · cases h
      · rename_i rows hrows
        obtain rfl := Except.ok.inj h
        exact ⟨_, hrows⟩

/-! ## Volumes -/

theorem labelOf_line (row : Row) : labelOf row.line = row.label := by
  rw [labelOf, Row.line, RowShape.splitFields_line]
  exact String.ofList_toList

theorem length_splitFields_line (row : Row) : (splitFields row.line).length = row.shape.width := by
  rw [Row.line, RowShape.splitFields_line, RowShape.length_fields]

namespace Volume

variable {volume : Volume}

/-- Whatever a volume holds, a reader cuts its lines at every line feed. -/
theorem read_eq_readLines (volume : Volume) :
    volume.read = readLines ((volume.lines.flatMap Text.segments).map Text.dropReturn) := by
  rw [read, readContents, String.toList_ofList, Text.lines_ended_eq_flatMap]

theorem map_dropReturn_rows (rows : List Row) :
    (rows.map Row.line).map Text.dropReturn = rows.map Row.line := by
  rw [List.map_map]
  exact List.map_congr_left fun row _ ↦ row.dropReturn_line

/-- The pieces of a volume whose names are on a single line. -/
theorem flatMap_lines (hnames : '\n' ∉ volume.layout.nameLine) :
    (volume.lines.flatMap Text.segments).map Text.dropReturn =
      volume.layout.nameLine :: ((Text.segments volume.layout.unitLine).map Text.dropReturn ++
        ((volume.rows.map Row.line).flatMap Text.segments).map Text.dropReturn) := by
  have hname : Text.dropReturn volume.layout.nameLine = volume.layout.nameLine := by
    rw [Layout.nameLine_eq, dropReturn_fieldLine]
  rw [lines, List.flatMap_cons, List.flatMap_cons, Text.segments_eq_singleton hnames,
    List.map_append, List.map_append, List.map_singleton, hname, List.singleton_append]

theorem labels_read (hnames : '\n' ∉ volume.layout.nameLine)
    (hunits : '\n' ∉ volume.layout.unitLine)
    (hwidth : ∀ row ∈ volume.rows, row.shape.width = volume.layout.width)
    (hrows : ∀ row ∈ volume.rows, '\n' ∉ row.line ∧ Text.isAllBlank row.line = false) :
    ∃ contents, volume.read = .ok contents ∧
      contents.rows.map Prod.fst = volume.rows.map (·.label) := by
  have hlines : ∀ line ∈ volume.rows.map Row.line,
      '\n' ∉ line ∧ Text.isAllBlank line = false :=
    List.forall_mem_map.2 hrows
  have hunit : Text.dropReturn volume.layout.unitLine = volume.layout.unitLine := by
    rw [Layout.unitLine_eq, dropReturn_fieldLine]
  have hread : volume.read = readLines (volume.layout.nameLine :: volume.layout.unitLine ::
      volume.rows.map Row.line) := by
    rw [read_eq_readLines, flatMap_lines hnames, Text.segments_eq_singleton hunits,
      Text.flatMap_segments fun line hline ↦ (hlines line hline).1, map_dropReturn_rows,
      List.map_singleton, hunit, List.singleton_append]
  have hfields : ∀ line ∈ volume.rows.map Row.line, Text.isAllBlank line = false →
      (splitFields line).length = volume.layout.readAs.length + 1 := by
    refine List.forall_mem_map.2 fun row hrow _ ↦ ?_
    rw [length_splitFields_line, hwidth row hrow, Layout.length_readAs, Layout.width]
  obtain ⟨rows, haccepted⟩ := readRows_isOk hfields 3
  have hvisible : (volume.rows.map Row.line).filter (fun line ↦ !Text.isAllBlank line) =
      volume.rows.map Row.line := by
    rw [List.filter_eq_self]
    intro line hline
    simp [(hlines line hline).2]
  rw [hread, readLines_header, haccepted]
  refine ⟨_, rfl, ?_⟩
  dsimp only
  rw [labels_of_readRows haccepted, hvisible, List.map_map]
  exact List.map_congr_left fun row _ ↦ labelOf_line row

/-- What is left of the line of units behind its first line feed would be one row too many. -/
theorem labels_read_only_if (hnames : '\n' ∉ volume.layout.nameLine)
    (hwidth : ∀ row ∈ volume.rows, row.shape.width = volume.layout.width)
    (hreports : ∀ row ∈ volume.rows, row.shape.IsSingleLine row.report) {contents : Contents}
    (hread : volume.read = .ok contents)
    (hlabels : contents.rows.map Prod.fst = volume.rows.map (·.label)) :
    '\n' ∉ volume.layout.unitLine ∧
      ∀ row ∈ volume.rows, '\n' ∉ row.label.toList ∧ Text.isAllBlank row.line = false := by
  obtain ⟨first, more, hpieces⟩ : ∃ first more,
      Text.segments volume.layout.unitLine = first :: more :=
    List.exists_cons_of_ne_nil (Text.split_ne_nil _)
  have hlines := flatMap_lines hnames
  rw [hpieces, List.map_cons, List.cons_append] at hlines
  have hclean := Text.lineFeed_not_mem_pieces volume.lines
  rw [read_eq_readLines, hlines] at hread
  rw [hlines] at hclean
  obtain ⟨columns, haccepted⟩ := exists_readRows_of_readLines hread
  have hkept := labels_of_readRows haccepted
  rw [hlabels] at hkept
  -- Labels that are read have no line feed, since no line has one.
  have hlabel : ∀ row ∈ volume.rows, '\n' ∉ row.label.toList := by
    intro row hrow
    have hmem : row.label ∈ volume.rows.map (·.label) := List.mem_map_of_mem hrow
    rw [hkept] at hmem
    obtain ⟨line, hline, hread⟩ := List.mem_map.1 hmem
    rw [← hread]
    apply lineFeed_not_mem_labelOf
    exact hclean line (List.mem_cons_of_mem _ (List.mem_cons_of_mem _ (List.mem_filter.1 hline).1))
  have hrows : ∀ line ∈ volume.rows.map Row.line, '\n' ∉ line :=
    List.forall_mem_map.2 fun row hrow ↦
      RowShape.lineFeed_not_mem_line (hlabel row hrow) (hreports row hrow)
  have hcount := congrArg List.length hkept
  rw [Text.flatMap_segments hrows, map_dropReturn_rows, List.filter_append, List.length_map,
    List.length_map, List.length_append] at hcount
  have hunits : '\n' ∉ volume.layout.unitLine := by
    intro hmem
    rw [Layout.unitLine_eq] at hmem hpieces
    obtain ⟨piece, hpiece, hvisible⟩ := exists_visible_piece hmem hpieces
    have hextra : Text.dropReturn piece ∈
        (more.map Text.dropReturn).filter fun line ↦ !Text.isAllBlank line :=
      List.mem_filter.2 ⟨List.mem_map_of_mem hpiece, by simp [hvisible]⟩
    have hcolumns : volume.layout.columns ≠ [] := by
      intro hnone
      simp [Layout.unitFields, hnone] at hmem
    have hall : (volume.rows.map Row.line).filter (fun line ↦ !Text.isAllBlank line) =
        volume.rows.map Row.line := by
      rw [List.filter_eq_self]
      refine List.forall_mem_map.2 fun row hrow ↦ ?_
      have hpos := List.length_pos_of_ne_nil hcolumns
      have hwide : 1 < row.shape.width := by
        rw [hwidth row hrow, Layout.width]
        omega
      have hline : Text.isAllBlank row.line = false :=
        RowShape.isAllBlank_line (.inl hwide) row.report
      simp [hline]
    have hpos := List.length_pos_of_mem hextra
    rw [hall, List.length_map] at hcount
    omega
  refine ⟨hunits, fun row hrow ↦ ⟨hlabel row hrow, ?_⟩⟩
  have hmore : more = [] := by
    rw [Text.segments_eq_singleton hunits] at hpieces
    exact (List.cons.inj hpieces).2.symm
  rw [hmore, List.map_nil, List.filter_nil, List.length_nil, Nat.zero_add,
    ← List.length_map (f := Row.line)] at hcount
  have hvisible := List.length_filter_eq_length_iff.1 hcount.symm row.line
    (List.mem_map_of_mem hrow)
  simpa using hvisible

end Volume

/-! ## Labels -/

variable {layout : Layout} {disk : Disk}

/-- A line is blank only if there are no columns and nothing of the label is seen, not even the
quotes around it. -/
theorem isAllBlank_line_iff {label : String} (h : '\n' ∉ label.toList) (report : Report) :
    Text.isAllBlank (layout.rowShape.line label report) = false ↔
      layout.columns ≠ [] ∨ Text.isAllBlank label.toList = false ∨ '\r' ∈ label.toList := by
  have hwidth : layout.rowShape.width = layout.columns.length + 1 := layout.width_rowShape
  by_cases hcolumns : layout.columns = []
  · have hone : layout.rowShape.line label report = escapeField label.toList := by
      have hlength := layout.rowShape.length_fields label report
      rw [hwidth, hcolumns, RowShape.fields, List.length_cons, List.length_nil,
        Nat.add_right_cancel_iff, List.length_eq_zero_iff] at hlength
      rw [RowShape.line_eq, RowShape.fields, hlength, fieldLine_singleton]
    rw [hone, isAllBlank_escapeField_iff h]
    simp [hcolumns]
  · have hpos := List.length_pos_of_ne_nil hcolumns
    have hline : Text.isAllBlank (layout.rowShape.line label report) = false :=
      RowShape.isAllBlank_line (.inl (by omega)) report
    exact iff_of_true hline (.inl hcolumns)

theorem lineFeed_not_mem_nameLine (h : ∀ column ∈ layout.columns, '\n' ∉ column.name.toList) :
    '\n' ∉ layout.nameLine := by
  rw [Layout.nameLine_eq]
  apply lineFeed_not_mem_fieldLine
  refine List.forall_mem_cons.2 ⟨?_, List.forall_mem_map.2 h⟩
  cases layout.mode <;> decide

theorem lineFeed_not_mem_unitLine_iff :
    '\n' ∉ layout.unitLine ↔ ∀ column ∈ layout.columns, '\n' ∉ column.unit.toList := by
  rw [Layout.unitLine_eq]
  constructor
  · intro h column hcolumn hmem
    have hfield : column.unit.toList ∈ layout.unitFields :=
      List.mem_cons_of_mem [] (List.mem_map_of_mem hcolumn)
    exact h (mem_fieldLine hfield hmem)
  · intro h
    apply lineFeed_not_mem_fieldLine
    exact List.forall_mem_cons.2 ⟨List.not_mem_nil, List.forall_mem_map.2 h⟩

/-- Each report that is dumped is read back as one row, in order and under its label, exactly if no
unit and no label has a line feed and, without a column for a metric, every label can be seen.
Whatever else labels hold does not matter. -/
theorem labels_read_writeDump (hsound : disk.Sound) (path : Path)
    (hnames : ∀ column ∈ layout.columns, '\n' ∉ column.name.toList)
    {reports : List (String × Report)}
    (hreports : ∀ row ∈ reports, layout.rowShape.IsSingleLine row.2) :
    (Accepts disk path → ∃ later, writeDump path layout reports disk = (.ok (), later)) ∧
      ∀ later, writeDump path layout reports disk = (.ok (), later) →
        ((∃ contents, read path later = .ok contents ∧
            contents.rows.map Prod.fst = reports.map Prod.fst) ↔
          (∀ column ∈ layout.columns, '\n' ∉ column.unit.toList) ∧
            ∀ row ∈ reports, '\n' ∉ row.1.toList ∧
              (layout.columns ≠ [] ∨ Text.isAllBlank row.1.toList = false ∨
                '\r' ∈ row.1.toList)) := by
  have hnameLine : '\n' ∉ (volumeOf layout reports).layout.nameLine :=
    lineFeed_not_mem_nameLine hnames
  have hwidth : ∀ row ∈ (volumeOf layout reports).rows, row.shape.width = layout.width :=
    List.forall_mem_map.2 fun _ _ ↦ layout.width_rowShape
  have hsingle : ∀ row ∈ (volumeOf layout reports).rows, row.shape.IsSingleLine row.report :=
    List.forall_mem_map.2 hreports
  have hlabels : (volumeOf layout reports).rows.map (·.label) = reports.map Prod.fst := by
    rw [volumeOf, List.map_map]
    rfl
  constructor
  · intro haccepts
    exact ⟨_, Prod.ext (writeDump_of_accepts hsound haccepts layout reports) rfl⟩
  · intro later hwritten
    rw [read_of_bytes (read_bytes_of_writeDump hsound hwritten),
      ← lineFeed_not_mem_unitLine_iff, ← hlabels]
    constructor
    · rintro ⟨contents, hcontents, hsame⟩
      have hread : (volumeOf layout reports).read = .ok contents := by
        cases hvolume : (volumeOf layout reports).read with
        | error fault => simp [hvolume] at hcontents
        | ok found => simpa [hvolume] using hcontents
      obtain ⟨hunits, hrows⟩ :=
        Volume.labels_read_only_if hnameLine hwidth hsingle hread hsame
      refine ⟨hunits, fun row hrow ↦ ?_⟩
      obtain ⟨hlabel, hvisible⟩ := hrows _ (List.mem_map_of_mem hrow)
      exact ⟨hlabel, (isAllBlank_line_iff hlabel row.2).1 hvisible⟩
    · rintro ⟨hunits, hrows⟩
      have hlines : ∀ row ∈ (volumeOf layout reports).rows,
          '\n' ∉ row.line ∧ Text.isAllBlank row.line = false := by
        refine List.forall_mem_map.2 fun row hrow ↦ ?_
        obtain ⟨hlabel, hvisible⟩ := hrows row hrow
        exact ⟨RowShape.lineFeed_not_mem_line hlabel (hreports row hrow),
          (isAllBlank_line_iff hlabel row.2).2 hvisible⟩
      obtain ⟨contents, hread, hsame⟩ := Volume.labels_read hnameLine hunits hwidth hlines
      exact ⟨contents, by rw [hread], hsame⟩

def timeLayout : Layout := ⟨.event, [⟨"Time", "ns"⟩], [], false⟩

/-- Labels with all that needs care but line feeds. -/
def labelReports : List (String × Report) :=
  [("a, \"b\"", ⟨[⟨"Time", .u32 1, none⟩], []⟩), ("", ⟨[⟨"Time", .u32 2, none⟩], []⟩),
    ("\r", ⟨[], []⟩), (" ", ⟨[⟨"Time", .u32 3, none⟩], []⟩)]

/-- Blank labels are read back if there is a column, and so are quotes and carriage returns. -/
theorem labels_read_writeDump_labelReports :
    Disk.empty.Sound ∧ Accepts .empty ⟨"/tmp/labels.csv"⟩ ∧
      (∀ column ∈ timeLayout.columns, '\n' ∉ column.name.toList) ∧
      (∀ row ∈ labelReports, timeLayout.rowShape.IsSingleLine row.2) ∧
      ∃ later contents,
        writeDump ⟨"/tmp/labels.csv"⟩ timeLayout labelReports .empty = (.ok (), later) ∧
          read ⟨"/tmp/labels.csv"⟩ later = .ok contents ∧
          contents.rows.map Prod.fst = ["a, \"b\"", "", "\r", " "] := by
  have haccepts : Accepts .empty ⟨"/tmp/labels.csv"⟩ :=
    ⟨⟨_, _, _, _, rfl, rfl, rfl⟩, by decide⟩
  have hnames : ∀ column ∈ timeLayout.columns, '\n' ∉ column.name.toList := by decide
  have hreports : ∀ row ∈ labelReports, timeLayout.rowShape.IsSingleLine row.2 := by decide
  obtain ⟨hwrites, hreads⟩ :=
    labels_read_writeDump Disk.sound_empty ⟨"/tmp/labels.csv"⟩ hnames hreports
  obtain ⟨later, hlater⟩ := hwrites haccepts
  obtain ⟨contents, hread, hlabels⟩ := (hreads later hlater).2 ⟨by decide, by decide⟩
  exact ⟨Disk.sound_empty, haccepts, hnames, hreports, later, contents, hlater, hread, hlabels⟩

/-- A label of two lines makes a dump that no reader accepts, and a label that is not seen is lost
if there is no column. -/
theorem labels_not_read_back :
    (∃ later, writeDump ⟨"/tmp/labels.csv"⟩ timeLayout
        [("x\ny", ⟨[⟨"Time", .u32 1, none⟩], []⟩)] .empty = (.ok (), later) ∧
      read ⟨"/tmp/labels.csv"⟩ later =
        .error (.malformed ⟨"/tmp/labels.csv"⟩ (.fieldCount 3 1 2))) ∧
      ∃ later, writeDump ⟨"/tmp/labels.csv"⟩ ⟨.event, [], [], false⟩ [("", {})] .empty =
          (.ok (), later) ∧
        read ⟨"/tmp/labels.csv"⟩ later = .ok ⟨.event, [], [], []⟩ := by
  refine ⟨⟨_, Prod.ext ?_ rfl, ?_⟩, ⟨_, Prod.ext ?_ rfl, ?_⟩⟩
  · decide +kernel
  · decide +kernel
  · decide +kernel
  · decide +kernel

end GpuCounters.Dump
