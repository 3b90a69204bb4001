import GpuCounters.Proofs.Dump.Writing

/-!
# Written dumps read back

A dump that is made of labelled reports and written out reads as these reports, in order and under
their labels, exactly if its layout is legible. On a disk that refuses nothing it is always written
out.
-/

namespace GpuCounters.Dump

open Storage Disk

/-! ## Writing whole dumps -/

/-- Write labelled reports as rows, up to the first one that is refused. -/
def Writer.writeRows (writer : Writer) :
    List (String × Report) → Disk → Except Error Unit × Writer × Disk
  | [], disk => (.ok (), writer, disk)
  | (label, report) :: rest, disk =>
    match writer.writeRow label report disk with
    | (.error cause, writer, disk) => (.error cause, writer, disk)
    | (.ok (), writer, disk) => writer.writeRows rest disk

/-- Make a dump of labelled reports and write it out. -/
def writeDump (path : Path) (layout : Layout) (reports : List (String × Report)) (disk : Disk) :
    Except Error Unit × Disk :=
  match Writer.start path layout .overwrite disk with
  | (.error cause, disk) => (.error cause, disk)
  | (.ok writer, disk) =>
    match writer.writeRows reports disk with
    | (.error cause, _, disk) => (.error cause, disk)
    | (.ok (), writer, disk) =>
      match writer.flush disk with
      | (result, _, disk) => (result, disk)

def volumeOf (layout : Layout) (reports : List (String × Report)) : Volume :=
  ⟨layout, reports.map fun (label, report) ↦ ⟨layout.rowShape, label, report⟩⟩

variable {path : Path} {layout : Layout} {disk later : Disk} {writer after : Writer}

/-- The induction is on the reports; each is a line behind the bytes. -/
theorem Writer.Holds.writeRows {bytes : ByteArray} {reports : List (String × Report)}
    (h : writer.Holds bytes disk)
    (hwrite : writer.writeRows reports disk = (.ok (), after, later)) :
    after.Holds (bytes ++ lineBytes (reports.map fun (label, report) ↦
        writer.shape.line label report)) later ∧
      after.path = writer.path := by
  induction reports generalizing writer bytes disk with
  | nil =>
    simp only [Writer.writeRows, Prod.mk.injEq, true_and] at hwrite
    obtain ⟨rfl, rfl⟩ := hwrite
    rw [List.map_nil, lineBytes_nil, ByteArray.append_empty]
    exact ⟨h, rfl⟩
  | cons row reports ih =>
    obtain ⟨label, report⟩ := row
    rw [Writer.writeRows] at hwrite
    split at hwrite
    · simp at hwrite
    · rename_i next disk' hrow
      obtain ⟨hholds, hpath, hshape, -⟩ := h.writeRow hrow
      obtain ⟨hrest, hafter⟩ := ih hholds hwrite
      rw [hshape, ByteArray.append_assoc] at hrest
      refine ⟨?_, hafter.trans hpath⟩
      rwa [List.map_cons, ← List.singleton_append, lineBytes_append]

/-- The volume grows by a row for each report. -/
theorem Writer.Carries.writeRows {volume : Volume} {reports : List (String × Report)}
    (h : writer.Carries volume disk)
    (hwrite : writer.writeRows reports disk = (.ok (), after, later)) :
    after.Carries ⟨volume.layout, volume.rows ++ reports.map fun (label, report) ↦
        ⟨writer.shape, label, report⟩⟩ later ∧
      after.path = writer.path := by
  rw [Writer.carries_iff_holds, Volume.bytes_append, List.map_map]
  exact (Writer.carries_iff_holds.1 h).writeRows hwrite

/-- A dump that was written out is the volume of its reports. -/
theorem read_bytes_of_writeDump (hsound : disk.Sound) {reports : List (String × Report)}
    (h : writeDump path layout reports disk = (.ok (), later)) :
    later.read path = .ok (volumeOf layout reports).bytes := by
  unfold writeDump at h
  split at h
  · simp at h
  · rename_i writer started hstart
    have hstarted := Writer.started_of_start hsound hstart
    have hcarries : writer.Carries layout.volume started := hstarted.carries _ rfl
    split at h
    · simp at h
    · rename_i filled written hrows
      obtain ⟨hfilled, hpath⟩ := hcarries.writeRows hrows
      split at h
      rename_i result last flushed hflush
      simp only [Prod.mk.injEq] at h
      obtain ⟨rfl, rfl⟩ := h
      obtain ⟨hlast, hlastPath, -, hpending, -⟩ := hfilled.flush hflush
      have hread := hlast.read_of_pending hpending
      rw [hlastPath, hpath, hstarted.named, hstarted.shape] at hread
      exact hread

/-! ## Disks that take a dump -/

/-- Whether a disk lets a regular file be made anew at a path, and refuses no write. -/
structure Accepts (disk : Disk) (path : Path) : Prop where
  opens : ∃ made handle opened number, disk.makeParents path = (made, .ok ()) ∧
    made.openForWriting path .overwrite = .ok (handle, opened) ∧ handle.target = .file number
  willing : disk.IsWilling

theorem Accepts.start (hsound : disk.Sound) (h : Accepts disk path) (layout : Layout) :
    ∃ writer later, Writer.start path layout .overwrite disk = (.ok writer, later) ∧
      writer.output.IsFree later := by
  obtain ⟨⟨made, handle, opened, number, hmade, hopen, htarget⟩, hwilling⟩ := h
  have hfurnished := furnished_makeParents disk path
  rw [hmade] at hfurnished
  have hopened := opened_of_openForWriting (hfurnished.sound hsound) hopen
  have hopenedWilling : opened.IsWilling := by
    unfold IsWilling
    rw [hopened.refusals, hfurnished.refusals]
    exact hwilling
  have hfree : (Output.ofHandle handle).IsFree opened := ⟨⟨number, htarget⟩, hopenedWilling⟩
  obtain ⟨named, disk', hnames, hnamed⟩ := hfree.writeLine layout.nameLine
  obtain ⟨output, later, hunits, houtput⟩ := hnamed.writeLine layout.unitLine
  refine ⟨⟨path, output, layout.rowShape, 0⟩, later, ?_, houtput⟩
  simp [Writer.start, hmade, hopen, Writer.writeHeader, hnames, hunits]

theorem writeRows_of_isFree (h : writer.output.IsFree disk) (reports : List (String × Report)) :
    ∃ after later, writer.writeRows reports disk = (.ok (), after, later) ∧
      after.output.IsFree later := by
  induction reports generalizing writer disk with
  | nil => exact ⟨writer, disk, rfl, h⟩
  | cons row reports ih =>
    obtain ⟨label, report⟩ := row
    obtain ⟨output, written, hrow, hfree⟩ := Writer.writeRow_of_isFree h label report
    let next : Writer := { writer with output, rows := writer.rows + 1 }
    have hnext : next.output.IsFree written := hfree
    obtain ⟨after, later, hrest, hafter⟩ := ih hnext
    refine ⟨after, later, ?_, hafter⟩
    rw [Writer.writeRows, hrow]
    exact hrest

/-- A disk that takes the file of a dump takes all of its rows. -/
theorem writeDump_of_accepts (hsound : disk.Sound) (h : Accepts disk path) (layout : Layout)
    (reports : List (String × Report)) : (writeDump path layout reports disk).1 = .ok () := by
  obtain ⟨writer, started, hstart, hfree⟩ := h.start hsound layout
  obtain ⟨filled, written, hrows, hfilled⟩ := writeRows_of_isFree hfree reports
  obtain ⟨output, later, hflush, -⟩ := hfilled.flush
  simp only [writeDump, hstart, hrows, Writer.flush, hflush]

/-! ## The round trip -/

/-- A report under its label that can be told from other ones in a dump of the layout. -/
@[mk_iff]
structure IsReadable (layout : Layout) (label : String) (report : Report) : Prop where
  distinct : report.IsDistinct
  /-- Blank lines do not count -/
  visible : layout.columns ≠ [] ∨ Text.isAllBlank label.toList = false
  label : '\n' ∉ label.toList
  report : report.IsSingleLine

instance (layout : Layout) (label : String) (report : Report) :
    Decidable (IsReadable layout label report) :=
  decidable_of_iff' _ (isReadable_iff layout label report)

theorem isSingleLine_volumeOf (hlayout : layout.IsSingleLine) {reports : List (String × Report)}
    (hreports : ∀ row ∈ reports, IsReadable layout row.1 row.2) :
    (volumeOf layout reports).IsSingleLine := by
  refine ⟨hlayout, ?_⟩
  intro row hrow
  obtain ⟨pair, hpair, rfl⟩ := List.mem_map.1 hrow
  exact ⟨(hreports pair hpair).label,
    layout.rowShape.isSingleLine_of_report (hreports pair hpair).report⟩

theorem isVisible_volumeOf {reports : List (String × Report)}
    (hreports : ∀ row ∈ reports, IsReadable layout row.1 row.2) :
    ∀ row ∈ (volumeOf layout reports).rows, row.IsVisible := by
  intro row hrow
  obtain ⟨pair, hpair, rfl⟩ := List.mem_map.1 hrow
  obtain hcolumns | hlabel := (hreports pair hpair).visible
  · refine .inl ?_
    show 1 < layout.rowShape.width
    rw [Layout.width_rowShape, Layout.width]
    have hpos := List.length_pos_of_ne_nil hcolumns
    omega
  · exact .inr hlabel

theorem fits_volumeOf {reports : List (String × Report)}
    (hreports : ∀ row ∈ reports, IsReadable layout row.1 row.2) :
    ∀ row ∈ (volumeOf layout reports).rows, row.Fits layout := by
  intro row hrow
  obtain ⟨pair, hpair, rfl⟩ := List.mem_map.1 hrow
  exact ⟨rfl, (hreports pair hpair).distinct⟩

/-- What a dump of labelled reports is to read as. -/
def contentsOf (layout : Layout) (reports : List (String × Report)) : Contents :=
  ⟨layout.mode, layout.metrics, layout.shownInformation,
    reports.map fun (label, report) ↦ (label, layout.readBack report)⟩

theorem read_volumeOf (hlayout : layout.IsSingleLine) {reports : List (String × Report)}
    (hreports : ∀ row ∈ reports, IsReadable layout row.1 row.2) :
    (volumeOf layout reports).read = .ok (contentsOf layout reports) ↔ layout.Legible := by
  have hsingle := isSingleLine_volumeOf hlayout hreports
  constructor
  · intro hread
    rw [hsingle.read_eq] at hread
    split at hread
    · simp at hread
    · obtain ⟨-, hmetrics, hinformation, -⟩ := Contents.mk.inj (Except.ok.inj hread)
      exact layout.legible_iff_filterMap_readAs.2 ⟨hmetrics, hinformation⟩
  · intro hlegible
    have hread := hsingle.read_of_fits hlegible (isVisible_volumeOf hreports)
      (fits_volumeOf hreports)
    rw [hread]
    simp [contentsOf, volumeOf]

/-- Labelled reports that are dumped are read back as their texts read, under a header that says
what it was written for, exactly if the layout is legible. -/
theorem read_writeDump (hsound : disk.Sound) (path : Path) (hlayout : layout.IsSingleLine)
    {reports : List (String × Report)}
    (hreports : ∀ row ∈ reports, IsReadable layout row.1 row.2) :
    (Accepts disk path → ∃ later, writeDump path layout reports disk = (.ok (), later)) ∧
      ∀ later, writeDump path layout reports disk = (.ok (), later) →
        (read path later = .ok (contentsOf layout reports) ↔ layout.Legible) := by
  constructor
  · intro haccepts
    exact ⟨_, Prod.ext (writeDump_of_accepts hsound haccepts layout reports) rfl⟩
  · intro later hwritten
    rw [← read_volumeOf hlayout hreports, read_of_bytes (read_bytes_of_writeDump hsound hwritten)]
    cases (volumeOf layout reports).read with
    | error fault => simp
    | ok contents => simp

/-- Two metrics and two clocks, with all the characters in names that need care. -/
def clockLayout : Layout where
  mode := .time
  metrics := [⟨"Time", "ns"⟩, ⟨"Rate, \"peak\"", "%"⟩]
  information := [⟨"Lost", ""⟩, ⟨"Clock", "Hz"⟩]
  includeMax := true

/-- A report out of order, of which one value has no text, and a report without a value. -/
def clockReports : List (String × Report) :=
  [("TBS", ⟨[⟨"Rate, \"peak\"", .u64 7, some (.u32 100)⟩, ⟨"Time", .text "", some (.u32 5)⟩],
      [.bool true]⟩),
    ("", ⟨[], []⟩)]

/-- Nothing takes the place of the value without a text, not even its greatest value. -/
theorem read_writeDump_clockReports :
    Disk.empty.Sound ∧ Accepts .empty ⟨"/tmp/clock.csv"⟩ ∧ clockLayout.IsSingleLine ∧
      clockLayout.Legible ∧ (∀ row ∈ clockReports, IsReadable clockLayout row.1 row.2) ∧
      ∃ later, writeDump ⟨"/tmp/clock.csv"⟩ clockLayout clockReports .empty = (.ok (), later) ∧
        read ⟨"/tmp/clock.csv"⟩ later = .ok ⟨.time, clockLayout.metrics, clockLayout.information,
          [("TBS", ⟨[⟨"Rate, \"peak\"", .u32 7, some (.u32 100)⟩], [.bool true, .text ""]⟩),
            ("", ⟨[], [.text "", .text ""]⟩)]⟩ := by
  have haccepts : Accepts .empty ⟨"/tmp/clock.csv"⟩ :=
    ⟨⟨_, _, _, _, rfl, rfl, rfl⟩, by decide⟩
  have hlayout : clockLayout.IsSingleLine := by decide
  have hlegible : clockLayout.Legible := by decide
  have hreports : ∀ row ∈ clockReports, IsReadable clockLayout row.1 row.2 := by decide
  obtain ⟨hwrites, hreads⟩ := read_writeDump sound_empty ⟨"/tmp/clock.csv"⟩ hlayout hreports
  obtain ⟨later, hlater⟩ := hwrites haccepts
  refine ⟨sound_empty, haccepts, hlayout, hlegible, hreports, later, hlater, ?_⟩
  rw [(hreads later hlater).2 hlegible]
  decide +kernel

end GpuCounters.Dump
