import GpuCounters.Proofs.Dump.Acceptance

/-!
# Rows behind a dump

Rows that are appended to a dump are lines behind its bytes, whatever these are. Behind a line feed
they are lines of their own, and the dump reads as it did with a row more for each of them. Where
the last line has not been ended, the first of them goes on with it, and the dump can no longer be
read as what it was.
-/

namespace GpuCounters.Dump

open Storage Disk

/-! ## Appending to files -/

def Layout.rowLines (layout : Layout) (reports : List (String × Report)) : List (List Char) :=
  reports.map fun (label, report) ↦ layout.rowShape.line label report

/-- Go on with a dump of which the file may hold something, and write it out. -/
def appendDump (path : Path) (layout : Layout) (reports : List (String × Report)) (disk : Disk) :
    Except Error Unit × Disk :=
  match Writer.start path layout .append disk with
  | (.error cause, disk) => (.error cause, disk)
  | (.ok writer, disk) =>
    match writer.writeRows reports disk with
    | (.error cause, _, disk) => (.error cause, disk)
    | (.ok (), writer, disk) =>
      match writer.flush disk with
      | (result, _, disk) => (result, disk)

variable {path : Path} {layout : Layout} {disk later : Disk} {reports : List (String × Report)}

/-- A file that holds something is gone on with as it is. -/
theorem start_append_of_isFileAt {number : Nat} (hfile : disk.IsFileAt path number)
    (hsize : (disk.content number).size ≠ 0) (layout : Layout) :
    Writer.start path layout .append disk =
      (.ok ⟨path, .ofHandle ⟨.file number, .append, 0⟩, layout.rowShape, 0⟩, disk) := by
  have hpos : 0 < disk.size ⟨.file number, .append, 0⟩ := Nat.pos_of_ne_zero hsize
  simp only [Writer.start, makeParents_of_locate hfile.located, hfile.openForWriting_append, hpos,
    and_self, if_true]

/-- A disk that refuses nothing takes all rows behind a file that holds something. -/
theorem appendDump_of_isWilling {number : Nat} (hfile : disk.IsFileAt path number)
    (hsize : (disk.content number).size ≠ 0) (hwilling : disk.IsWilling) (layout : Layout)
    (reports : List (String × Report)) : (appendDump path layout reports disk).1 = .ok () := by
  let writer : Writer := ⟨path, .ofHandle ⟨.file number, .append, 0⟩, layout.rowShape, 0⟩
  have hfree : writer.output.IsFree disk := ⟨⟨number, rfl⟩, hwilling⟩
  obtain ⟨filled, written, hrows, hfilled⟩ := writeRows_of_isFree hfree reports
  obtain ⟨output, later, hflush, -⟩ := hfilled.flush
  simp only [appendDump, start_append_of_isFileAt hfile hsize layout]
  rw [hrows]
  simp only [Writer.flush, hflush]

/-- Appended rows are lines behind what the file holds. -/
theorem read_bytes_of_appendDump (hsound : disk.Sound) {bytes : ByteArray}
    (hread : disk.read path = .ok bytes) (hsize : bytes.size ≠ 0)
    (h : appendDump path layout reports disk = (.ok (), later)) :
    later.read path = .ok (bytes ++ lineBytes (layout.rowLines reports)) := by
  obtain ⟨number, hfile, hcontent⟩ := isFileAt_of_read hread hsize
  have hkept : kept .append (disk.bytesAt? path.place) = bytes := by
    rw [hfile.bytesAt?, hcontent]
    rfl
  unfold appendDump at h
  split at h
  · simp at h
  · rename_i writer started hstart
    have hbegun := Writer.begun_of_start hsound hstart
    have hholds := hbegun.holds
    rw [Layout.opening, hkept, if_neg hsize] at hholds
    split at h
    · simp at h
    · rename_i filled written hrows
      obtain ⟨hfilled, hpath⟩ := hholds.writeRows hrows
      split at h
      rename_i result last flushed hflush
      simp only [Prod.mk.injEq] at h
      obtain ⟨rfl, rfl⟩ := h
      obtain ⟨hlast, hlastPath, -, hpending, -⟩ := hfilled.flush hflush
      have hlines := hlast.read_of_pending (hpending rfl)
      rw [hlastPath, hpath, hbegun.named, hbegun.shape] at hlines
      exact hlines

/-! ## Lines behind a dump -/

/-- The columns that the first two of some lines tell of. -/
def headerColumns : List (List Char) → List Column
  | first :: second :: _ => columnsOf first second
  | _ => []

section Lines

variable {lines more : List (List Char)} {contents : Contents}

/-- Lines that fit behind those of a dump are rows behind its own, and nothing else changes. -/
theorem readLines_append (h : readLines lines = .ok contents)
    (hmore : ∀ line ∈ more, Fits ((headerColumns lines).length + 1) line) :
    readLines (lines ++ more) = .ok { contents with
      rows := contents.rows ++
        (more.filter fun line ↦ !Text.isAllBlank line).map (rowOf (headerColumns lines)) } := by
  obtain @⟨first, second, rest, hunits, htitled, hfits⟩ := exists_readLines_iff.1 ⟨contents, h⟩
  obtain ⟨mode, hmode⟩ := (isTitled_iff first).1 htitled
  have hrest : ∀ line ∈ rest, Fits ((columnsOf first second).length + 1) line := by
    rwa [length_columnsOf hunits]
  have hall : ∀ line ∈ rest ++ more, Fits ((columnsOf first second).length + 1) line :=
    List.forall_mem_append.2 ⟨hrest, hmore⟩
  rw [readLines_of_titled hunits hmode, readRows_of_fits hrest] at h
  obtain rfl := Except.ok.inj h
  rw [List.cons_append, List.cons_append, readLines_of_titled hunits hmode, readRows_of_fits hall,
    List.filter_append, List.map_append]
  rfl

theorem labels_of_readLines {first second : List Char} {rest : List (List Char)}
    (h : readLines (first :: second :: rest) = .ok contents) :
    contents.rows.map Prod.fst = (rest.filter fun line ↦ !Text.isAllBlank line).map labelOf := by
  obtain ⟨columns, hrows⟩ := exists_readRows_of_readLines h
  exact labels_of_readRows hrows

/-- White space in front of a line is part of its label. -/
theorem toList_labelOf_append {blank : List Char} (h : Text.isAllBlank blank = true)
    (line : List Char) : (labelOf (blank ++ line)).toList = blank ++ (labelOf line).toList := by
  have hplain : ∀ c ∈ blank, c ≠ ',' ∧ c ≠ '"' := by
    intro c hc
    have hblank : Text.isBlank c = true := List.all_eq_true.1 h c hc
    constructor <;> (rintro rfl; simp [Text.isBlank] at hblank)
  obtain ⟨first, fields, hfields⟩ := List.exists_cons_of_ne_nil (splitFields_ne_nil line)
  have hsplit : splitFields (blank ++ line) = (blank ++ first) :: fields := by
    unfold splitFields at hfields ⊢
    rw [splitFrom_false_append hplain, hfields, prependAll_cons]
  rw [labelOf, labelOf, hsplit, hfields, String.toList_ofList, String.toList_ofList]
  rfl

/-- A row that goes on with the last line of a dump makes a row less than there should be, or, where
that line is blank or that of the units, one under another label or none at all. -/
theorem labels_ne_of_merged {front rows : List (List Char)} {last row : List Char}
    {contents found : Contents} (hfront : front ≠ []) (hlast : last ≠ [])
    (hvisible : ∀ line ∈ row :: rows, Text.isAllBlank line = false)
    (hread : readLines (front ++ [last]) = .ok contents)
    (hfound : readLines (front ++ (last ++ row) :: rows) = .ok found) :
    found.rows.map Prod.fst ≠ contents.rows.map Prod.fst ++ (row :: rows).map labelOf := by
  obtain ⟨hrow, hrows⟩ := List.forall_mem_cons.1 hvisible
  have hmerged : Text.isAllBlank (last ++ row) = false := by
    rw [Text.isAllBlank, List.all_append, Bool.and_eq_false_iff]
    exact .inr hrow
  have hkept : rows.filter (fun line ↦ !Text.isAllBlank line) = rows := by
    rw [List.filter_eq_self]
    intro line hline
    simp [hrows line hline]
  intro hlabels
  obtain ⟨first, front, rfl⟩ := List.exists_cons_of_ne_nil hfront
  cases front with
  | nil =>
    -- The line that was gone on with is that of the units.
    rw [labels_of_readLines hread, labels_of_readLines hfound, hkept] at hlabels
    have hcount := congrArg List.length hlabels
    simp at hcount
  | cons second front =>
    rw [List.cons_append, List.cons_append] at hread hfound
    rw [labels_of_readLines hread, labels_of_readLines hfound, List.filter_append,
      List.filter_append, List.filter_cons_of_pos (by simp [hmerged]), hkept, List.map_append,
      List.map_append, List.append_assoc, List.append_cancel_left_eq] at hlabels
    cases hblank : Text.isAllBlank last with
    | false =>
      have hcount := congrArg List.length hlabels
      simp [hblank] at hcount
    | true =>
      rw [List.filter_cons_of_neg (by simp [hblank]), List.filter_nil, List.map_nil,
        List.nil_append, List.map_cons, List.map_cons, List.cons.injEq] at hlabels
      have hlabel := congrArg String.toList hlabels.1
      rw [toList_labelOf_append hblank, List.append_left_eq_self] at hlabel
      exact hlast hlabel

end Lines

/-! ## Texts behind a dump -/

/-- A dump of which the last line has not been ended: its last line is gone on with. -/
theorem exists_open_line {text : List Char} {contents : Contents}
    (hread : readLines (Text.lines text) = .ok contents) (hopen : text.getLast? ≠ some '\n') :
    ∃ front last, front ≠ [] ∧ last ≠ [] ∧ Text.lines text = front ++ [last] ∧
      ∀ row : List Char, ∀ rows, row.getLast? ≠ some '\r' → row ≠ [] → '\n' ∉ row →
        Text.lines (text ++ Text.ended (row :: rows)) =
          front ++ (last ++ row) :: Text.lines (Text.ended rows) := by
  have hmem : '\n' ∈ text := by
    by_contra hclean
    by_cases htext : text = []
    · rw [htext, Text.lines_nil] at hread
      cases hread
    · rw [Text.lines_eq_singleton htext hclean] at hread
      cases hread
  obtain ⟨front, last, rfl, hsegments⟩ := Text.exists_last_segment hmem
  have hclean : '\n' ∉ last := by
    apply Text.lineFeed_not_mem_segments (front ++ '\n' :: last)
    rw [hsegments]
    exact List.mem_append_right _ (List.mem_singleton_self last)
  have hlast : last ≠ [] := by
    rintro rfl
    exact hopen List.getLast?_concat
  have hfront : (Text.segments front).map Text.dropReturn ≠ [] := by
    rw [Ne, List.map_eq_nil_iff]
    exact Text.split_ne_nil front
  refine ⟨_, last, hfront, hlast, ?_, fun row rows hreturn hrow hrowClean ↦ ?_⟩
  · rw [Text.lines_append_lineFeed, Text.lines_eq_singleton hlast hclean]
  · have hmerged : '\n' ∉ last ++ row := by simp [hclean, hrowClean]
    have hend : (last ++ row).getLast? ≠ some '\r' := by
      rw [List.getLast?_append, List.getLast?_eq_some_getLast hrow, Option.some_or,
        ← List.getLast?_eq_some_getLast hrow]
      exact hreturn
    rw [Text.ended_cons, List.append_assoc, List.cons_append, Text.lines_append_lineFeed,
      ← List.append_assoc, Text.lines_append_lineFeed, Text.segments_eq_singleton hmerged,
      List.map_singleton, Text.dropReturn_of_getLast? hend, List.singleton_append]

/-- A labelled report as its row reads under the header of the layout. -/
def Layout.rowRead (layout : Layout) (row : String × Report) : String × Report :=
  (row.1, readCells layout.readAs (layout.rowShape.fields row.1 row.2).tail)

theorem Layout.Legible.rowRead (h : layout.Legible) {row : String × Report}
    (hdistinct : row.2.IsDistinct) : layout.rowRead row = (row.1, layout.readBack row.2) := by
  rw [Layout.rowRead, h.readAs_eq_roles, readCells_fields hdistinct]

theorem rowOf_line (layout : Layout) (label : String) (report : Report) :
    rowOf layout.readAs (layout.rowShape.line label report) = layout.rowRead (label, report) := by
  rw [rowOf, Layout.rowRead, labelOf, RowShape.splitFields_line]
  exact congrArg (·, _) String.ofList_toList

section Rows

variable (hcolumns : layout.columns ≠ [])
  (hreports : ∀ row ∈ reports, '\n' ∉ row.1.toList ∧ layout.rowShape.IsSingleLine row.2)

include hcolumns in
theorem isAllBlank_rowLines : ∀ line ∈ layout.rowLines reports, Text.isAllBlank line = false := by
  refine List.forall_mem_map.2 fun row _ ↦ RowShape.isAllBlank_line (.inl ?_) row.2
  rw [Layout.width_rowShape, Layout.width]
  have hpos := List.length_pos_of_ne_nil hcolumns
  omega

include hreports in
theorem lines_ended_rowLines :
    Text.lines (Text.ended (layout.rowLines reports)) = layout.rowLines reports := by
  have hclean : ∀ line ∈ layout.rowLines reports, '\n' ∉ line :=
    List.forall_mem_map.2 fun row hrow ↦
      RowShape.lineFeed_not_mem_line (hreports row hrow).1 (hreports row hrow).2
  have hreturn : ∀ line ∈ layout.rowLines reports, Text.dropReturn line = line :=
    List.forall_mem_map.2 fun row _ ↦ Row.dropReturn_line ⟨layout.rowShape, row.1, row.2⟩
  rw [Text.lines_ended hclean, List.map_congr_left hreturn, List.map_id']

include hcolumns hreports in
/-- Behind an ended text each row is read. -/
theorem readLines_of_ended {text : List Char} {contents : Contents}
    (hread : readLines (Text.lines text) = .ok contents)
    (hheader : headerColumns (Text.lines text) = layout.readAs)
    (hended : text.getLast? = some '\n') :
    readLines (Text.lines (text ++ Text.ended (layout.rowLines reports))) =
      .ok { contents with rows := contents.rows ++ reports.map layout.rowRead } := by
  have hfits : ∀ line ∈ layout.rowLines reports,
      Fits ((headerColumns (Text.lines text)).length + 1) line := by
    refine List.forall_mem_map.2 fun row _ ↦ .inr ?_
    rw [hheader, Layout.length_readAs, fieldCount]
    have hwidth := length_splitFields_line ⟨layout.rowShape, row.1, row.2⟩
    rwa [Layout.width_rowShape] at hwidth
  have hkept : (layout.rowLines reports).filter (fun line ↦ !Text.isAllBlank line) =
      layout.rowLines reports := by
    rw [List.filter_eq_self]
    intro line hline
    simp [isAllBlank_rowLines hcolumns line hline]
  have hrows : (layout.rowLines reports).map (rowOf layout.readAs) =
      reports.map layout.rowRead := by
    rw [Layout.rowLines, List.map_map]
    exact List.map_congr_left fun row _ ↦ rowOf_line layout row.1 row.2
  rw [Text.lines_append_of_getLast? hended, lines_ended_rowLines hreports,
    readLines_append hread hfits, hkept, hheader, hrows]

include hcolumns hreports in
/-- Behind a text that has not been ended no row is read under its label in its place. -/
theorem labels_ne_of_open {text : List Char} {contents found : Contents}
    (hread : readLines (Text.lines text) = .ok contents) (hopen : text.getLast? ≠ some '\n')
    (hsome : reports ≠ [])
    (hfound : readLines (Text.lines (text ++ Text.ended (layout.rowLines reports))) = .ok found) :
    found.rows.map Prod.fst ≠ contents.rows.map Prod.fst ++ reports.map Prod.fst := by
  obtain ⟨front, last, hfront, hlast, hlines, hmerged⟩ := exists_open_line hread hopen
  have hlabels : (layout.rowLines reports).map labelOf = reports.map Prod.fst := by
    rw [Layout.rowLines, List.map_map]
    exact List.map_congr_left fun row _ ↦ labelOf_line ⟨layout.rowShape, row.1, row.2⟩
  have hvisible : ∀ line ∈ layout.rowLines reports, Text.isAllBlank line = false :=
    isAllBlank_rowLines hcolumns
  obtain ⟨⟨label, report⟩, rest, rfl⟩ := List.exists_cons_of_ne_nil hsome
  obtain ⟨⟨hlabel, hreport⟩, hrest⟩ := List.forall_mem_cons.1 hreports
  have hline : Text.isAllBlank (layout.rowShape.line label report) = false :=
    hvisible _ List.mem_cons_self
  have hne : layout.rowShape.line label report ≠ [] := by
    intro hnil
    rw [hnil] at hline
    cases hline
  have hreturn : (layout.rowShape.line label report).getLast? ≠ some '\r' := by
    rw [RowShape.line_eq]
    exact getLast?_fieldLine _
  rw [Layout.rowLines, List.map_cons] at hfound
  rw [hmerged _ _ hreturn hne (RowShape.lineFeed_not_mem_line hlabel hreport)] at hfound
  rw [hlines] at hread
  have hrows : Text.lines (Text.ended (rest.map fun (label, report) ↦
      layout.rowShape.line label report)) = _ := lines_ended_rowLines hrest
  rw [hrows] at hfound
  rw [← hlabels]
  exact labels_ne_of_merged hfront hlast hvisible hread hfound

end Rows

/-! ## Appending to dumps -/

/-- A dump with the columns of a layout that is gone on with is read with its old rows and one for
each report behind them, exactly if its text ends in a line feed or there is no report. All else is
then read as it was. Otherwise the dump is refused, or not even its labels are those of the old rows
and the reports. The sampling mode does not matter. -/
theorem rows_read_appendDump (hsound : disk.Sound) {text : String} {contents : Contents}
    (hfile : disk.read path = .ok text.toUTF8) (hread : read path disk = .ok contents)
    (hheader : headerColumns (Text.lines text.toList) = layout.readAs)
    (hcolumns : layout.columns ≠ [])
    (hreports : ∀ row ∈ reports, '\n' ∉ row.1.toList ∧ layout.rowShape.IsSingleLine row.2) :
    (disk.IsWilling → ∃ later, appendDump path layout reports disk = (.ok (), later)) ∧
      (∀ later, appendDump path layout reports disk = (.ok (), later) →
        ((∃ found, read path later = .ok found ∧
            found.rows.map Prod.fst = contents.rows.map Prod.fst ++ reports.map Prod.fst) ↔
          reports = [] ∨ text.toList.getLast? = some '\n') ∧
        (reports = [] ∨ text.toList.getLast? = some '\n' →
          read path later =
            .ok { contents with rows := contents.rows ++ reports.map layout.rowRead })) ∧
      (layout.Legible → ∀ row ∈ reports, row.2.IsDistinct →
        layout.rowRead row = (row.1, layout.readBack row.2)) := by
  have hlines : readLines (Text.lines text.toList) = .ok contents := by
    rw [read_eq_mapError hfile] at hread
    cases hlines : readLines (Text.lines text.toList) with
    | error fault => simp [hlines, Except.mapError] at hread
    | ok found => simpa [hlines, Except.mapError] using hread
  have hsize : text.toUTF8.size ≠ 0 := by
    intro hzero
    have htext : text = "" := String.toByteArray_inj.1 (ByteArray.size_eq_zero_iff.1 hzero)
    rw [htext] at hlines
    cases hlines
  refine ⟨fun hwilling ↦ ?_, fun later hlater ↦ ?_, fun hlegible row _ hdistinct ↦ ?_⟩
  · obtain ⟨number, hnumber, hcontent⟩ := isFileAt_of_read hfile hsize
    rw [← hcontent] at hsize
    exact ⟨_, Prod.ext (appendDump_of_isWilling hnumber hsize hwilling layout reports) rfl⟩
  · have hbytes := read_bytes_of_appendDump hsound hfile hsize hlater
    have htext : text.toUTF8 ++ lineBytes (layout.rowLines reports) =
        (text ++ String.ofList (Text.ended (layout.rowLines reports))).toUTF8 :=
      (String.toByteArray_append).symm
    rw [htext] at hbytes
    have hlater := read_eq_mapError hbytes
    rw [String.toList_append, String.toList_ofList] at hlater
    have hgood : reports = [] ∨ text.toList.getLast? = some '\n' →
        readLines (Text.lines (text.toList ++ Text.ended (layout.rowLines reports))) =
          .ok { contents with rows := contents.rows ++ reports.map layout.rowRead } := by
      rintro (rfl | hended)
      · simpa [Layout.rowLines] using hlines
      · exact readLines_of_ended hcolumns hreports hlines hheader hended
    refine ⟨⟨?_, fun hcases ↦ ⟨_, by rw [hlater, hgood hcases]; rfl, ?_⟩⟩, fun hcases ↦ ?_⟩
    · rintro ⟨found, hfound, hlabels⟩
      by_contra hopen
      obtain ⟨hsome, hopen⟩ := not_or.1 hopen
      rw [hlater] at hfound
      cases hmerged : readLines (Text.lines (text.toList ++
          Text.ended (layout.rowLines reports))) with
      | error fault => simp [hmerged, Except.mapError] at hfound
      | ok merged =>
        rw [hmerged] at hfound
        obtain rfl := Except.ok.inj hfound
        exact labels_ne_of_open hcolumns hreports hlines hopen hsome hmerged hlabels
    · rw [List.map_append, List.map_map]
      rfl
    · rw [hlater, hgood hcases]
      rfl
  · exact hlegible.rowRead hdistinct

/-- A dump with both kinds of line ends, a blank line and a label between quotes. -/
def mixedText : String :=
  "Sampling,Time,Time.max,io.Lost\r\n,ns,,\n\n\"a,b\",5,7,\r\n"

def mixedDisk : Disk := Disk.empty.put ⟨"/tmp/mixed.csv"⟩ mixedText.toUTF8

def mixedContents : Contents where
  mode := .time
  metrics := [⟨"Time", "ns"⟩]
  information := [⟨"Lost", ""⟩]
  rows := [("a,b", ⟨[⟨"Time", .u32 5, some (.u32 7)⟩], [.text ""]⟩)]

def mixedLayout : Layout := ⟨.time, [⟨"Time", "ns"⟩], [⟨"Lost", ""⟩], true⟩

theorem rows_read_appendDump_mixed :
    let reports := [("c", (⟨[⟨"Time", .u32 3, some (.u32 4)⟩], [.bool true]⟩ : Report))]
    mixedDisk.Sound ∧ mixedDisk.IsWilling ∧
      mixedDisk.read ⟨"/tmp/mixed.csv"⟩ = .ok mixedText.toUTF8 ∧
      read ⟨"/tmp/mixed.csv"⟩ mixedDisk = .ok mixedContents ∧
      headerColumns (Text.lines mixedText.toList) = mixedLayout.readAs ∧
      mixedLayout.columns ≠ [] ∧
      (∀ row ∈ reports, '\n' ∉ row.1.toList ∧ mixedLayout.rowShape.IsSingleLine row.2) ∧
      ∃ later, appendDump ⟨"/tmp/mixed.csv"⟩ mixedLayout reports mixedDisk = (.ok (), later) ∧
        read ⟨"/tmp/mixed.csv"⟩ later =
          .ok { mixedContents with rows := mixedContents.rows ++ reports } := by
  intro reports
  have hsound : mixedDisk.Sound := Disk.sound_empty.put _ _
  have hwilling : mixedDisk.IsWilling := by decide +kernel
  have hfile : mixedDisk.read ⟨"/tmp/mixed.csv"⟩ = .ok mixedText.toUTF8 := by decide +kernel
  have hread : read ⟨"/tmp/mixed.csv"⟩ mixedDisk = .ok mixedContents := by decide +kernel
  have hheader : headerColumns (Text.lines mixedText.toList) = mixedLayout.readAs := by
    decide +kernel
  have hcolumns : mixedLayout.columns ≠ [] := by decide
  have hreports : ∀ row ∈ reports,
      '\n' ∉ row.1.toList ∧ mixedLayout.rowShape.IsSingleLine row.2 := by decide
  obtain ⟨hwrites, hreads, -⟩ :=
    rows_read_appendDump hsound hfile hread hheader hcolumns hreports
  obtain ⟨later, hlater⟩ := hwrites hwilling
  have hrows : reports.map mixedLayout.rowRead = reports := by decide +kernel
  refine ⟨hsound, hwilling, hfile, hread, hheader, hcolumns, hreports, later, hlater, ?_⟩
  rw [(hreads later hlater).2 (.inr (by decide +kernel)), hrows]

/-- A dump whose last row has not been ended. -/
def openText : String := "Operation,Time\n,ns\na,1"

/-- A row behind a line that has not been ended spoils a dump that was read before. -/
theorem rows_lost_behind_open_line :
    read ⟨"/tmp/open.csv"⟩ (Disk.empty.put ⟨"/tmp/open.csv"⟩ openText.toUTF8) =
        .ok ⟨.event, [⟨"Time", "ns"⟩], [], [("a", ⟨[⟨"Time", .u32 1, none⟩], []⟩)]⟩ ∧
      headerColumns (Text.lines openText.toList) = timeLayout.readAs ∧
      ∃ later, appendDump ⟨"/tmp/open.csv"⟩ timeLayout [("b", ⟨[⟨"Time", .u32 2, none⟩], []⟩)]
          (Disk.empty.put ⟨"/tmp/open.csv"⟩ openText.toUTF8) = (.ok (), later) ∧
        read ⟨"/tmp/open.csv"⟩ later =
          .error (.malformed ⟨"/tmp/open.csv"⟩ (.fieldCount 3 3 2)) := by
  refine ⟨?_, ?_, _, Prod.ext ?_ rfl, ?_⟩
  · decide +kernel
  · decide +kernel
  · decide +kernel
  · decide +kernel

end GpuCounters.Dump
