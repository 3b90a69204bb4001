import GpuCounters.Proofs.Dump.RoundTrip

/-!
# What headers say

A header says the sampling mode and the names and units of all columns, and two layouts with the
same of these have the same header. It does not say what the columns were written as: a layout is
read back from its header exactly if it is legible, and only legible layouts are told apart by their
headers.
-/

namespace GpuCounters.Dump

open Storage

/-! ## Headers apart -/

/-- Texts are told apart by their line, since splitting gives them back. -/
theorem fieldLine_injective {fields other : List (List Char)} (h : fields ≠ [])
    (hother : other ≠ []) (hline : fieldLine fields = fieldLine other) : fields = other := by
  rw [← splitFields_fieldLine h, hline, splitFields_fieldLine hother]

theorem labelTitle_injective {mode other : Mode} (h : labelTitle mode = labelTitle other) :
    mode = other := by
  have hmode := modeOfTitle?_labelTitle mode
  rw [h, modeOfTitle?_labelTitle other] at hmode
  exact (Option.some.inj hmode).symm

/-- Descriptors are told apart by their names and units. -/
theorem descriptors_eq_of_texts {descriptors other : List Descriptor}
    (hnames : descriptors.map (·.name.toList) = other.map (·.name.toList))
    (hunits : descriptors.map (·.unit.toList) = other.map (·.unit.toList)) :
    descriptors = other := by
  induction descriptors generalizing other with
  | nil => simpa using hnames
  | cons descriptor descriptors ih =>
    cases other with
    | nil => simp at hnames
    | cons first rest =>
      rw [List.map_cons, List.map_cons, List.cons.injEq, String.toList_inj] at hnames hunits
      have hfirst : descriptor = first := by
        cases descriptor
        cases first
        exact Descriptor.mk.injEq .. ▸ ⟨hnames.1, hunits.1⟩
      rw [hfirst, ih hnames.2 hunits.2]

variable {layout other : Layout}

/-- Single-line layouts have the same header exactly if they have the same mode and columns. -/
theorem Layout.IsSingleLine.bytes_volume_eq_iff (h : layout.IsSingleLine)
    (hother : other.IsSingleLine) :
    layout.volume.bytes = other.volume.bytes ↔
      layout.mode = other.mode ∧ layout.columns = other.columns := by
  constructor
  · intro hbytes
    have hsingle : ∀ {layout : Layout}, layout.IsSingleLine → layout.volume.IsSingleLine :=
      fun hlayout ↦ ⟨hlayout, by simp [Layout.volume]⟩
    have htext := congrArg String.fromUTF8? hbytes
    rw [Volume.bytes, Volume.bytes, fromUTF8?_lineBytes, fromUTF8?_lineBytes, Option.some.injEq,
      String.ofList_inj] at htext
    have hlines := congrArg Text.lines htext
    rw [(hsingle h).lines_ended, (hsingle hother).lines_ended] at hlines
    obtain ⟨hnameLine, hunitLine, -⟩ : layout.nameLine = other.nameLine ∧
        layout.unitLine = other.unitLine ∧ True := by
      simpa [Volume.lines, Layout.volume] using hlines
    rw [Layout.nameLine_eq, Layout.nameLine_eq] at hnameLine
    rw [Layout.unitLine_eq, Layout.unitLine_eq] at hunitLine
    have hnames := fieldLine_injective (List.cons_ne_nil _ _) (List.cons_ne_nil _ _) hnameLine
    have hunits := fieldLine_injective (List.cons_ne_nil _ _) (List.cons_ne_nil _ _) hunitLine
    obtain ⟨htitle, hnames⟩ := List.cons.inj hnames
    exact ⟨labelTitle_injective (String.toList_inj.1 htitle),
      descriptors_eq_of_texts hnames (List.cons.inj hunits).2⟩
  · rintro ⟨hmode, hcolumns⟩
    rw [Layout.bytes_volume, Layout.bytes_volume, Layout.nameLine, Layout.nameLine, Layout.unitLine,
      Layout.unitLine, hmode, hcolumns]

/-! ## Legible headers apart -/

/-- The number of columns behind that of the labels. -/
theorem Layout.length_columns (layout : Layout) :
    layout.columns.length =
      layout.metrics.length * (if layout.includeMax then 2 else 1) +
        layout.shownInformation.length := by
  have hwidth := layout.width_rowShape
  unfold RowShape.width Layout.width Layout.rowShape at hwidth
  rw [List.length_map] at hwidth
  exact (Nat.succ.inj hwidth).symm

/-- Legible layouts with the same columns have them for the same descriptors, and with greatest
values or without. -/
theorem Layout.Legible.eq_of_columns (h : layout.Legible) (hother : other.Legible)
    (hcolumns : layout.columns = other.columns) :
    layout.metrics = other.metrics ∧ layout.shownInformation = other.shownInformation ∧
      (layout.metrics ≠ [] → layout.includeMax = other.includeMax) := by
  have hreadAs : layout.readAs = other.readAs := by
    rw [Layout.readAs, Layout.readAs, hcolumns]
  obtain ⟨hmetrics, hinformation⟩ := h.filterMap_readAs
  obtain ⟨hotherMetrics, hotherInformation⟩ := hother.filterMap_readAs
  rw [hreadAs] at hmetrics hinformation
  have hsameMetrics : layout.metrics = other.metrics := hmetrics.symm.trans hotherMetrics
  have hsameInformation : layout.shownInformation = other.shownInformation :=
    hinformation.symm.trans hotherInformation
  refine ⟨hsameMetrics, hsameInformation, fun hsome ↦ ?_⟩
  have hlength := congrArg List.length hcolumns
  rw [Layout.length_columns, Layout.length_columns, hsameMetrics, hsameInformation] at hlength
  have hpos : 0 < other.metrics.length := List.length_pos_of_ne_nil (hsameMetrics ▸ hsome)
  cases hmax : layout.includeMax <;> cases hotherMax : other.includeMax <;>
    simp [hmax, hotherMax] at hlength ⊢ <;> omega

/-! ## Headers read back -/

/-- The header alone reads as what its columns are taken for. -/
theorem Layout.IsSingleLine.read_volume (h : layout.IsSingleLine) :
    layout.volume.read = .ok ⟨layout.mode, layout.readAs.filterMap Column.metric?,
      layout.readAs.filterMap Column.information?, []⟩ := by
  have hsingle : layout.volume.IsSingleLine := ⟨h, by simp [Layout.volume]⟩
  rw [hsingle.read_eq]
  rfl

variable {disk : Disk}

/-- A dump without rows holds its header, and reads as the descriptors that it was made for exactly
if its layout is legible. Layouts share a header exactly if they share mode and columns, and so
legible ones never do unless they are for the same descriptors. -/
theorem descriptors_read_writeDump (hsound : disk.Sound) (path : Path)
    (hlayout : layout.IsSingleLine) :
    (Accepts disk path → ∃ later, writeDump path layout [] disk = (.ok (), later)) ∧
      (∀ later, writeDump path layout [] disk = (.ok (), later) →
        later.read path = .ok layout.volume.bytes ∧
          ∃ contents, read path later = .ok contents ∧
            contents.mode = layout.mode ∧ contents.rows = [] ∧
            (contents.metrics = layout.metrics ∧
              contents.information = layout.shownInformation ↔ layout.Legible)) ∧
      ∀ other : Layout, other.IsSingleLine →
        (layout.volume.bytes = other.volume.bytes ↔
          layout.mode = other.mode ∧ layout.columns = other.columns) ∧
        (layout.Legible → other.Legible → layout.volume.bytes = other.volume.bytes →
          layout.mode = other.mode ∧ layout.metrics = other.metrics ∧
            layout.shownInformation = other.shownInformation ∧
            (layout.metrics ≠ [] → layout.includeMax = other.includeMax)) := by
  refine ⟨fun haccepts ↦ ?_, fun later hwritten ↦ ?_, fun other hother ↦ ⟨?_, ?_⟩⟩
  · exact ⟨_, Prod.ext (writeDump_of_accepts hsound haccepts layout []) rfl⟩
  · have hbytes : later.read path = .ok layout.volume.bytes :=
      read_bytes_of_writeDump hsound hwritten
    have hread := read_of_bytes hbytes
    rw [hlayout.read_volume] at hread
    exact ⟨hbytes, _, hread, rfl, rfl, layout.legible_iff_filterMap_readAs.symm⟩
  · exact hlayout.bytes_volume_eq_iff hother
  · intro hlegible hotherLegible hbytes
    obtain ⟨hmode, hcolumns⟩ := (hlayout.bytes_volume_eq_iff hother).1 hbytes
    exact ⟨hmode, hlegible.eq_of_columns hotherLegible hcolumns⟩

/-- Names that are like those of other columns, but not where it matters. -/
def lookalikeLayout : Layout where
  mode := .time
  metrics := [⟨"Time", "ns"⟩, ⟨"io", "B"⟩, ⟨"Time.max", "ns"⟩]
  information := [⟨"io.Lost", ""⟩, ⟨"Time.max", "a,b"⟩]
  includeMax := false

theorem descriptors_read_writeDump_lookalike :
    Disk.empty.Sound ∧ Accepts .empty ⟨"/tmp/names.csv"⟩ ∧ lookalikeLayout.IsSingleLine ∧
      lookalikeLayout.Legible ∧
      ∃ later contents,
        writeDump ⟨"/tmp/names.csv"⟩ lookalikeLayout [] .empty = (.ok (), later) ∧
          read ⟨"/tmp/names.csv"⟩ later = .ok contents ∧
          contents.metrics = lookalikeLayout.metrics ∧
          contents.information = lookalikeLayout.information := by
  have haccepts : Accepts .empty ⟨"/tmp/names.csv"⟩ := ⟨⟨_, _, _, _, rfl, rfl, rfl⟩, by decide⟩
  have hlayout : lookalikeLayout.IsSingleLine := by decide
  have hlegible : lookalikeLayout.Legible := by decide
  obtain ⟨hwrites, hreads, -⟩ :=
    descriptors_read_writeDump Disk.sound_empty ⟨"/tmp/names.csv"⟩ hlayout
  obtain ⟨later, hlater⟩ := hwrites haccepts
  obtain ⟨-, contents, hread, -, -, hdescriptors⟩ := hreads later hlater
  obtain ⟨hmetrics, hinformation⟩ := hdescriptors.2 hlegible
  exact ⟨Disk.sound_empty, haccepts, hlayout, hlegible, later, contents, hlater, hread, hmetrics,
    hinformation⟩

/-- A metric can be taken for further information, even where no dump has any, and a metric with
greatest values has the header of two metrics. -/
theorem descriptors_not_read_back :
    (∃ later, writeDump ⟨"/tmp/names.csv"⟩ ⟨.event, [⟨"io.Read", "B"⟩], [], false⟩ [] .empty =
        (.ok (), later) ∧
      read ⟨"/tmp/names.csv"⟩ later = .ok ⟨.event, [], [⟨"Read", "B"⟩], []⟩) ∧
      (Layout.volume ⟨.event, [⟨"Time", "ns"⟩], [], true⟩).bytes =
        (Layout.volume ⟨.event, [⟨"Time", "ns"⟩, ⟨"Time.max", "ns"⟩], [], false⟩).bytes := by
  refine ⟨⟨_, Prod.ext ?_ rfl, ?_⟩, ?_⟩
  · decide +kernel
  · decide +kernel
  · decide +kernel

end GpuCounters.Dump
