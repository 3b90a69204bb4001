import GpuCounters.Proofs.Session.Operations

/-!
# Which dumps can be read

The header of a dump is that of its first opening, while each row has the columns that were asked
for when the dump was last opened. A dump can be read exactly if these are as many: with another
mode, or with greatest values where there were none, the same file gets rows that no longer fit.
-/

namespace GpuCounters.Session

open Storage

variable {P : Driver.Provider} {C : Compute}

/-! ## Single lines -/

/-- Whether what an entry writes is made of single lines, under a header with a metric at least. -/
def Entry.IsSingleLine : Entry → Prop
  | .opened _ layout => layout.IsSingleLine ∧ layout.metrics ≠ []
  | .row label report => '\n' ∉ label.toList ∧ report.IsSingleLine
  | .closed => True

instance : DecidablePred Entry.IsSingleLine
  | .opened _ layout => inferInstanceAs (Decidable (layout.IsSingleLine ∧ layout.metrics ≠ []))
  | .row label report => inferInstanceAs (Decidable ('\n' ∉ label.toList ∧ report.IsSingleLine))
  | .closed => inferInstanceAs (Decidable True)

namespace Ledger

/-- Whether all volumes are made of single lines, none of them blank, and the open dump has more
columns than that of the labels. -/
structure IsSingleLine (ledger : Ledger) : Prop where
  volumes : ∀ place volume, ledger.volumes place = some volume →
    volume.IsSingleLine ∧ ∀ row ∈ volume.rows, row.IsVisible
  current : ∀ current ∈ ledger.current?, 1 < current.2.width

theorem isSingleLine_empty : ({} : Ledger).IsSingleLine := ⟨by simp, by simp⟩

variable {ledger : Ledger}

theorem IsSingleLine.setVolume (h : ledger.IsSingleLine) (place : Place) {volume : Dump.Volume}
    (hvolume : volume.IsSingleLine) (hvisible : ∀ row ∈ volume.rows, row.IsVisible) :
    (ledger.setVolume place volume).IsSingleLine := by
  refine ⟨?_, h.current⟩
  intro other found hfound
  by_cases hplace : other = place
  · subst hplace
    rw [volumes_setVolume_self] at hfound
    obtain rfl := Option.some.inj hfound
    exact ⟨hvolume, hvisible⟩
  · rw [volumes_setVolume_of_ne hplace] at hfound
    exact h.volumes other found hfound

theorem IsSingleLine.record (h : ledger.IsSingleLine) {entry : Entry}
    (hentry : entry.IsSingleLine) : (ledger.record entry).IsSingleLine := by
  cases entry with
  | closed => exact ⟨h.volumes, by simp [Ledger.record]⟩
  | opened path layout =>
    obtain ⟨hlayout, hmetrics⟩ := hentry
    have hwidth : 1 < layout.rowShape.width :=
      Dump.RowShape.one_lt_width (by simpa [Dump.Layout.rowShape] using hmetrics)
    have hcurrent : ∀ current ∈ some (path, layout.rowShape), 1 < current.2.width := by
      intro current hcurrent
      obtain rfl := Option.some.inj hcurrent
      exact hwidth
    rw [Ledger.record]
    dsimp only
    split
    · exact ⟨h.volumes, hcurrent⟩
    · have hheader : layout.volume.IsSingleLine := ⟨hlayout, by simp [Dump.Layout.volume]⟩
      have hset := h.setVolume path.place hheader (by simp [Dump.Layout.volume])
      exact ⟨hset.volumes, hcurrent⟩
  | row label report =>
    obtain ⟨hlabel, hreport⟩ := hentry
    cases hcurrent : ledger.current? with
    | none =>
      rw [record_row_of_none hcurrent]
      exact h
    | some current =>
      obtain ⟨path, shape⟩ := current
      have hwidth : 1 < shape.width := h.current _ hcurrent
      cases hvolume : ledger.volumes path.place with
      | none =>
        rw [record_row_of_volume_none hcurrent hvolume]
        exact h
      | some volume =>
        obtain ⟨hsingle, hvisible⟩ := h.volumes _ volume hvolume
        rw [record_row_of_volume hcurrent hvolume]
        apply h.setVolume
        · refine ⟨hsingle.layout, ?_⟩
          exact List.forall_mem_append.2 ⟨hsingle.rows,
            by simpa using ⟨hlabel, shape.isSingleLine_of_report hreport⟩⟩
        · exact List.forall_mem_append.2 ⟨hvisible, by simpa using .inl hwidth⟩

/-- The induction is on the entries. -/
theorem IsSingleLine.recordAll (h : ledger.IsSingleLine) {entries : List Entry}
    (hentries : ∀ entry ∈ entries, entry.IsSingleLine) :
    (ledger.recordAll entries).IsSingleLine := by
  induction entries generalizing ledger with
  | nil => exact h
  | cons entry entries ih =>
    obtain ⟨hentry, hrest⟩ := List.forall_mem_cons.1 hentries
    exact ih (h.record hentry) hrest

end Ledger

variable {system : System P C}

/-- A dump whose bytes are a volume of single lines is accepted exactly if its rows fit. -/
theorem read_isOk_iff {path : Path} {disk : Disk} {volume : Dump.Volume}
    (hread : disk.read path = .ok volume.bytes) (hsingle : volume.IsSingleLine)
    (hvisible : ∀ row ∈ volume.rows, row.IsVisible) :
    (∃ contents, Dump.read path disk = .ok contents) ↔
      ∀ row ∈ volume.rows, row.shape.width = volume.layout.width := by
  rw [← hsingle.read_isOk_iff hvisible, Dump.read_of_bytes hread]
  cases volume.read <;> simp

/-- After a session is closed, a dump of it can be read exactly if each of its rows has as many
fields as its header has columns, whatever was asked for in between. -/
theorem read_isOk_iff_runAll (hsound : system.disk.Sound) (hfresh : system.session = {})
    (ops : List (Op P C)) (hentries : ∀ entry ∈ entriesOf ops system, entry.IsSingleLine)
    (hfaultless : (Session.close (runAll ops system)).2.IsFaultless) :
    ∀ path ∈ (runAll ops system).session.openedDumps, ∃ volume,
      (ledgerOf (entriesOf ops system)).volumes path.place = some volume ∧
        ((∃ contents, Dump.read path (Session.close (runAll ops system)).2.disk = .ok contents) ↔
          ∀ row ∈ volume.rows, row.shape.width = volume.layout.width) := by
  intro path hpath
  obtain ⟨hclosed, hactive, -⟩ := close_spec (runAll ops system)
  have hbefore := hclosed.toLater.isFaultless hfaultless
  have hopen := settles_runAll hsound hfresh ops hbefore
  have hsettles := hopen.run .close hfaultless
  have hlines := Ledger.isSingleLine_empty.recordAll hentries
  rw [hopen.opened] at hpath
  obtain ⟨-, -, volume, hvolume⟩ := hopen.known path hpath
  obtain ⟨hlocated, hplain, -⟩ := hsettles.known path hpath
  have hstored := hsettles.stored path.place volume hvolume (by
    have hdump := hsettles.dump?_eq_none hactive
    simp [hdump])
  obtain ⟨hsingle, hvisible⟩ := hlines.volumes path.place volume hvolume
  exact ⟨volume, hvolume,
    read_isOk_iff (Disk.read_of_bytesAt? hlocated hplain hstored) hsingle hvisible⟩

/-- Two lives of one metric set, with or without greatest values. -/
def twoLives (firstMax secondMax : Bool) :
    List (Op (Driver.scripted (some .computeBasic)) Compute.simulated) :=
  [.start (scriptedRequest .event "Basic" firstMax),
    .write "copy" ⟨[⟨"GpuTime", .u64 7, none⟩], []⟩, .close,
    .start (scriptedRequest .event "Basic" secondMax),
    .write "scale" ⟨[⟨"EuActive", .u32 3, none⟩], []⟩]

/-- Two lives that ask for the same write rows that fit. -/
theorem read_isOk_iff_runAll_twoLives :
    (scripted .computeBasic).disk.Sound ∧ (scripted .computeBasic).session = {} ∧
      (∀ entry ∈ entriesOf (twoLives true true) (scripted .computeBasic), entry.IsSingleLine) ∧
      (Session.close (runAll (twoLives true true) (scripted .computeBasic))).2.IsFaultless ∧
      ∃ contents, Dump.read ⟨"/tmp/mdlens_dump/1/perfcounters_Basic.csv"⟩
        (Session.close (runAll (twoLives true true) (scripted .computeBasic))).2.disk =
          .ok contents := by
  have hsound : (scripted .computeBasic).disk.Sound := Disk.sound_empty
  have hentries : ∀ entry ∈ entriesOf (twoLives true true) (scripted .computeBasic),
      entry.IsSingleLine := by
    decide +kernel
  have hfaultless :
      (Session.close (runAll (twoLives true true) (scripted .computeBasic))).2.IsFaultless := by
    decide +kernel
  have hopened : ⟨"/tmp/mdlens_dump/1/perfcounters_Basic.csv"⟩ ∈
      (runAll (twoLives true true) (scripted .computeBasic)).session.openedDumps := by
    decide +kernel
  obtain ⟨volume, hvolume, hread⟩ :=
    read_isOk_iff_runAll hsound rfl (twoLives true true) hentries hfaultless _ hopened
  have hrows : (ledgerOf (entriesOf (twoLives true true) (scripted .computeBasic))).volumes
      ["tmp", "mdlens_dump", "1", "perfcounters_Basic.csv"] =
        some ⟨⟨.event, Driver.Script.computeBasic.metrics,
            Driver.Script.computeBasic.information, true⟩,
          [⟨⟨["GpuTime", "EuActive", "EuStall"], true, 0⟩, "copy",
              ⟨[⟨"GpuTime", .u64 7, none⟩], []⟩⟩,
            ⟨⟨["GpuTime", "EuActive", "EuStall"], true, 0⟩, "scale",
              ⟨[⟨"EuActive", .u32 3, none⟩], []⟩⟩]⟩ := by
    decide +kernel
  have hplace : Path.place ⟨"/tmp/mdlens_dump/1/perfcounters_Basic.csv"⟩ =
      ["tmp", "mdlens_dump", "1", "perfcounters_Basic.csv"] := by
    decide +kernel
  rw [hplace, hrows] at hvolume
  obtain rfl := Option.some.inj hvolume
  exact ⟨hsound, rfl, hentries, hfaultless, hread.2 (by decide +kernel)⟩

/-- A life with greatest values adds rows to a dump whose header has no columns for them, and the
dump can no longer be read. -/
theorem read_eq_error_twoLives :
    (scripted .computeBasic).disk.Sound ∧ (scripted .computeBasic).session = {} ∧
      (∀ entry ∈ entriesOf (twoLives false true) (scripted .computeBasic), entry.IsSingleLine) ∧
      (Session.close (runAll (twoLives false true) (scripted .computeBasic))).2.IsFaultless ∧
      ⟨"/tmp/mdlens_dump/1/perfcounters_Basic.csv"⟩ ∈
        (runAll (twoLives false true) (scripted .computeBasic)).session.openedDumps ∧
      Dump.read ⟨"/tmp/mdlens_dump/1/perfcounters_Basic.csv"⟩
        (Session.close (runAll (twoLives false true) (scripted .computeBasic))).2.disk =
          .error (.malformed ⟨"/tmp/mdlens_dump/1/perfcounters_Basic.csv"⟩
            (.fieldCount 4 7 4)) := by
  refine ⟨Disk.sound_empty, rfl, ?_, ?_, ?_, ?_⟩ <;> decide +kernel

end GpuCounters.Session
