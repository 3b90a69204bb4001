import GpuCounters.Proofs.Dump.Location
import GpuCounters.Proofs.Session.Operations

/-!
# Dumps only grow

Metric sets without a slash in their names have dumps at places of their own. Each such dump starts
with the header of its first opening and is followed by the rows that were written to it, in order
and each of them once. Nothing but a row written to it makes it longer, whatever is done to other
dumps in between, and nothing makes it shorter.
-/

namespace GpuCounters

open Storage

variable {P : Driver.Provider} {C : Compute}

/-- What a dump holds as a whole: the bytes of its file and those that its writer holds back. -/
def System.content? (path : Path) (system : System P C) : Option ByteArray :=
  match system.disk.read path with
  | .error _ => none
  | .ok bytes =>
    match system.session.dump? with
    | some writer =>
      if writer.path = path then some (bytes ++ writer.output.pending) else some bytes
    | none => some bytes

namespace Session

/-! ## What entries say about one path -/

def Entry.current? (current? : Option (Path × Dump.RowShape)) :
    Entry → Option (Path × Dump.RowShape)
  | .opened path layout => some (path, layout.rowShape)
  | .row _ _ => current?
  | .closed => none

/-- The row that an entry writes to a path. -/
def Entry.row? (path : Path) (current? : Option (Path × Dump.RowShape)) :
    Entry → Option Dump.Row
  | .row label report =>
    match current? with
    | some (other, shape) => if other = path then some ⟨shape, label, report⟩ else none
    | none => none
  | .opened _ _ => none
  | .closed => none

/-- The layout with which an entry opens a path. -/
def Entry.layout? (path : Path) : Entry → Option Dump.Layout
  | .opened other layout => if other = path then some layout else none
  | .row _ _ => none
  | .closed => none

def currentAfter (current? : Option (Path × Dump.RowShape)) (entries : List Entry) :
    Option (Path × Dump.RowShape) :=
  entries.foldl Entry.current? current?

/-- The rows that entries write to a path, in order. -/
def rowsTo (path : Path) : Option (Path × Dump.RowShape) → List Entry → List Dump.Row
  | _, [] => []
  | current?, entry :: entries =>
    (entry.row? path current?).toList ++ rowsTo path (entry.current? current?) entries

/-- The layout of the first opening of a path. -/
def firstLayout? (path : Path) (entries : List Entry) : Option Dump.Layout :=
  entries.findSome? (Entry.layout? path)

theorem rowsTo_append (path : Path) (current? : Option (Path × Dump.RowShape))
    (entries more : List Entry) :
    rowsTo path current? (entries ++ more) =
      rowsTo path current? entries ++ rowsTo path (currentAfter current? entries) more := by
  induction entries generalizing current? with
  | nil => rfl
  | cons entry entries ih =>
    calc
      rowsTo path current? (entry :: (entries ++ more)) =
          (entry.row? path current?).toList ++
            (rowsTo path (entry.current? current?) entries ++
              rowsTo path (currentAfter (entry.current? current?) entries) more) := by
        rw [rowsTo, ih]
      _ = rowsTo path current? (entry :: entries) ++
            rowsTo path (currentAfter current? (entry :: entries)) more := by
        rw [rowsTo, List.append_assoc]
        rfl

theorem firstLayout?_append {path : Path} {entries : List Entry} {layout : Dump.Layout}
    (h : firstLayout? path entries = some layout) (more : List Entry) :
    firstLayout? path (entries ++ more) = some layout := by
  unfold firstLayout? at h ⊢
  rw [List.findSome?_append, h, Option.some_or]

/-! ## Ledgers of plain paths -/

/-- Whether an entry opens nothing but a plain dump. -/
def Entry.IsPlain (directory : Path) (entry : Entry) : Prop :=
  ∀ path layout, entry = .opened path layout → Dump.IsPlain directory path

namespace Ledger

/-- Whether a ledger has one volume for each path that was opened, and no other. -/
structure Tidy (directory : Path) (ledger : Ledger) : Prop where
  plain : ∀ path ∈ ledger.opened, Dump.IsPlain directory path
  filled : ∀ path ∈ ledger.opened, ∃ volume, ledger.volumes path.place = some volume
  owned : ∀ place volume, ledger.volumes place = some volume →
    ∃ path ∈ ledger.opened, path.place = place
  current : ∀ current ∈ ledger.current?, current.1 ∈ ledger.opened

theorem tidy_empty (directory : Path) : ({} : Ledger).Tidy directory :=
  ⟨by simp, by simp, by simp, by simp⟩

variable {directory path : Path} {ledger : Ledger}

theorem Tidy.eq_of_place (h : ledger.Tidy directory) (hpath : Dump.IsPlain directory path)
    {other : Path} (hother : other ∈ ledger.opened) (hplace : path.place = other.place) :
    path = other :=
  hpath.eq_of_place (h.plain other hother) hplace

theorem Tidy.knows_iff (h : ledger.Tidy directory) (hpath : Dump.IsPlain directory path) :
    ledger.knows path = true ↔ path ∈ ledger.opened := by
  unfold knows
  rw [List.any_eq_true]
  constructor
  · rintro ⟨other, hother, hsame⟩
    obtain rfl := h.eq_of_place hpath hother (place_eq_of_same hsame)
    exact hother
  · intro hmem
    exact ⟨path, hmem, by simp [Path.same]⟩

/-- A path has a volume exactly if it was opened. -/
theorem Tidy.mem_opened_iff (h : ledger.Tidy directory) (hpath : Dump.IsPlain directory path) :
    path ∈ ledger.opened ↔ (ledger.volumes path.place).isSome := by
  rw [Option.isSome_iff_exists]
  refine ⟨h.filled path, ?_⟩
  rintro ⟨volume, hvolume⟩
  obtain ⟨other, hother, hplace⟩ := h.owned _ volume hvolume
  obtain rfl := h.eq_of_place hpath hother hplace.symm
  exact hother

/-! ### One entry -/

theorem current?_record (ledger : Ledger) (entry : Entry) :
    (ledger.record entry).current? = entry.current? ledger.current? := by
  cases entry with
  | opened path layout => exact current?_opened ledger path layout
  | row label report => exact current?_row ledger label report
  | closed => rfl

theorem current?_recordAll (ledger : Ledger) (entries : List Entry) :
    (ledger.recordAll entries).current? = currentAfter ledger.current? entries := by
  induction entries generalizing ledger with
  | nil => rfl
  | cons entry entries ih =>
    rw [recordAll_cons, ih, current?_record]
    rfl

/-- A row changes the volume of the open dump. -/
theorem Tidy.record_row (h : ledger.Tidy directory) {shape : Dump.RowShape}
    (hcurrent : ledger.current? = some (path, shape)) (label : String) (report : Report) :
    ∃ volume, ledger.volumes path.place = some volume ∧
      ledger.record (.row label report) =
        ledger.setVolume path.place (volume.push ⟨shape, label, report⟩) := by
  obtain ⟨volume, hvolume⟩ := h.filled path (h.current _ hcurrent)
  exact ⟨volume, hvolume, record_row_of_volume hcurrent hvolume label report⟩

theorem Tidy.setVolume (h : ledger.Tidy directory) (hpath : path ∈ ledger.opened)
    (volume : Dump.Volume) : (ledger.setVolume path.place volume).Tidy directory := by
  refine ⟨h.plain, ?_, ?_, h.current⟩
  · intro other hother
    by_cases hplace : other.place = path.place
    · rw [hplace]
      exact ⟨volume, volumes_setVolume_self ledger _ _⟩
    · rw [volumes_setVolume_of_ne hplace]
      exact h.filled other hother
  · intro place found hfound
    by_cases hplace : place = path.place
    · exact ⟨path, hpath, hplace.symm⟩
    · rw [volumes_setVolume_of_ne hplace] at hfound
      exact h.owned place found hfound

/-- A new volume takes the place of none, as the other paths are elsewhere. -/
theorem Tidy.made (h : ledger.Tidy directory) (hpath : Dump.IsPlain directory path)
    (layout : Dump.Layout) :
    Tidy directory { ledger.setVolume path.place layout.volume with
      opened := ledger.opened ++ [path]
      current? := some (path, layout.rowShape) } := by
  have hself := volumes_setVolume_self ledger path.place layout.volume
  refine ⟨?_, ?_, ?_, ?_⟩
  · intro other hother
    obtain hold | hnew := List.mem_append.1 hother
    · exact h.plain other hold
    · rwa [List.mem_singleton.1 hnew]
  · intro other hother
    by_cases hplace : other.place = path.place
    · rw [hplace]
      exact ⟨_, hself⟩
    · obtain hold | hnew := List.mem_append.1 hother
      · obtain ⟨volume, hvolume⟩ := h.filled other hold
        exact ⟨volume, (volumes_setVolume_of_ne hplace ledger _).trans hvolume⟩
      · exact absurd (congrArg Path.place (List.mem_singleton.1 hnew)) hplace
  · intro place volume hvolume
    by_cases hplace : place = path.place
    · exact ⟨path, List.mem_append_right _ (List.mem_singleton_self path), hplace.symm⟩
    · have hbefore := (volumes_setVolume_of_ne hplace ledger _).symm.trans hvolume
      obtain ⟨other, hother, hat⟩ := h.owned place volume hbefore
      exact ⟨other, List.mem_append_left _ hother, hat⟩
  · intro current hcurrent
    obtain rfl := Option.some.inj hcurrent
    exact List.mem_append_right _ (List.mem_singleton_self path)

theorem Tidy.record (h : ledger.Tidy directory) {entry : Entry}
    (hentry : entry.IsPlain directory) : (ledger.record entry).Tidy directory := by
  cases entry with
  | closed => exact ⟨h.plain, h.filled, h.owned, by simp [Ledger.record]⟩
  | row label report =>
    cases hcurrent : ledger.current? with
    | none =>
      rw [record_row_of_none hcurrent]
      exact h
    | some current =>
      obtain ⟨volume, -, hrecord⟩ := h.record_row hcurrent label report
      rw [hrecord]
      exact h.setVolume (h.current _ hcurrent) _
  | opened path layout =>
    have hpath := hentry path layout rfl
    cases hknows : ledger.knows path with
    | true =>
      have hmem := (h.knows_iff hpath).1 hknows
      rw [Ledger.record, if_pos hknows]
      refine ⟨h.plain, h.filled, h.owned, ?_⟩
      intro current hcurrent
      obtain rfl := Option.some.inj hcurrent
      exact hmem
    | false =>
      rw [Ledger.record, if_neg (by simp [hknows])]
      exact h.made hpath layout

/-- A volume that is there gets the row of an entry, and nothing else. -/
theorem Tidy.volumes_record_of_some (h : ledger.Tidy directory) {entry : Entry}
    (hentry : entry.IsPlain directory) (hpath : Dump.IsPlain directory path)
    {volume : Dump.Volume} (hvolume : ledger.volumes path.place = some volume) :
    (ledger.record entry).volumes path.place =
      some ⟨volume.layout, volume.rows ++ (entry.row? path ledger.current?).toList⟩ := by
  cases entry with
  | closed =>
    rw [Entry.row?, Option.toList_none, List.append_nil]
    exact hvolume
  | row label report =>
    cases hcurrent : ledger.current? with
    | none =>
      rw [record_row_of_none hcurrent, Entry.row?, Option.toList_none, List.append_nil]
      exact hvolume
    | some current =>
      obtain ⟨other, shape⟩ := current
      have hother := h.current _ hcurrent
      obtain ⟨found, hfound, hrecord⟩ := h.record_row hcurrent label report
      rw [hrecord, Entry.row?]
      by_cases hsame : other = path
      · subst hsame
        obtain rfl := Option.some.inj (hfound.symm.trans hvolume)
        rw [volumes_setVolume_self, if_pos rfl]
        rfl
      · have hplace : path.place ≠ other.place := by
          intro hplace
          exact hsame (h.eq_of_place hpath hother hplace).symm
        rw [volumes_setVolume_of_ne hplace, if_neg hsame, Option.toList_none, List.append_nil]
        exact hvolume
  | opened other layout =>
    rw [Entry.row?, Option.toList_none, List.append_nil]
    cases hknows : ledger.knows other with
    | true =>
      rw [Ledger.record, if_pos hknows]
      exact hvolume
    | false =>
      have hplace : path.place ≠ other.place := by
        intro hplace
        obtain rfl := hpath.eq_of_place (hentry other layout rfl) hplace
        have hmem := (h.mem_opened_iff hpath).2 (by rw [hvolume]; rfl)
        rw [(h.knows_iff hpath).2 hmem] at hknows
        simp at hknows
      rw [Ledger.record, if_neg (by simp [hknows])]
      exact (volumes_setVolume_of_ne hplace ledger _).trans hvolume

/-- Where no volume is, an entry puts the header of the layout with which it opens the path. -/
theorem Tidy.volumes_record_of_none (h : ledger.Tidy directory) {entry : Entry}
    (hentry : entry.IsPlain directory) (hpath : Dump.IsPlain directory path)
    (hnone : ledger.volumes path.place = none) :
    (ledger.record entry).volumes path.place = (entry.layout? path).map Dump.Layout.volume ∧
      entry.row? path ledger.current? = none := by
  cases entry with
  | closed => exact ⟨hnone, rfl⟩
  | row label report =>
    rw [Entry.layout?, Option.map_none]
    cases hcurrent : ledger.current? with
    | none =>
      rw [record_row_of_none hcurrent]
      exact ⟨hnone, rfl⟩
    | some current =>
      obtain ⟨other, shape⟩ := current
      obtain ⟨found, hfound, hrecord⟩ := h.record_row hcurrent label report
      have hplace : path.place ≠ other.place := by
        intro hplace
        rw [← hplace, hnone] at hfound
        simp at hfound
      rw [hrecord, volumes_setVolume_of_ne hplace, Entry.row?]
      refine ⟨hnone, if_neg ?_⟩
      rintro rfl
      exact hplace rfl
  | opened other layout =>
    refine ⟨?_, rfl⟩
    have hmem : path ∉ ledger.opened := by
      rw [h.mem_opened_iff hpath, hnone]
      simp
    rw [Entry.layout?]
    by_cases hsame : other = path
    · subst hsame
      have hknows : ¬ ledger.knows other = true := fun hknows ↦
        hmem ((h.knows_iff hpath).1 hknows)
      rw [Ledger.record, if_neg hknows, if_pos rfl]
      exact volumes_setVolume_self ledger _ _
    · have hplace : path.place ≠ other.place := fun hplace ↦
        hsame (hpath.eq_of_place (hentry other layout rfl) hplace).symm
      rw [if_neg hsame, Option.map_none, Ledger.record]
      dsimp only
      split
      · exact hnone
      · exact (volumes_setVolume_of_ne hplace ledger _).trans hnone

/-! ### All entries -/

theorem Tidy.recordAll (h : ledger.Tidy directory) {entries : List Entry}
    (hentries : ∀ entry ∈ entries, entry.IsPlain directory) :
    (ledger.recordAll entries).Tidy directory := by
  induction entries generalizing ledger with
  | nil => exact h
  | cons entry entries ih =>
    obtain ⟨hentry, hrest⟩ := List.forall_mem_cons.1 hentries
    exact ih (h.record hentry) hrest

/-- The induction is on the entries: a volume that is there only gets rows. -/
theorem Tidy.volumes_recordAll_of_some (h : ledger.Tidy directory) {entries : List Entry}
    (hentries : ∀ entry ∈ entries, entry.IsPlain directory) (hpath : Dump.IsPlain directory path)
    {volume : Dump.Volume} (hvolume : ledger.volumes path.place = some volume) :
    (ledger.recordAll entries).volumes path.place =
      some ⟨volume.layout, volume.rows ++ rowsTo path ledger.current? entries⟩ := by
  induction entries generalizing ledger volume with
  | nil =>
    rw [rowsTo, List.append_nil]
    exact hvolume
  | cons entry entries ih =>
    obtain ⟨hentry, hrest⟩ := List.forall_mem_cons.1 hentries
    have hfirst := h.volumes_record_of_some hentry hpath hvolume
    rw [recordAll_cons, ih (h.record hentry) hrest hfirst, current?_record, rowsTo,
      List.append_assoc]

/-- The induction is on the entries, up to the first one that opens the path. -/
theorem Tidy.volumes_recordAll_of_none (h : ledger.Tidy directory) {entries : List Entry}
    (hentries : ∀ entry ∈ entries, entry.IsPlain directory) (hpath : Dump.IsPlain directory path)
    (hnone : ledger.volumes path.place = none) :
    (ledger.recordAll entries).volumes path.place =
      (firstLayout? path entries).map fun layout ↦
        ⟨layout, rowsTo path ledger.current? entries⟩ := by
  induction entries generalizing ledger with
  | nil => exact hnone
  | cons entry entries ih =>
    obtain ⟨hentry, hrest⟩ := List.forall_mem_cons.1 hentries
    obtain ⟨hfirst, hrow⟩ := h.volumes_record_of_none hentry hpath hnone
    rw [recordAll_cons, rowsTo, hrow, Option.toList_none, List.nil_append, firstLayout?,
      List.findSome?_cons, ← current?_record]
    cases hlayout : entry.layout? path with
    | none =>
      rw [hlayout, Option.map_none] at hfirst
      exact ih (h.record hentry) hrest hfirst
    | some layout =>
      rw [hlayout, Option.map_some] at hfirst
      exact (h.record hentry).volumes_recordAll_of_some hrest hpath hfirst

end Ledger

theorem tidy_ledgerOf {directory : Path} {entries : List Entry}
    (hentries : ∀ entry ∈ entries, entry.IsPlain directory) :
    (ledgerOf entries).Tidy directory := (Ledger.tidy_empty directory).recordAll hentries

/-- The volume of a path is its first header and its rows. -/
theorem volumes_ledgerOf {directory path : Path} {entries : List Entry}
    (hentries : ∀ entry ∈ entries, entry.IsPlain directory)
    (hpath : Dump.IsPlain directory path) :
    (ledgerOf entries).volumes path.place =
      (firstLayout? path entries).map fun layout ↦ ⟨layout, rowsTo path none entries⟩ :=
  (Ledger.tidy_empty directory).volumes_recordAll_of_none hentries hpath rfl

/-! ## What operations open -/

section Plain

open GpuCounters.System

/-- Whether an operation asks for no metric set with a slash in its name. -/
def Op.IsPlain : Op P C → Prop
  | .start request => '/' ∉ request.metricSet.toList
  | _ => True

theorem Op.IsPlain.entries {op : Op P C} (h : op.IsPlain) (system : System P C) :
    ∀ entry ∈ op.entries system,
      entry.IsPlain (Dump.directory system.dumpRoot system.process) := by
  intro entry hentry path layout hopened
  subst hopened
  cases op with
  | start request =>
    rw [Op.entries] at hentry
    split at hentry
    · simp at hentry
    · split at hentry
      · obtain ⟨rfl, -⟩ := Entry.opened.inj (List.mem_singleton.1 hentry)
        exact ⟨request.metricSet, h, rfl⟩
      · simp at hentry
  | close => simp [Op.entries] at hentry
  | write label report =>
    obtain ⟨_, _, hrow⟩ := isRow_entries (by simp) (by simp) _ hentry
    simp at hrow
  | sample operation event =>
    obtain ⟨_, _, hrow⟩ := isRow_entries (by simp) (by simp) _ hentry
    simp at hrow
  | drain =>
    obtain ⟨_, _, hrow⟩ := isRow_entries (by simp) (by simp) _ hentry
    simp at hrow
  | outside driver compute => simp [Op.entries] at hentry

/-- The induction is on the operations: none of them moves the dumps' directory. -/
theorem isPlain_entriesOf {ops : List (Op P C)} (h : ∀ op ∈ ops, op.IsPlain)
    (system : System P C) :
    ∀ entry ∈ entriesOf ops system,
      entry.IsPlain (Dump.directory system.dumpRoot system.process) := by
  induction ops generalizing system with
  | nil => simp [entriesOf]
  | cons op ops ih =>
    obtain ⟨hop, hops⟩ := List.forall_mem_cons.1 h
    have hlater := later_run op system
    have hrest := ih hops (op.run system).2
    rw [hlater.root, hlater.process] at hrest
    intro entry hentry
    rw [entriesOf] at hentry
    obtain hfirst | hsecond := List.mem_append.1 hentry
    · exact hop.entries system entry hfirst
    · exact hrest entry hsecond

end Plain

/-! ## What dumps hold -/

variable {ledger : Ledger} {base : Disk} {system : System P C} {directory path : Path}

/-- What a dump holds is its volume, be it open or not. -/
theorem Ledger.Describes.content? (h : ledger.Describes base system)
    (htidy : ledger.Tidy directory) (hpath : path ∈ ledger.opened) {volume : Dump.Volume}
    (hvolume : ledger.volumes path.place = some volume) :
    system.content? path = some volume.bytes := by
  obtain ⟨hlocated, hplain, -⟩ := h.known path hpath
  unfold System.content?
  cases hdump : system.session.dump? with
  | none =>
    have hstored := h.stored path.place volume hvolume (by simp [hdump])
    rw [Disk.read_of_bytesAt? hlocated hplain hstored]
  | some writer =>
    obtain ⟨carried, hcarried, hcarries⟩ := h.carries writer hdump
    have hcurrent := h.current
    rw [hdump, Option.map_some] at hcurrent
    have hwriter : writer.path ∈ ledger.opened := htidy.current _ hcurrent.symm
    by_cases hsame : writer.path = path
    · subst hsame
      obtain rfl := Option.some.inj (hcarried.symm.trans hvolume)
      obtain ⟨written, hwritten, hwhole⟩ := hcarries.bytesAt?
      rw [Disk.read_of_bytesAt? hlocated hplain hwritten]
      dsimp only
      rw [if_pos rfl, hwhole]
    · have hstored := h.stored path.place volume hvolume (by
        intro found hfound hplace
        rw [hdump] at hfound
        obtain rfl := Option.some.inj hfound
        exact hsame (htidy.eq_of_place (htidy.plain _ hwriter) hpath hplace))
      rw [Disk.read_of_bytesAt? hlocated hplain hstored]
      dsimp only
      rw [if_neg hsame]

/-- The dumps of a run are what its entries say of their paths. -/
theorem content?_runAll (hsound : system.disk.Sound) (hfresh : system.session = {})
    {ops : List (Op P C)} (hnames : ∀ op ∈ ops, op.IsPlain)
    (hfaultless : (runAll ops system).IsFaultless) {layout : Dump.Layout}
    (hpath : Dump.IsPlain (Dump.directory system.dumpRoot system.process) path)
    (hfirst : firstLayout? path (entriesOf ops system) = some layout) :
    (runAll ops system).content? path =
      some (Dump.Volume.mk layout (rowsTo path none (entriesOf ops system))).bytes := by
  have hentries := isPlain_entriesOf hnames system
  have hsettles := settles_runAll hsound hfresh ops hfaultless
  have htidy := tidy_ledgerOf hentries
  have hvolume := volumes_ledgerOf hentries hpath
  rw [hfirst, Option.map_some] at hvolume
  have hopened := (htidy.mem_opened_iff hpath).2 (by rw [hvolume]; rfl)
  exact hsettles.toDescribes.content? htidy hopened hvolume

theorem isPlain_of_firstLayout? {entries : List Entry}
    (hentries : ∀ entry ∈ entries, entry.IsPlain directory) {layout : Dump.Layout}
    (hfirst : firstLayout? path entries = some layout) : Dump.IsPlain directory path := by
  obtain ⟨entry, hentry, hlayout⟩ := List.exists_of_findSome?_eq_some hfirst
  cases entry with
  | opened other found =>
    rw [Entry.layout?] at hlayout
    split at hlayout
    · rename_i hsame
      subst hsame
      exact hentries _ hentry other found rfl
    · simp at hlayout
  | row label report => simp [Entry.layout?] at hlayout
  | closed => simp [Entry.layout?] at hlayout

theorem mem_openedDumps_runAll (hsound : system.disk.Sound) (hfresh : system.session = {})
    {ops : List (Op P C)} (hnames : ∀ op ∈ ops, op.IsPlain)
    (hfaultless : (runAll ops system).IsFaultless) (path : Path) :
    path ∈ (runAll ops system).session.openedDumps ↔
      (firstLayout? path (entriesOf ops system)).isSome := by
  have hentries := isPlain_entriesOf hnames system
  have hsettles := settles_runAll hsound hfresh ops hfaultless
  have htidy := tidy_ledgerOf hentries
  rw [hsettles.opened]
  constructor
  · intro hmem
    have hpath := htidy.plain path hmem
    have hvolume := (htidy.mem_opened_iff hpath).1 hmem
    rwa [volumes_ledgerOf hentries hpath, Option.isSome_map] at hvolume
  · intro hsome
    obtain ⟨layout, hfirst⟩ := Option.isSome_iff_exists.1 hsome
    have hpath := isPlain_of_firstLayout? hentries hfirst
    rw [htidy.mem_opened_iff hpath, volumes_ledgerOf hentries hpath, hfirst]
    rfl

/-- Files at places where no dump is stay as they are. -/
theorem bytesAt?_runAll (hsound : system.disk.Sound) (hfresh : system.session = {})
    {ops : List (Op P C)} (hnames : ∀ op ∈ ops, op.IsPlain)
    (hfaultless : (runAll ops system).IsFaultless) {place : Place}
    (hplace : ∀ path ∈ (runAll ops system).session.openedDumps, path.place ≠ place) :
    (runAll ops system).disk.bytesAt? place = system.disk.bytesAt? place := by
  have hsettles := settles_runAll hsound hfresh ops hfaultless
  have htidy := tidy_ledgerOf (isPlain_entriesOf hnames system)
  apply hsettles.others
  rw [hsettles.opened] at hplace
  rw [Option.eq_none_iff_forall_not_mem]
  intro volume hvolume
  obtain ⟨path, hpath, hat⟩ := htidy.owned place volume hvolume
  exact hplace path hpath hat

theorem dump?_runAll_close (hsound : system.disk.Sound) (hfresh : system.session = {})
    {ops : List (Op P C)} (hfaultless : (runAll (ops ++ [.close]) system).IsFaultless) :
    (runAll (ops ++ [.close]) system).session.dump? = none := by
  have hsettles := settles_runAll hsound hfresh _ hfaultless
  have hclosed : runAll (ops ++ [.close]) system = (Session.close (runAll ops system)).2 := by
    rw [runAll_append]
    rfl
  apply hsettles.dump?_eq_none
  rw [hclosed]
  exact (close_spec (runAll ops system)).2.1

/-- Without an open dump, what a dump holds is what its file holds. -/
theorem read_of_content? {bytes : ByteArray} (hdump : system.session.dump? = none)
    (hcontent : system.content? path = some bytes) : system.disk.read path = .ok bytes := by
  unfold System.content? at hcontent
  rw [hdump] at hcontent
  split at hcontent
  · simp at hcontent
  · rename_i found hfound
    rwa [Option.some.inj hcontent] at hfound

/-- Every dump of a run is the header of its first opening and the rows written to it since. Going
on adds the lines of the rows that are written to it, and nothing else; closing leaves all of it on
the disk. Files at other places stay as they are. -/
theorem appendOnly_runAll (hsound : system.disk.Sound) (hfresh : system.session = {})
    (ops more : List (Op P C)) (hnames : ∀ op ∈ ops ++ more, op.IsPlain)
    (hfaultless : (runAll (ops ++ more) system).IsFaultless) :
    (∀ path, path ∈ (runAll ops system).session.openedDumps ↔
      (firstLayout? path (entriesOf ops system)).isSome) ∧
    (∀ path layout, firstLayout? path (entriesOf ops system) = some layout →
      ∃ held, held = Dump.lineBytes (layout.nameLine :: layout.unitLine ::
          (rowsTo path none (entriesOf ops system)).map Dump.Row.line) ∧
        (runAll ops system).content? path = some held ∧
        (runAll (ops ++ more) system).content? path =
          some (held ++ Dump.lineBytes ((rowsTo path (currentAfter none (entriesOf ops system))
            (entriesOf more (runAll ops system))).map Dump.Row.line)) ∧
        ((Session.close (runAll ops system)).2.IsFaultless →
          (Session.close (runAll ops system)).2.disk.read path = .ok held)) ∧
    ∀ place, (∀ path ∈ (runAll ops system).session.openedDumps, path.place ≠ place) →
      (runAll ops system).disk.bytesAt? place = system.disk.bytesAt? place := by
  have hearly : ∀ op ∈ ops, op.IsPlain := fun op hop ↦ hnames op (List.mem_append_left more hop)
  have hrun := runAll_append ops more system
  have hbefore : (runAll ops system).IsFaultless := by
    rw [hrun] at hfaultless
    exact (later_runAll more _).isFaultless hfaultless
  refine ⟨mem_openedDumps_runAll hsound hfresh hearly hbefore, ?_,
    fun place ↦ bytesAt?_runAll hsound hfresh hearly hbefore⟩
  intro path layout hfirst
  have hpath := isPlain_of_firstLayout? (isPlain_entriesOf hearly system) hfirst
  have hheld := content?_runAll hsound hfresh hearly hbefore hpath hfirst
  refine ⟨_, rfl, hheld, ?_, ?_⟩
  · have hall := firstLayout?_append hfirst (entriesOf more (runAll ops system))
    rw [← entriesOf_append] at hall
    rw [content?_runAll hsound hfresh hnames hfaultless hpath hall, entriesOf_append,
      rowsTo_append, Dump.Volume.bytes_append]
    rfl
  · intro hclosing
    have hclosed : (Session.close (runAll ops system)).2 = runAll (ops ++ [.close]) system := by
      rw [runAll_append]
      rfl
    rw [hclosed] at hclosing ⊢
    have hplain : ∀ op ∈ ops ++ [.close], op.IsPlain :=
      List.forall_mem_append.2 ⟨hearly, by simp [Op.IsPlain]⟩
    have hall := firstLayout?_append hfirst (entriesOf [.close] (runAll ops system))
    rw [← entriesOf_append] at hall
    have hcontent := content?_runAll hsound hfresh hplain hclosing hpath hall
    have hrows : rowsTo path none (entriesOf (ops ++ [.close]) system) =
        rowsTo path none (entriesOf ops system) := by
      rw [entriesOf_append, rowsTo_append]
      exact List.append_nil _
    rw [hrows] at hcontent
    exact read_of_content? (dump?_runAll_close hsound hfresh hclosing) hcontent

/-- Two lives of one metric set, with a stream of another one in between. -/
def twoSets : List (Op (Driver.scripted (some .computeBasic)) Compute.simulated) :=
  [.start (scriptedRequest .event "Basic" false), .write "copy" ⟨[⟨"GpuTime", .u64 7, none⟩], []⟩,
    .close, .start (scriptedRequest .time "Render" true), .write "TBS" ⟨[], []⟩, .close,
    .start (scriptedRequest .event "Basic" true)]

/-- The second life writes no header, even though its rows have other columns. -/
theorem appendOnly_runAll_twoSets :
    (scripted .computeBasic).disk.Sound ∧ (scripted .computeBasic).session = {} ∧
      (∀ op ∈ twoSets ++ [.write "scale" ⟨[], []⟩], op.IsPlain) ∧
      (runAll (twoSets ++ [.write "scale" ⟨[], []⟩]) (scripted .computeBasic)).IsFaultless ∧
      (runAll twoSets (scripted .computeBasic)).content?
          ⟨"/tmp/mdlens_dump/1/perfcounters_Basic.csv"⟩ =
        some "Operation,GpuTime,EuActive,EuStall\n,ns,percent,percent\ncopy,7,,\n".toUTF8 ∧
      (runAll (twoSets ++ [.write "scale" ⟨[], []⟩]) (scripted .computeBasic)).content?
          ⟨"/tmp/mdlens_dump/1/perfcounters_Basic.csv"⟩ =
        some ("Operation,GpuTime,EuActive,EuStall\n,ns,percent,percent\ncopy,7,,\n".toUTF8 ++
          "scale,,,,,,\n".toUTF8) := by
  have hsound : (scripted .computeBasic).disk.Sound := Disk.sound_empty
  have hfresh : (scripted .computeBasic).session = {} := rfl
  have hnames : ∀ op ∈ twoSets ++ [.write "scale" ⟨[], []⟩], op.IsPlain := by
    simp [twoSets, Op.IsPlain, scriptedRequest]
  have hfaultless :
      (runAll (twoSets ++ [.write "scale" ⟨[], []⟩]) (scripted .computeBasic)).IsFaultless := by
    decide +kernel
  have hfirst : firstLayout? ⟨"/tmp/mdlens_dump/1/perfcounters_Basic.csv"⟩
      (entriesOf twoSets (scripted .computeBasic)) =
        some ⟨.event, Driver.Script.computeBasic.metrics, Driver.Script.computeBasic.information,
          false⟩ := by
    decide +kernel
  obtain ⟨-, hdumps, -⟩ := appendOnly_runAll hsound hfresh twoSets [.write "scale" ⟨[], []⟩]
    hnames hfaultless
  obtain ⟨held, hheld, hbefore, hafter, -⟩ := hdumps _ _ hfirst
  have htext : held =
      "Operation,GpuTime,EuActive,EuStall\n,ns,percent,percent\ncopy,7,,\n".toUTF8 := by
    rw [hheld]
    decide +kernel
  refine ⟨hsound, hfresh, hnames, hfaultless, ?_, ?_⟩
  · rw [hbefore, htext]
  · rw [hafter, htext]
    decide +kernel

end Session

end GpuCounters
