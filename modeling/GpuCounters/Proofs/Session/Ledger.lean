import GpuCounters.Proofs.Dump.Writing
import GpuCounters.Proofs.Session.Frame

/-!
# The ledger of a session's dumps

A ledger is what a session's dumps are to hold, told from what was opened, written and closed and
from nothing else. As long as no dump fails, the disk and the buffer of the open dump hold what the
ledger says, and the rest of the disk is as it was.
-/

namespace GpuCounters

open Storage

variable {P : Driver.Provider} {C : Compute}

/-! ## Dumps that do not fail -/

def Log.Event.isDumpFault : Log.Event → Bool
  | .dumpFailed _ | .rowFailed _ | .flushFailed _ => true
  | _ => false

/-- Whether no dump has failed yet. -/
def System.IsFaultless (system : System P C) : Prop :=
  ∀ event ∈ system.log.toList, event.isDumpFault = false

instance (system : System P C) : Decidable system.IsFaultless :=
  inferInstanceAs (Decidable (∀ event ∈ system.log.toList, event.isDumpFault = false))

theorem System.Later.isFaultless {before after : System P C} (h : before.Later after)
    (hafter : after.IsFaultless) : before.IsFaultless :=
  fun event hevent ↦ hafter event (h.log.subset hevent)

theorem System.not_isFaultless_take {event : Log.Event} (h : event.isDumpFault = true)
    (system : System P C) : ¬ (system.take (.log event)).IsFaultless := by
  intro hfaultless
  have hevent := hfaultless event (by simp [System.take])
  rw [h] at hevent
  simp at hevent

namespace Session

/-! ## Ledgers -/

/-- What happens to the dumps of a session. -/
inductive Entry
  /-- The dump of a path is opened. -/
  | opened (path : Path) (layout : Dump.Layout)
  /-- A row is written to the open dump. -/
  | row (label : String) (report : Report)
  /-- The open dump is closed. -/
  | closed

/-- What the dumps of a session are to hold. -/
structure Ledger where
  /-- The paths of all dumps, in the order of their first opening -/
  opened : List Path := []
  /-- What is to be at each place, if a dump is -/
  volumes : Place → Option Dump.Volume := fun _ ↦ none
  /-- The path of the open dump, and the columns of its rows -/
  current? : Option (Path × Dump.RowShape) := none

namespace Ledger

/-- Whether the dump of a path was opened before. -/
def knows (ledger : Ledger) (path : Path) : Bool := ledger.opened.any path.same

def setVolume (ledger : Ledger) (place : Place) (volume : Dump.Volume) : Ledger :=
  { ledger with
    volumes := fun other ↦ if other = place then some volume else ledger.volumes other }

/-- The ledger with one more entry. The first opening of a path makes a volume of its header; later
ones go on with the volume that is there. -/
def record (ledger : Ledger) : Entry → Ledger
  | .opened path layout =>
    if ledger.knows path then { ledger with current? := some (path, layout.rowShape) }
    else
      { ledger.setVolume path.place layout.volume with
        opened := ledger.opened ++ [path]
        current? := some (path, layout.rowShape) }
  | .row label report =>
    match ledger.current? with
    | some (path, shape) =>
      match ledger.volumes path.place with
      | some volume => ledger.setVolume path.place (volume.push ⟨shape, label, report⟩)
      | none => ledger
    | none => ledger
  | .closed => { ledger with current? := none }

def recordAll (ledger : Ledger) (entries : List Entry) : Ledger := entries.foldl record ledger

@[simp] theorem recordAll_nil (ledger : Ledger) : ledger.recordAll [] = ledger := rfl

@[simp] theorem recordAll_cons (ledger : Ledger) (entry : Entry) (entries : List Entry) :
    ledger.recordAll (entry :: entries) = (ledger.record entry).recordAll entries := rfl

theorem recordAll_append (ledger : Ledger) (entries more : List Entry) :
    ledger.recordAll (entries ++ more) = (ledger.recordAll entries).recordAll more :=
  List.foldl_append

theorem volumes_setVolume_self (ledger : Ledger) (place : Place) (volume : Dump.Volume) :
    (ledger.setVolume place volume).volumes place = some volume := if_pos rfl

theorem volumes_setVolume_of_ne {place other : Place} (h : other ≠ place) (ledger : Ledger)
    (volume : Dump.Volume) :
    (ledger.setVolume place volume).volumes other = ledger.volumes other := if_neg h

/-! ### Rows of the open dump -/

section Rows

variable {ledger : Ledger} {path : Path} {shape : Dump.RowShape} {volume : Dump.Volume}

theorem record_row_of_none (hcurrent : ledger.current? = none) (label : String)
    (report : Report) : ledger.record (.row label report) = ledger := by
  simp only [record, hcurrent]

theorem record_row_of_volume_none (hcurrent : ledger.current? = some (path, shape))
    (hvolume : ledger.volumes path.place = none) (label : String) (report : Report) :
    ledger.record (.row label report) = ledger := by
  simp only [record, hcurrent, hvolume]

theorem record_row_of_volume (hcurrent : ledger.current? = some (path, shape))
    (hvolume : ledger.volumes path.place = some volume) (label : String) (report : Report) :
    ledger.record (.row label report) =
      ledger.setVolume path.place (volume.push ⟨shape, label, report⟩) := by
  simp only [record, hcurrent, hvolume]

end Rows

end Ledger

/-- What the dumps of a session are to hold after some entries. -/
def ledgerOf (entries : List Entry) : Ledger := ({} : Ledger).recordAll entries

theorem ledgerOf_append (entries more : List Entry) :
    ledgerOf (entries ++ more) = (ledgerOf entries).recordAll more :=
  Ledger.recordAll_append _ entries more

/-! ## Systems that agree with a ledger -/

/-- Whether the dumps of a system are what a ledger says, and everything else on its disk is what it
is on another disk. -/
structure Ledger.Describes (ledger : Ledger) (base : Disk) (system : System P C) : Prop where
  sound : system.disk.Sound
  opened : system.session.openedDumps = ledger.opened
  current : system.session.dump?.map (fun writer ↦ (writer.path, writer.shape)) = ledger.current?
  /-- The open dump was given its volume -/
  carries : ∀ writer ∈ system.session.dump?, ∃ volume,
    ledger.volumes writer.path.place = some volume ∧ writer.Carries volume system.disk
  /-- All other volumes are on the disk -/
  stored : ∀ place volume, ledger.volumes place = some volume →
    (∀ writer ∈ system.session.dump?, writer.path.place ≠ place) →
      system.disk.bytesAt? place = some volume.bytes
  others : ∀ place, ledger.volumes place = none → system.disk.bytesAt? place = base.bytesAt? place
  /-- Every path that was opened leads to its volume -/
  known : ∀ path ∈ ledger.opened, system.disk.locate path = .ok path.place ∧
    path.namesDirectory = false ∧ ∃ volume, ledger.volumes path.place = some volume

theorem Ledger.Describes.untouched {ledger : Ledger} {base : Disk} {before after : System P C}
    (h : ledger.Describes base before) (huntouched : before.Untouched after) :
    ledger.Describes base after := by
  obtain ⟨-, hdisk, hdump, hopened⟩ := huntouched
  refine ⟨?_, ?_, ?_, ?_, ?_, ?_, ?_⟩
  · rw [hdisk]
    exact h.sound
  · rw [hopened]
    exact h.opened
  · rw [hdump]
    exact h.current
  · rw [hdump, hdisk]
    exact h.carries
  · rw [hdump, hdisk]
    exact h.stored
  · rw [hdisk]
    exact h.others
  · rw [hdisk]
    exact h.known

section Steps

variable {ledger : Ledger} {base : Disk} {before after : System P C} {writer next : Dump.Writer}
  {volume : Dump.Volume}

/-- Work at one place, where the open dump is if there is one. If the ledger only changes there as
well, and has the volume that the dump there now holds, it says what the dumps are. -/
theorem Ledger.Describes.changedAt (h : ledger.Describes base before) {place : Place}
    (hbefore : ∀ writer ∈ before.session.dump?, writer.path.place = place)
    (hchanged : Disk.ChangedAt place before.disk after.disk) {changed : Ledger}
    (hself : changed.volumes place = some volume)
    (hothers : ∀ other, other ≠ place → changed.volumes other = ledger.volumes other)
    (hopened : after.session.openedDumps = changed.opened)
    (hknown : ∀ path ∈ changed.opened, path ∈ ledger.opened ∨
      after.disk.locate path = .ok path.place ∧ path.namesDirectory = false ∧ path.place = place)
    (hcurrent : after.session.dump?.map (fun writer ↦ (writer.path, writer.shape)) =
      changed.current?)
    (hafter : ∀ writer ∈ after.session.dump?, writer.path.place = place ∧
      writer.Carries volume after.disk)
    (hclosed : after.session.dump? = none → after.disk.bytesAt? place = some volume.bytes) :
    changed.Describes base after := by
  refine ⟨hchanged.sound, hopened, hcurrent, ?_, ?_, ?_, ?_⟩
  · intro writer hwriter
    obtain ⟨hplace, hcarries⟩ := hafter writer hwriter
    rw [hplace]
    exact ⟨volume, hself, hcarries⟩
  · intro other stored hstored hfree
    by_cases hother : other = place
    · rw [hother] at hstored hfree ⊢
      obtain rfl := Option.some.inj (hself.symm.trans hstored)
      apply hclosed
      rw [Option.eq_none_iff_forall_not_mem]
      exact fun writer hwriter ↦ hfree writer hwriter (hafter writer hwriter).1
    · rw [hothers other hother] at hstored
      rw [hchanged.others other hother]
      apply h.stored other stored hstored
      exact fun writer hwriter hat ↦ hother (hat.symm.trans (hbefore writer hwriter))
  · intro other hnone
    have hother : other ≠ place := by
      rintro rfl
      rw [hself] at hnone
      simp at hnone
    rw [hothers other hother] at hnone
    rw [hchanged.others other hother, h.others other hnone]
  · intro path hpath
    obtain hold | ⟨hlocated, hplain, hplace⟩ := hknown path hpath
    · obtain ⟨hlocated, hplain, found, hfound⟩ := h.known path hold
      refine ⟨hchanged.grows.locate hlocated, hplain, ?_⟩
      by_cases hplace : path.place = place
      · rw [hplace]
        exact ⟨volume, hself⟩
      · exact ⟨found, (hothers _ hplace).trans hfound⟩
    · refine ⟨hlocated, hplain, volume, ?_⟩
      rw [hplace]
      exact hself

/-- A change of the open dump's volume is a change at its place alone. -/
theorem Ledger.Describes.setVolume (h : ledger.Describes base before)
    (hdump : before.session.dump? = some writer) (hnext : after.session.dump? = some next)
    (hpath : next.path = writer.path) (hshape : next.shape = writer.shape)
    (hopened : after.session.openedDumps = before.session.openedDumps)
    (hchanged : Disk.ChangedAt writer.path.place before.disk after.disk)
    (hcarries : next.Carries volume after.disk) :
    (ledger.setVolume writer.path.place volume).Describes base after := by
  have hcurrent := h.current
  rw [hdump] at hcurrent
  refine h.changedAt ?_ hchanged (Ledger.volumes_setVolume_self ledger _ _)
    (fun _ hne ↦ Ledger.volumes_setVolume_of_ne hne ledger volume) (hopened.trans h.opened)
    (fun _ ↦ .inl) ?_ ?_ (by simp [hnext])
  · intro found hfound
    rw [hdump] at hfound
    obtain rfl := Option.some.inj hfound
    rfl
  · rw [hnext, Option.map_some, hpath, hshape]
    exact hcurrent
  · intro found hfound
    rw [hnext] at hfound
    obtain rfl := Option.some.inj hfound
    exact ⟨congrArg Path.place hpath, hcarries⟩

/-! ### Rows -/

/-- What writing a row to the open dump leaves behind. -/
theorem writeRow_of_dump {label : String} {report : Report}
    (hdump : before.session.dump? = some writer) {result : Except Dump.Error Unit} {later : Disk}
    (hwrite : writer.writeRow label report before.disk = (result, next, later)) :
    (writeRow label report before).2 =
      match result with
      | .ok () =>
        { before with
          disk := later
          session := { before.session with dump? := some next }
          telemetry := { before.telemetry with dumpRows := before.telemetry.dumpRows + 1 } }
      | .error cause =>
        System.take
          { before with disk := later, session := { before.session with dump? := some next } }
          (.log (.rowFailed cause)) := by
  unfold writeRow
  simp only [Run.bind_apply, Run.session_apply, Run.onDisk_apply, Run.modifySession_apply, hdump,
    hwrite]
  cases result <;> rfl

/-- A row without a dump is no more than a complaint. -/
theorem idle_writeRow_of_none {label : String} {report : Report}
    (hdump : before.session.dump? = none) :
    System.Idle before (writeRow label report before).2 := by
  unfold writeRow
  simp only [Run.bind_apply, Run.session_apply, hdump]
  by_cases hmissing : (!before.session.missingReported) = true
  · rw [if_pos hmissing]
    exact Run.Keeps.bind (Run.idle_log .dumpMissing)
      (fun _ _ ↦ ⟨⟨⟨rfl, rfl, List.prefix_refl _⟩, rfl, rfl, rfl⟩, rfl, rfl⟩) before
  · rw [if_neg hmissing]
    exact refl_of System.Idle before

theorem steady_writeRow (label : String) (report : Report) :
    Run.Keeps System.Steady (writeRow label report : Run P C Unit) := by
  intro before
  cases hdump : before.session.dump? with
  | none => exact (idle_writeRow_of_none hdump).toSteady
  | some writer =>
    rcases hwrite : writer.writeRow label report before.disk with ⟨result, next, later⟩
    rw [writeRow_of_dump hdump hwrite]
    cases result with
    | ok _ => exact ⟨⟨rfl, rfl, List.prefix_refl _⟩, rfl, rfl⟩
    | error cause =>
      have hwritten : System.Steady before
          { before with disk := later, session := { before.session with dump? := some next } } :=
        ⟨⟨rfl, rfl, List.prefix_refl _⟩, rfl, rfl⟩
      exact trans_of System.Steady hwritten (System.idle_take _ _).toSteady

theorem sameDriver_writeRow (label : String) (report : Report) :
    Run.Keeps System.SameDriver (writeRow label report : Run P C Unit) := by
  intro before
  cases hdump : before.session.dump? with
  | none =>
    unfold writeRow
    simp only [Run.bind_apply, Run.session_apply, hdump]
    by_cases hmissing : (!before.session.missingReported) = true
    · rw [if_pos hmissing]
      rfl
    · rw [if_neg hmissing]
      rfl
  | some writer =>
    rcases hwrite : writer.writeRow label report before.disk with ⟨result, next, later⟩
    rw [writeRow_of_dump hdump hwrite]
    cases result <;> rfl

/-- A row that is written without fault is a row of the ledger. -/
theorem Ledger.Describes.writeRow (h : ledger.Describes base before) {label : String}
    {report : Report} (hfaultless : (writeRow label report before).2.IsFaultless) :
    (ledger.record (.row label report)).Describes base
      (Session.writeRow label report before).2 := by
  have hcurrent := h.current
  cases hdump : before.session.dump? with
  | none =>
    rw [hdump, Option.map_none] at hcurrent
    rw [Ledger.record_row_of_none hcurrent.symm]
    exact h.untouched (idle_writeRow_of_none hdump).toUntouched
  | some writer =>
    obtain ⟨volume, hvolume, hcarries⟩ := h.carries writer hdump
    rw [hdump, Option.map_some] at hcurrent
    have hrecord := Ledger.record_row_of_volume hcurrent.symm hvolume label report
    rcases hwrite : writer.writeRow label report before.disk with ⟨result, next, later⟩
    have hafter := writeRow_of_dump hdump hwrite
    cases result with
    | error cause =>
      rw [hafter] at hfaultless
      exact absurd hfaultless (System.not_isFaultless_take rfl _)
    | ok _ =>
      obtain ⟨hnext, hpath, hshape, hchanged⟩ := hcarries.writeRow hwrite
      rw [hrecord, hafter]
      exact h.setVolume hdump rfl hpath hshape rfl hchanged hnext

/-! ### Opening -/

theorem hasOpened_eq (h : ledger.Describes base before) (path : Path) :
    hasOpened before.session path = ledger.knows path := by
  rw [hasOpened, h.opened, Ledger.knows]

theorem place_eq_of_same {path other : Path} (h : path.same other = true) :
    path.place = other.place := by
  have hsteps : path.steps = other.steps := by
    simp only [Path.same, Bool.and_eq_true, decide_eq_true_eq] at h
    exact h.2
  rw [Path.place, Path.place, hsteps]

def accessOf (session : Session P) (path : Path) : Disk.Access :=
  if hasOpened session path then .append else .overwrite

/-- What opening a dump leaves behind. -/
theorem openDump_eq {mode : Mode} {metricSet : String} {connection : P.Connection}
    {result : Except Dump.Error Dump.Writer} {later : Disk}
    (hstart : Dump.Writer.start (before.dumpFile metricSet) (layout mode connection)
      (accessOf before.session (before.dumpFile metricSet)) before.disk = (result, later)) :
    (openDump mode metricSet connection before).2 =
      match result with
      | .ok writer =>
        if hasOpened before.session (before.dumpFile metricSet) then
          { before.take (.log (.dumpReopened (before.dumpFile metricSet))) with
            disk := later
            session := { before.session with dump? := some writer } }
        else
          { before.take (.log (.dumpStarted (before.dumpFile metricSet))) with
            disk := later
            session := { before.session with
              dump? := some writer
              openedDumps := before.session.openedDumps ++ [before.dumpFile metricSet] } }
      | .error cause => System.take { before with disk := later } (.log (.dumpFailed cause)) := by
  unfold openDump
  unfold accessOf at hstart
  simp only [Run.bind_apply, Run.get_apply, Run.onDisk_apply, hstart]
  cases result with
  | error cause => rfl
  | ok writer => cases hasOpened before.session (before.dumpFile metricSet) <;> rfl

theorem steady_openDump (mode : Mode) (metricSet : String) (connection : P.Connection) :
    Run.Keeps System.Steady (openDump mode metricSet connection : Run P C Unit) := by
  intro before
  rcases hstart : Dump.Writer.start (before.dumpFile metricSet) (layout mode connection)
    (accessOf before.session (before.dumpFile metricSet)) before.disk with ⟨result, later⟩
  rw [openDump_eq hstart]
  cases result with
  | error cause =>
    have hopened : System.Steady before { before with disk := later } :=
      ⟨⟨rfl, rfl, List.prefix_refl _⟩, rfl, rfl⟩
    exact trans_of System.Steady hopened (System.idle_take _ _).toSteady
  | ok writer =>
    dsimp only
    split
    · exact ⟨⟨rfl, rfl, (System.later_take before _).log⟩, rfl, rfl⟩
    · exact ⟨⟨rfl, rfl, (System.later_take before _).log⟩, rfl, rfl⟩

/-- A dump that is gone on with is still what it was when it was closed. -/
theorem Ledger.Describes.reopened {path : Path} {dumpLayout : Dump.Layout}
    (h : ledger.Describes base before) (hdump : before.session.dump? = none)
    (hknows : ledger.knows path = true) (hnext : after.session.dump? = some next)
    (hopened : after.session.openedDumps = before.session.openedDumps)
    (hstarted : Dump.Writer.Started path dumpLayout .append before.disk next after.disk) :
    (ledger.record (.opened path dumpLayout)).Describes base after := by
  obtain ⟨other, hother, hsame⟩ := List.any_eq_true.1 hknows
  have hplace := place_eq_of_same hsame
  obtain ⟨-, -, volume, hvolume⟩ := h.known other hother
  rw [← hplace] at hvolume
  have hstored : before.disk.bytesAt? path.place = some volume.bytes := by
    apply h.stored path.place volume hvolume
    rw [hdump]
    simp
  have hkept : Disk.kept .append (before.disk.bytesAt? path.place) = volume.bytes := by
    rw [hstored]
    rfl
  have hcarries : next.Carries volume after.disk := by
    apply hstarted.carries volume
    rw [hkept, if_neg (Nat.ne_of_gt volume.size_bytes_pos)]
  have hrecord : ledger.record (.opened path dumpLayout) =
      { ledger with current? := some (path, dumpLayout.rowShape) } := if_pos hknows
  rw [hrecord]
  refine h.changedAt (by simp [hdump]) hstarted.changed hvolume (fun _ _ ↦ rfl)
    (hopened.trans h.opened) (fun _ ↦ .inl) ?_ ?_ ?_
  · rw [hnext, Option.map_some, hstarted.named, hstarted.shape]
  · intro found hfound
    rw [hnext] at hfound
    obtain rfl := Option.some.inj hfound
    exact ⟨congrArg Path.place hstarted.named, hcarries⟩
  · simp [hnext]

/-- A dump that is made anew is its header. -/
theorem Ledger.Describes.made {path : Path} {dumpLayout : Dump.Layout}
    (h : ledger.Describes base before) (hdump : before.session.dump? = none)
    (hknows : ledger.knows path = false) (hnext : after.session.dump? = some next)
    (hopened : after.session.openedDumps = before.session.openedDumps ++ [path])
    (hstarted : Dump.Writer.Started path dumpLayout .overwrite before.disk next after.disk) :
    (ledger.record (.opened path dumpLayout)).Describes base after := by
  have hcarries : next.Carries dumpLayout.volume after.disk := hstarted.carries _ rfl
  have hrecord : ledger.record (.opened path dumpLayout) =
      { ledger.setVolume path.place dumpLayout.volume with
        opened := ledger.opened ++ [path]
        current? := some (path, dumpLayout.rowShape) } := if_neg (by simp [hknows])
  rw [hrecord]
  refine h.changedAt (by simp [hdump]) hstarted.changed
    (Ledger.volumes_setVolume_self ledger path.place dumpLayout.volume)
    (fun _ hne ↦ Ledger.volumes_setVolume_of_ne hne ledger _) ?_ ?_ ?_ ?_ ?_
  · rw [hopened, h.opened]
  · intro known hknown
    obtain hold | hnew := List.mem_append.1 hknown
    · exact .inl hold
    · obtain rfl := List.mem_singleton.1 hnew
      have hlocated := hcarries.located
      have hplain := hcarries.plain
      rw [hstarted.named] at hlocated hplain
      exact .inr ⟨hlocated, hplain, rfl⟩
  · rw [hnext, Option.map_some, hstarted.named, hstarted.shape]
  · intro found hfound
    rw [hnext] at hfound
    obtain rfl := Option.some.inj hfound
    exact ⟨congrArg Path.place hstarted.named, hcarries⟩
  · simp [hnext]

/-- A dump that is opened without fault is one of the ledger. -/
theorem Ledger.Describes.openDump {mode : Mode} {metricSet : String} {connection : P.Connection}
    (h : ledger.Describes base before) (hdump : before.session.dump? = none)
    (hfaultless : (openDump mode metricSet connection before).2.IsFaultless) :
    (ledger.record (.opened (before.dumpFile metricSet) (layout mode connection))).Describes base
      (Session.openDump mode metricSet connection before).2 := by
  rcases hstart : Dump.Writer.start (before.dumpFile metricSet) (layout mode connection)
    (accessOf before.session (before.dumpFile metricSet)) before.disk with ⟨result, later⟩
  have hafter := openDump_eq hstart
  cases result with
  | error cause =>
    rw [hafter] at hfaultless
    exact absurd hfaultless (System.not_isFaultless_take rfl _)
  | ok writer =>
    have hstarted := Dump.Writer.started_of_start h.sound hstart
    unfold accessOf at hstarted
    rw [hafter]
    cases hknows : hasOpened before.session (before.dumpFile metricSet) with
    | true =>
      rw [hknows, if_pos rfl] at hstarted
      rw [hasOpened_eq h] at hknows
      exact h.reopened hdump hknows rfl rfl hstarted
    | false =>
      rw [hknows, if_neg (by simp)] at hstarted
      rw [hasOpened_eq h] at hknows
      exact h.made hdump hknows rfl rfl hstarted

/-! ### Closing -/

theorem closeDump_of_none (hdump : before.session.dump? = none) :
    (closeDump before).2 = before := by
  unfold closeDump
  simp only [Run.bind_apply, Run.session_apply, hdump]
  rfl

/-- What finishing the open dump leaves behind. -/
theorem closeDump_of_dump (hdump : before.session.dump? = some writer)
    {result : Except Dump.Error Unit} {later : Disk}
    (hflush : writer.flush before.disk = (result, next, later)) :
    (closeDump before).2 =
      { before.take (.log (match result with
          | .ok () => .dumpClosed next.path next.rows
          | .error cause => .flushFailed cause)) with
        disk := next.close later
        session := { before.session with dump? := none } } := by
  unfold closeDump
  simp only [Run.bind_apply, Run.session_apply, Run.onDisk_apply, Run.modifySession_apply, hdump,
    hflush]
  cases result <;> rfl

theorem steady_closeDump : Run.Keeps System.Steady (closeDump : Run P C Unit) := by
  intro before
  cases hdump : before.session.dump? with
  | none =>
    rw [closeDump_of_none hdump]
    exact refl_of System.Steady before
  | some writer =>
    rcases hflush : writer.flush before.disk with ⟨result, next, later⟩
    rw [closeDump_of_dump hdump hflush]
    exact ⟨⟨rfl, rfl, (System.later_take before _).log⟩, rfl, rfl⟩

/-- A dump that is closed without fault is on the disk as a whole. -/
theorem Ledger.Describes.closeDump (h : ledger.Describes base before)
    (hfaultless : (closeDump before).2.IsFaultless) :
    (ledger.record .closed).Describes base (Session.closeDump before).2 := by
  cases hdump : before.session.dump? with
  | none =>
    have hcurrent := h.current
    rw [hdump, Option.map_none] at hcurrent
    have hrecord : ledger.record .closed = ledger := by
      rw [Ledger.record, hcurrent]
    rw [closeDump_of_none hdump, hrecord]
    exact h
  | some writer =>
    obtain ⟨volume, hvolume, hcarries⟩ := h.carries writer hdump
    rcases hflush : writer.flush before.disk with ⟨result, next, later⟩
    have hafter := closeDump_of_dump hdump hflush
    cases result with
    | error cause =>
      rw [hafter] at hfaultless
      have hfault : Log.Event.isDumpFault (.flushFailed cause) = true := rfl
      exact absurd hfaultless (System.not_isFaultless_take hfault before)
    | ok _ =>
      obtain ⟨hnext, hpath, -, hpending, hchanged⟩ := hcarries.flush hflush
      have hclose : next.close later = later := Output.close_of_pending hpending later
      have hwritten : later.bytesAt? writer.path.place = some volume.bytes := by
        rw [← hpath]
        exact hnext.bytesAt?_of_pending hpending
      rw [hafter, hclose]
      refine h.changedAt ?_ hchanged hvolume (fun _ _ ↦ rfl) h.opened (fun _ ↦ .inl) rfl (by simp)
        (fun _ ↦ hwritten)
      intro found hfound
      rw [hdump] at hfound
      obtain rfl := Option.some.inj hfound
      rfl

end Steps

end Session

end GpuCounters
