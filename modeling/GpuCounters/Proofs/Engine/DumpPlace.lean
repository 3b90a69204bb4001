import GpuCounters.Proofs.Dump.Location
import GpuCounters.Proofs.Engine.Steps
import GpuCounters.Proofs.Session.Lifecycle
import GpuCounters.Proofs.Session.Talk

/-!
# The place of an engine's dump

The name of a metric set that settings may have is one name in the directory of dumps. An engine
opens the dump of that name and no other one, and whatever it does, and whatever fails meanwhile, no
other file changes.
-/

namespace GpuCounters.Engine

open Storage Disk GpuCounters.System GpuCounters.Run Session

variable {P : Driver.Provider} {C : Compute} {α : Type}

/-! ## Invariants of dumps -/

/-- Whether an invariant only regards the disk and the dumps, and is kept to by all that is done to
dumps: they are opened where none is open, take rows and are closed. -/
structure KeepsDumps (settings : Settings) (invariant : System P C → Prop) : Prop where
  untouched : ∀ {before after : System P C}, Untouched before after → invariant before →
    invariant after
  openDump : ∀ (mode : Mode) (connection : P.Connection) (system : System P C),
    system.session.dump? = none → invariant system →
      invariant (openDump mode settings.metricSet connection system).2
  writeRow : ∀ (label : String) (report : Report),
    Keeps (Preserves invariant) (writeRow label report : Run P C Unit)
  closeDump : Keeps (Preserves invariant) (closeDump : Run P C Unit)

namespace KeepsDumps

variable {settings : Settings} {invariant : System P C → Prop}

theorem keeps (h : KeepsDumps settings invariant) {run : Run P C α} (hrun : Keeps Untouched run) :
    Keeps (Preserves invariant) run :=
  fun system ↦ h.untouched (hrun system)

theorem keeps_idle (h : KeepsDumps settings invariant) {run : Run P C α} (hrun : Keeps Idle run) :
    Keeps (Preserves invariant) run :=
  h.keeps hrun.untouched

theorem withDriver (h : KeepsDumps settings invariant) {act : Active P → Run P C α}
    (hact : ∀ active, Keeps (Preserves invariant) (act active)) :
    Keeps (Preserves invariant) (Run.withDriver act) :=
  Keeps.withDriver (fun _ _ hidle ↦ h.untouched hidle.toUntouched) hact

theorem start (h : KeepsDumps settings invariant) :
    Keeps (Preserves invariant) (Engine.start settings : Run P C (Except Session.Error Unit)) := by
  have hlive : ∀ connection : P.Connection,
      Keeps (Preserves invariant) (goLive settings.request connection :
        Run P C (Except Session.Error Unit)) := by
    intro connection
    have hactivate : Keeps (Preserves invariant) (do
        modifySession (activated settings.request connection)
        return .ok () : Run P C (Except Session.Error Unit)) :=
      Keeps.bind (h.keeps fun system ↦ (modifySession_activated settings.request connection
        system).1) fun _ ↦ Keeps.pure _
    intro system hsystem
    unfold goLive
    rw [bind_apply, session_apply]
    by_cases hdump : system.session.dump?.isNone = true
    · have hopened := h.openDump settings.request.mode connection system
        (Option.isNone_iff_eq_none.1 hdump) hsystem
      rw [if_pos hdump, bind_apply]
      exact hactivate _ hopened
    · rw [if_neg hdump]
      exact hactivate system hsystem
  unfold Engine.start ensureInitialized
  refine Keeps.bind Keeps.session fun session ↦ ?_
  split
  · split <;> exact Keeps.pure _
  · refine Keeps.bind (h.keeps_idle (idle_connect _)) fun result ↦ ?_
    cases result with
    | error cause => exact Keeps.pure _
    | ok connection =>
      dsimp only
      split
      · exact Keeps.bind (h.keeps_idle (idle_openStream connection)) fun _ ↦ hlive connection
      · exact hlive connection

theorem sampleEvent (h : KeepsDumps settings invariant) (operation : String) (event : Event) :
    Keeps (Preserves invariant)
      (Session.sampleEvent operation event : Run P C Session.SampleOutcome) := by
  have hread : ∀ active : Active P,
      Keeps (Preserves invariant) (readEvent operation event active :
        Run P C (Except SampleOutcome Report)) := by
    intro active
    unfold readEvent
    split
    · exact Keeps.bind (h.keeps_idle (idle_log _)) fun _ ↦ Keeps.pure _
    · refine Keeps.bind Keeps.get fun system ↦
        Keeps.bind (h.keeps_idle (idle_query operation event _)) fun result ↦ ?_
      cases result with
      | error status => exact Keeps.pure _
      | ok info =>
        refine Keeps.bind (h.keeps_idle (idle_decode _ _)) fun report ↦ ?_
        split
        · exact Keeps.bind (h.keeps_idle (idle_count _)) fun _ ↦ Keeps.pure _
        · exact Keeps.bind (h.writeRow operation report) fun _ ↦ Keeps.pure _
  unfold Session.sampleEvent
  refine Keeps.bind (h.withDriver hread) fun outcome ↦ ?_
  rcases outcome with _ | _ | report
  · exact Keeps.pure _
  · exact Keeps.pure _
  · have hsummed : Keeps Untouched (modifySession fun session ↦
        { session with aggregator := session.aggregator.add operation report } : Run P C Unit) :=
      fun _ ↦ ⟨⟨rfl, rfl, List.prefix_refl _⟩, rfl, rfl, rfl⟩
    exact Keeps.bind (h.keeps hsummed) fun _ ↦ Keeps.bind (h.keeps_idle (idle_count _)) fun _ ↦
      Keeps.pure _

/-- The induction is on the fuel: each round asks the driver and writes some rows. -/
theorem drainLoop (h : KeepsDumps settings invariant) (connection : P.Connection) (fuel : Nat) :
    Keeps (Preserves invariant) (Session.drainLoop connection fuel : Run P C Nat) := by
  have htake : Keeps (Preserves invariant) (takeReports connection : Run P C Nat) :=
    Keeps.bind (h.keeps_idle (idle_askDriver _)) fun reports ↦
      Keeps.bind (h.keeps_idle (idle_askDriver _)) fun values ↦
      Keeps.bind (h.keeps_idle (idle_log _)) fun _ ↦
      Keeps.bind (Talk.writeReports h.writeRow values reports) fun _ ↦
      Keeps.bind (h.keeps_idle (idle_note _)) fun _ ↦
      Keeps.bind (h.keeps_idle (idle_askDriver _)) fun _ ↦ Keeps.pure _
  induction fuel with
  | zero => exact Keeps.pure _
  | succ fuel ih =>
    unfold Session.drainLoop
    refine Keeps.bind (h.keeps_idle (idle_note _)) fun _ ↦
      Keeps.bind (h.keeps_idle (idle_askDriver _)) fun found ↦ ?_
    split
    · exact Keeps.bind htake fun _ ↦ Keeps.bind ih fun _ ↦ Keeps.pure _
    · exact Keeps.pure _

theorem drainStream (h : KeepsDumps settings invariant) :
    Keeps (Preserves invariant) (Session.drainStream : Run P C Nat) := by
  have hactive : ∀ active : Active P,
      Keeps (Preserves invariant) (drainActive active : Run P C Nat) := by
    intro active
    unfold drainActive
    split
    · exact Keeps.bind (h.keeps_idle (idle_log _)) fun _ ↦ Keeps.pure _
    · refine Keeps.bind Keeps.get fun system ↦
        Keeps.bind (h.drainLoop active.connection _) fun drained ↦ ?_
      dsimp only
      split
      · exact Keeps.bind (h.keeps_idle (idle_count _)) fun _ ↦ Keeps.pure _
      · exact Keeps.pure _
  exact Keeps.bind (h.withDriver hactive) fun _ ↦ Keeps.pure _

theorem close (h : KeepsDumps settings invariant) :
    Keeps (Preserves invariant) (Session.close : Run P C Unit) := by
  have hflag : Keeps Untouched (modifySession fun session ↦
      { session with missingReported := false } : Run P C Unit) :=
    fun _ ↦ ⟨⟨rfl, rfl, List.prefix_refl _⟩, rfl, rfl, rfl⟩
  exact Keeps.bind h.closeDump fun _ ↦ Keeps.bind (h.keeps untouched_disconnect) fun _ ↦
    h.keeps hflag

/-- What is kept to by all that is done to dumps is kept to by an engine. -/
theorem parts (h : KeepsDumps settings invariant) :
    KeepsParts settings (Preserves invariant) where
  start := h.start
  create context device bits := h.keeps_idle (Queue.idle_create context device bits)
  createWithProperties context device properties :=
    h.keeps_idle (Queue.idle_createWithProperties context device properties)
  sample := h.sampleEvent
  drain := h.drainStream
  close := h.close
  log event := h.keeps_idle (idle_log event)
  outside driver compute system := by
    have huntouched : Untouched system (Op.run settings (.outside driver compute) system).2 :=
      ⟨⟨rfl, rfl, List.prefix_refl _⟩, rfl, rfl, rfl⟩
    exact h.untouched huntouched

end KeepsDumps

/-! ## One dump -/

/-- Whether a system has opened one dump at most, the one of a path. -/
structure OpensOnly (settings : Settings) (path : Path) (system : System P C) : Prop where
  file : system.dumpFile settings.metricSet = path
  current : ∀ other ∈ system.dumpPath?, other = path
  opened : ∀ other ∈ system.session.openedDumps, other = path

/-- Whether a system has opened one dump at most, the one of a path, and has changed no other file
of a disk. -/
structure ChangesOnly (settings : Settings) (path : Path) (base : Disk) (system : System P C) : Prop
    extends OpensOnly settings path system where
  changed : ChangedAt path.place base system.disk
  /-- The dump still writes to the file that it was opened as -/
  holds : ∀ writer ∈ system.session.dump?, ∃ bytes, writer.Holds bytes system.disk

variable {settings : Settings} {path : Path} {base : Disk} {before after : System P C}

theorem OpensOnly.mono (h : OpensOnly settings path before) (hlater : Later before after)
    (hcurrent : ∀ other ∈ after.dumpPath?, other ∈ before.dumpPath?)
    (hopened : after.session.openedDumps = before.session.openedDumps) :
    OpensOnly settings path after := by
  refine ⟨(dumpFile_eq hlater _).trans h.file, fun other hother ↦ ?_, ?_⟩
  · exact h.current other (hcurrent other hother)
  · rw [hopened]
    exact h.opened

theorem OpensOnly.untouched (h : OpensOnly settings path before)
    (huntouched : Untouched before after) : OpensOnly settings path after := by
  apply h.mono huntouched.toLater _ huntouched.opened
  rw [System.dumpPath?, huntouched.dump]
  exact fun _ hother ↦ hother

theorem ChangesOnly.untouched (h : ChangesOnly settings path base before)
    (huntouched : Untouched before after) : ChangesOnly settings path base after := by
  refine ⟨h.toOpensOnly.untouched huntouched, ?_, ?_⟩
  · rw [huntouched.disk]
    exact h.changed
  · rw [huntouched.dump, huntouched.disk]
    exact h.holds

/-- The path of an open dump is the one path that there is. -/
theorem OpensOnly.path_eq (h : OpensOnly settings path before) {writer : Dump.Writer}
    (hdump : before.session.dump? = some writer) : writer.path = path := by
  apply h.current
  rw [System.dumpPath?, hdump]
  rfl

/-! ### Opening -/

section Opening

variable (hdump : before.session.dump? = none) (mode : Mode) (connection : P.Connection)

include hdump

/-- A dump that is opened is the one of the path, and so it is when it is opened again. -/
theorem OpensOnly.openDump (h : OpensOnly settings path before) :
    OpensOnly settings path (openDump mode settings.metricSet connection before).2 := by
  have hlater := (steady_openDump mode settings.metricSet connection before).toLater
  have hpath := path_openDump hdump mode settings.metricSet connection
  rw [h.file] at hpath
  refine ⟨(dumpFile_eq hlater _).trans h.file, ?_, ?_⟩
  · intro other hother
    obtain ⟨writer, hwriter, rfl⟩ := Option.map_eq_some_iff.1 hother
    exact hpath writer hwriter
  · rcases hstart : Dump.Writer.start (before.dumpFile settings.metricSet) (layout mode connection)
      (accessOf before.session (before.dumpFile settings.metricSet)) before.disk with
      ⟨result, later⟩
    rw [openDump_eq hstart]
    cases result with
    | error cause => exact h.opened
    | ok writer =>
      dsimp only
      split
      · exact h.opened
      · intro other hother
        rcases List.mem_append.1 hother with hold | hadded
        · exact h.opened other hold
        · rw [List.mem_singleton.1 hadded, h.file]

/-- To open the dump changes its file alone, also if it fails. -/
theorem ChangesOnly.openDump (h : ChangesOnly settings path base before) :
    ChangesOnly settings path base
      (openDump mode settings.metricSet connection before).2 := by
  have hopens := h.toOpensOnly.openDump hdump mode connection
  rcases hstart : Dump.Writer.start (before.dumpFile settings.metricSet) (layout mode connection)
    (accessOf before.session (before.dumpFile settings.metricSet)) before.disk with
    ⟨result, later⟩
  have hchanged := Dump.Writer.changedAt_of_start h.changed.sound hstart
  rw [h.file] at hchanged
  rw [openDump_eq hstart] at hopens ⊢
  cases result with
  | error cause =>
    refine ⟨hopens, h.changed.trans hchanged, ?_⟩
    intro writer (hwriter : before.session.dump? = some writer)
    rw [hdump] at hwriter
    cases hwriter
  | ok writer =>
    have hholds := (Dump.Writer.begun_of_start h.changed.sound hstart).holds
    dsimp only at hopens ⊢
    split at hopens
    · rename_i hknown
      rw [if_pos hknown]
      refine ⟨hopens, h.changed.trans hchanged, ?_⟩
      rintro _ ⟨⟩
      exact ⟨_, hholds⟩
    · rename_i hnew
      rw [if_neg hnew]
      refine ⟨hopens, h.changed.trans hchanged, ?_⟩
      rintro _ ⟨⟩
      exact ⟨_, hholds⟩

end Opening

/-! ### Rows -/

theorem OpensOnly.writeRow (h : OpensOnly settings path before) (label : String)
    (report : Report) : OpensOnly settings path (writeRow label report before).2 := by
  cases hdump : before.session.dump? with
  | none => exact h.untouched (idle_writeRow_of_none hdump).toUntouched
  | some writer =>
    have hlater := (steady_writeRow label report before).toLater
    rcases hwrite : writer.writeRow label report before.disk with ⟨result, next, later⟩
    rw [writeRow_of_dump hdump hwrite] at hlater ⊢
    apply h.mono hlater
    · intro other hother
      rw [System.dumpPath?, hdump, Option.map_some, ← path_writeRow hwrite]
      cases result <;> exact hother
    · cases result <;> rfl

theorem ChangesOnly.writeRow (h : ChangesOnly settings path base before) (label : String)
    (report : Report) : ChangesOnly settings path base (writeRow label report before).2 := by
  cases hdump : before.session.dump? with
  | none => exact h.untouched (idle_writeRow_of_none hdump).toUntouched
  | some writer =>
    obtain ⟨bytes, hholds⟩ := h.holds writer hdump
    have hopens := h.toOpensOnly.writeRow label report
    rcases hwrite : writer.writeRow label report before.disk with ⟨result, next, later⟩
    obtain ⟨hnext, -, -, hchanged⟩ := hholds.writeRow hwrite
    rw [h.path_eq hdump] at hchanged
    rw [writeRow_of_dump hdump hwrite] at hopens ⊢
    refine ⟨hopens, ?_, ?_⟩
    · cases result <;> exact h.changed.trans hchanged
    · cases result <;> (rintro _ ⟨⟩; exact ⟨_, hnext⟩)

/-! ### Closing -/

theorem OpensOnly.closeDump (h : OpensOnly settings path before) :
    OpensOnly settings path (closeDump before).2 := by
  cases hdump : before.session.dump? with
  | none =>
    rw [closeDump_of_none hdump]
    exact h
  | some writer =>
    have hlater := (steady_closeDump before).toLater
    rcases hflush : writer.flush before.disk with ⟨result, next, later⟩
    rw [closeDump_of_dump hdump hflush] at hlater ⊢
    apply h.mono hlater _ rfl
    rintro other ⟨⟩

theorem ChangesOnly.closeDump (h : ChangesOnly settings path base before) :
    ChangesOnly settings path base (closeDump before).2 := by
  cases hdump : before.session.dump? with
  | none =>
    rw [closeDump_of_none hdump]
    exact h
  | some writer =>
    obtain ⟨bytes, hholds⟩ := h.holds writer hdump
    have hopens := h.toOpensOnly.closeDump
    rcases hflush : writer.flush before.disk with ⟨result, next, later⟩
    obtain ⟨hnext, hpath, -, -, hchanged⟩ := hholds.flush hflush
    obtain ⟨last, hclosed⟩ := Dump.Writer.took_of_close hnext.atEnd
    have hclosedChanged := Dump.Writer.changedAt_of_took hclosed hnext.sound hnext.node
    rw [hpath, h.path_eq hdump] at hclosedChanged
    rw [h.path_eq hdump] at hchanged
    rw [closeDump_of_dump hdump hflush] at hopens ⊢
    exact ⟨hopens, h.changed.trans (hchanged.trans hclosedChanged), by rintro _ ⟨⟩⟩

/-! ### Runs -/

theorem keepsDumps_opensOnly :
    KeepsDumps settings (OpensOnly (P := P) (C := C) settings path) where
  untouched huntouched h := h.untouched huntouched
  openDump mode connection _ hdump h := h.openDump hdump mode connection
  writeRow label report _ h := h.writeRow label report
  closeDump _ h := h.closeDump

theorem keepsDumps_changesOnly :
    KeepsDumps settings (ChangesOnly (P := P) (C := C) settings path base) where
  untouched huntouched h := h.untouched huntouched
  openDump mode connection _ hdump h := h.openDump hdump mode connection
  writeRow label report _ h := h.writeRow label report
  closeDump _ h := h.closeDump

/-- What others do to the disk does not matter for the dumps that are opened. -/
theorem OpensOnly.amid (h : OpensOnly settings path before)
    (steps : List ((Disk → Disk) × Op P C)) :
    OpensOnly settings path (Run.amid (Op.run settings) steps before) := by
  have hdisk : ∀ (system : System P C) (disk : Disk),
      Preserves (OpensOnly settings path) system { system with disk } :=
    fun _ _ h ↦ ⟨h.file, h.current, h.opened⟩
  exact Keeps.amid hdisk keepsDumps_opensOnly.parts.run steps before h

/-- The induction is on the operations. -/
theorem ChangesOnly.runAll (h : ChangesOnly settings path base before) (ops : List (Op P C)) :
    ChangesOnly settings path base (Engine.runAll settings ops before) := by
  induction ops generalizing before with
  | nil => exact h
  | cons op ops ih => exact ih (keepsDumps_changesOnly.parts.run op before h)

/-! ## The place of the dump -/

theorem components_dumpFile (hvalid : settings.IsValid) (system : System P C) :
    (system.dumpFile settings.metricSet).components =
      (Dump.directory system.dumpRoot system.process).components ++
        [.name (Dump.fileName settings.metricSet)] :=
  Path.components_join (Dump.isName_fileName (slash_notMem_metricSet hvalid)) _

/-- Metric sets of two names have dumps of two paths. -/
theorem components_dumpFile_ne {other : Settings} (hvalid : settings.IsValid)
    (hother : other.IsValid) (h : other.metricSet ≠ settings.metricSet) (system : System P C) :
    (system.dumpFile other.metricSet).components ≠
      (system.dumpFile settings.metricSet).components := by
  rw [components_dumpFile hvalid, components_dumpFile hother]
  intro hsame
  have hname := Component.name.inj (List.singleton_inj.1 (List.append_cancel_left hsame))
  exact h (Dump.fileName_injective hname)

theorem place_dumpFile_ne {other : Settings} (hvalid : settings.IsValid)
    (hother : other.IsValid) (h : other.metricSet ≠ settings.metricSet) (system : System P C) :
    (system.dumpFile other.metricSet).place ≠ (system.dumpFile settings.metricSet).place := by
  intro hsame
  have hpath := (isPlain_dumpFile hother system).eq_of_place (isPlain_dumpFile hvalid system) hsame
  exact components_dumpFile_ne hvalid hother h system (congrArg Path.components hpath)

theorem opensOnly_of_fresh (settings : Settings) {system : System P C}
    (hfresh : system.session = {}) :
    OpensOnly settings (system.dumpFile settings.metricSet) system := by
  refine ⟨rfl, ?_, ?_⟩
  · rw [System.dumpPath?, hfresh]
    rintro _ ⟨⟩
  · rw [hfresh]
    rintro _ ⟨⟩

theorem changesOnly_of_fresh (settings : Settings) {system : System P C}
    (hfresh : system.session = {}) (hsound : system.disk.Sound) :
    ChangesOnly settings (system.dumpFile settings.metricSet) system.disk system := by
  refine ⟨opensOnly_of_fresh settings hfresh, ⟨Grows.refl _, hsound, fun _ _ ↦ rfl⟩, ?_⟩
  rw [hfresh]
  rintro _ ⟨⟩

/-- Dumps stay inside the directory of dumps. The dump of valid settings is that directory and one
name, which is not one of the names that lead elsewhere; settings with another metric set have
another dump. Whatever an engine with the settings is asked for, and whatever others do to the disk
in between, it opens no dump but this one. If nobody else changes the disk, no other file is made or
changed. -/
theorem dump_stays_in_directory (hvalid : settings.IsValid) {system : System P C}
    (hfresh : system.session = {}) :
    let directory := Dump.directory system.dumpRoot system.process
    let name := "perfcounters_" ++ settings.metricSet ++ ".csv"
    let path := system.dumpFile settings.metricSet
    path.components = directory.components ++ [.name name] ∧
      path.place = directory.place ++ [name] ∧
      name ≠ "." ∧ name ≠ ".." ∧
      (∀ other : Settings, other.IsValid → other.metricSet ≠ settings.metricSet →
        (system.dumpFile other.metricSet).components ≠ path.components ∧
          (system.dumpFile other.metricSet).place ≠ path.place) ∧
      (∀ steps : List ((Disk → Disk) × Op P C),
        let now := Run.amid (Op.run settings) steps system
        (∀ opened ∈ now.dumpPath?, opened = path) ∧
          ∀ opened ∈ now.session.openedDumps, opened = path) ∧
      (system.disk.Sound → ∀ ops : List (Op P C),
        ChangedAt path.place system.disk (Engine.runAll settings ops system).disk) := by
  intro directory name path
  have hclean := slash_notMem_metricSet hvalid
  have hname := Dump.isName_fileName hclean
  refine ⟨components_dumpFile hvalid system, Dump.place_file directory hclean, hname.here,
    hname.up, ?_, ?_, ?_⟩
  · exact fun other hother h ↦ ⟨components_dumpFile_ne hvalid hother h system,
      place_dumpFile_ne hvalid hother h system⟩
  · intro steps now
    have hopens := (opensOnly_of_fresh settings hfresh).amid steps
    exact ⟨hopens.current, hopens.opened⟩
  · exact fun hsound ops ↦ ((changesOnly_of_fresh settings hfresh hsound).runAll ops).changed

/-- A metric set that is named after the directory above has a dump of its own. -/
theorem dump_stays_in_directory_dots :
    let settings : Settings := { metricSet := ".." }
    let system := scripted kernelScript
    let path : Path := ⟨"/tmp/mdlens_dump/1/perfcounters_...csv"⟩
    settings.IsValid ∧ system.session = {} ∧ system.disk.Sound ∧
      (runAll settings twoKernels system).session.openedDumps = [path] ∧
      path.components =
        [.root, .name "tmp", .name "mdlens_dump", .name "1", .name "perfcounters_...csv"] ∧
      ChangedAt path.place system.disk (runAll settings twoKernels system).disk := by
  intro settings system path
  have hvalid : settings.IsValid := by decide +kernel
  have hsound : system.disk.Sound := sound_empty
  have hopened : (runAll settings twoKernels system).session.openedDumps = [path] := by
    decide +kernel
  have hpath : system.dumpFile settings.metricSet = path := by decide +kernel
  have hdirectory : (Dump.directory system.dumpRoot system.process).components =
      [.root, .name "tmp", .name "mdlens_dump", .name "1"] := by decide +kernel
  obtain ⟨hcomponents, -, -, -, -, -, hchanged⟩ :=
    dump_stays_in_directory hvalid (rfl : system.session = {})
  rw [hpath] at hcomponents hchanged
  refine ⟨hvalid, rfl, hsound, hopened, ?_, hchanged hsound twoKernels⟩
  rw [hcomponents, hdirectory]
  decide +kernel

end GpuCounters.Engine
