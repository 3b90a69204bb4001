import GpuCounters.Proofs.Session.Draining
import GpuCounters.Proofs.Session.Lifecycle

/-!
# Rows of a session

Whatever a disk makes of them, the rows that a session writes are told by the reports it found: one
for each sample with a value, and one for each report of a drain. Each is written once and in order,
and nothing else is done to the open dump, whose columns are always those of the live driver.
-/

namespace GpuCounters.Session

open Storage GpuCounters.System GpuCounters.Run

variable {P : Driver.Provider} {C : Compute}

/-! ## Writing rows -/

/-- The dump and the disk once a report was written as a row; without a dump nothing is. -/
def writeOne : Option Dump.Writer × Disk → String × Report → Option Dump.Writer × Disk
  | (some writer, disk), (label, report) => (writer.writeRow label report disk).2.map some id
  | (none, disk), _ => (none, disk)

/-- The dump and the disk once reports were written as rows, in order. -/
def writeAll (rows : List (String × Report)) (dump : Option Dump.Writer × Disk) :
    Option Dump.Writer × Disk :=
  rows.foldl writeOne dump

/-- A row that is written is its line, behind what was there before. -/
theorem took_writeRow {writer next : Dump.Writer} {label : String} {report : Report}
    {disk later : Disk} (hend : writer.output.handle.AtEnd disk)
    (hwrite : writer.writeRow label report disk = (.ok (), next, later)) :
    writer.output.Took (Dump.lineBytes [writer.shape.line label report]) disk next.output
      later := by
  unfold Dump.Writer.writeRow at hwrite
  split at hwrite
  · rename_i output disk' hline
    simp only [Prod.mk.injEq, true_and] at hwrite
    obtain ⟨rfl, rfl⟩ := hwrite
    rw [Dump.lineBytes_singleton]
    exact Output.took_of_writeLine hend hline
  · simp at hwrite

theorem content_writeRow {writer next : Dump.Writer} {label : String} {report : Report}
    {disk later : Disk} (hend : writer.output.handle.AtEnd disk)
    (hwrite : writer.writeRow label report disk = (.ok (), next, later)) :
    next.output.content later = writer.output.content disk ++
      ((String.ofList (writer.shape.line label report)).toUTF8 ++ "\n".toUTF8) := by
  rw [← Dump.lineBytes_singleton]
  exact (took_writeRow hend hwrite).content

/-- Whether exactly these rows were written to the open dump, with the same live driver. -/
structure Writes (rows : List (String × Report)) (before after : System P C) : Prop where
  dump : (after.session.dump?, after.disk) = writeAll rows (before.session.dump?, before.disk)
  active : after.session.active? = before.session.active?

variable {rows more : List (String × Report)} {first second third : System P C}

theorem Writes.trans (h : Writes rows first second) (hmore : Writes more second third) :
    Writes (rows ++ more) first third := by
  refine ⟨?_, hmore.active.trans h.active⟩
  rw [hmore.dump, h.dump, writeAll, writeAll, writeAll, List.foldl_append]

theorem Writes.of_idle (h : Idle first second) : Writes [] first second :=
  ⟨Prod.ext h.dump h.disk, h.active⟩

theorem Writes.idle_left (hidle : Idle first second) (h : Writes rows second third) :
    Writes rows first third := (Writes.of_idle hidle).trans h

theorem Writes.idle_right (h : Writes rows first second) (hidle : Idle second third) :
    Writes rows first third := by
  have hboth := h.trans (.of_idle hidle)
  rwa [List.append_nil] at hboth

theorem writes_writeRow (label : String) (report : Report) (system : System P C) :
    Writes [(label, report)] system (writeRow label report system).2 := by
  refine ⟨?_, (steady_writeRow label report system).active⟩
  cases hdump : system.session.dump? with
  | none =>
    have hidle : Idle system (writeRow label report system).2 := idle_writeRow_of_none hdump
    exact Prod.ext (hidle.dump.trans hdump) hidle.disk
  | some writer =>
    rcases hwrite : writer.writeRow label report system.disk with ⟨result, next, later⟩
    rw [writeRow_of_dump hdump hwrite]
    have hone : writeAll [(label, report)] (some writer, system.disk) = (some next, later) := by
      show (writer.writeRow label report system.disk).2.map some id = _
      rw [hwrite]
      rfl
    rw [hone]
    cases result <;> rfl

/-- A written row leaves the dump open, with the same columns. -/
theorem map_shape_writeAll (rows : List (String × Report)) (dump : Option Dump.Writer × Disk) :
    (writeAll rows dump).1.map (·.shape) = dump.1.map (·.shape) := by
  induction rows generalizing dump with
  | nil => rfl
  | cons row rows ih =>
    obtain ⟨writer?, disk⟩ := dump
    have hstep : writeAll (row :: rows) (writer?, disk) =
        writeAll rows (writeOne (writer?, disk) row) := rfl
    rw [hstep, ih]
    cases writer? with
    | none => rfl
    | some writer =>
      show some (writer.writeRow row.1 row.2 disk).2.1.shape = some writer.shape
      unfold Dump.Writer.writeRow
      split <;> rfl

/-- A dump whose disk refuses nothing gets the lines of all rows. The induction is on the rows: each
leaves the dump at the end of its file and the disk as willing as it was. -/
theorem content_writeAll_of_isFree {writer : Dump.Writer} {disk : Disk}
    (hfree : writer.output.IsFree disk) (hend : writer.output.handle.AtEnd disk)
    (rows : List (String × Report)) :
    ∃ next later, writeAll rows (some writer, disk) = (some next, later) ∧
      next.output.content later = writer.output.content disk ++
        Dump.lineBytes (rows.map fun row ↦ writer.shape.line row.1 row.2) := by
  induction rows generalizing writer disk with
  | nil => exact ⟨writer, disk, rfl, by simp⟩
  | cons row rows ih =>
    obtain ⟨label, report⟩ := row
    obtain ⟨output, written, hrow, hwilling⟩ :=
      Dump.Writer.writeRow_of_isFree hfree label report
    let middle : Dump.Writer := { writer with output, rows := writer.rows + 1 }
    have htook := took_writeRow hend hrow
    have hfree : middle.output.IsFree written := hwilling
    obtain ⟨next, later, hrest, hcontent⟩ := ih hfree htook.atEnd
    refine ⟨next, later, ?_, ?_⟩
    · rw [← hrest, writeAll, writeAll, List.foldl_cons, writeOne, hrow]
      rfl
    · rw [hcontent, htook.content, ByteArray.append_assoc, ← Dump.lineBytes_append]
      rfl

/-! ## Streams -/

/-- The induction is on the reports, which all get the same further information. -/
theorem writes_writeReports (information : List Value) (reports : List Report)
    (system : System P C) :
    Writes (reports.map fun report ↦ (Mode.time.tag, { report with information })) system
      (writeReports information reports system).2 := by
  induction reports generalizing system with
  | nil => exact .of_idle (refl_of Idle system)
  | cons report reports ih =>
    have hrow := writes_writeRow Mode.time.tag { report with information } system
    exact hrow.trans (ih _)

theorem writes_takeReports (connection : P.Connection) (system : System P C) :
    let saved := P.savedReports connection system.driver
    let values := P.informationValues connection saved.state
    Writes (saved.result.map fun report ↦
        (Mode.time.tag, { report with information := values.result })) system
      (takeReports connection system).2 := by
  intro saved values
  obtain ⟨asked, hidle, hbehind, -⟩ := exists_takeReports connection system
  exact ((writes_writeReports values.result saved.result asked).idle_left hidle).idle_right hbehind

theorem idle_polled (connection : P.Connection) (system : System P C) :
    Idle system (polled connection system) :=
  trans_of Idle (idle_note .poll system) (idle_askDriver _ _)

/-- The induction is on the fuel: each poll that finds something adds its rows. -/
theorem writes_drainLoop (connection : P.Connection) (fuel : Nat) (system : System P C) :
    Writes ((streamedReports connection fuel system.driver).map (Mode.time.tag, ·)) system
        (drainLoop connection fuel system).2 ∧
      (drainLoop connection fuel system).1 =
        (streamedReports connection fuel system.driver).length := by
  induction fuel generalizing system with
  | zero => exact ⟨.of_idle (refl_of Idle system), rfl⟩
  | succ fuel ih =>
    rw [drainLoop_succ, streamedReports]
    dsimp only
    cases hfound : (P.poll connection system.driver).result with
    | false => exact ⟨.of_idle (idle_polled connection system), rfl⟩
    | true =>
      obtain ⟨hrest, hcount⟩ := ih (emptied connection system)
      have htaken := writes_takeReports connection (polled connection system)
      rw [driver_emptied] at hrest hcount
      rw [driver_polled] at htaken
      rw [if_pos rfl, if_pos rfl, List.map_append, List.map_map, List.length_append,
        List.length_map]
      refine ⟨(htaken.idle_left (idle_polled connection system)).trans hrest, ?_⟩
      dsimp only
      rw [hcount]

/-- A drain of a live stream writes what the stream has, and counts it. -/
theorem writes_drainStream {active : Active P} {system : System P C}
    (hactive : system.session.active? = some active) (hmode : active.mode = .time) :
    let reports := streamedReports active.connection
      (P.backlog active.connection system.driver + 1) system.driver
    Writes (reports.map (Mode.time.tag, ·)) system (drainStream system).2 ∧
      (drainStream system).1 = reports.length := by
  intro reports
  obtain ⟨batches, after, hdrains, hbound⟩ := exists_drains active.connection system
  have hloop := hdrains.drainLoop (Nat.lt_succ_of_le hbound)
  obtain ⟨hrows, hcount⟩ := writes_drainLoop active.connection
    (P.backlog active.connection system.driver + 1) system
  rw [drainStream_of_drains hactive hmode hdrains hbound]
  rw [Nat.succ_eq_add_one] at hloop
  rw [hloop] at hrows hcount
  exact ⟨hrows.idle_right (idle_counted _ _), hcount⟩

/-! ## Events -/

section Events

variable {active : Active P} {system : System P C} (operation : String) {event : Event}
  {info : ProfilingInfo} {report : Report}

/-- Reading the report of an event whose report was queried: it is decoded, and written if it has a
value. -/
theorem exists_readEvent (hmode : active.mode = .event)
    (hinfo : (C.profilingInfo event (P.reportSize active.connection system.driver)
      system.compute).result = .ok info)
    (hreport : (P.decode (info.buffer (P.reportSize active.connection system.driver))
      active.connection system.driver).result = report) :
    ∃ decoded, Idle system decoded ∧ readEvent operation event active system =
      if report.isEmpty then
        (.error .empty, (Run.count (fun counts ↦
          { counts with emptySamples := counts.emptySamples + 1 }) decoded).2)
      else (.ok report, (writeRow operation report decoded).2) := by
  let size := P.reportSize active.connection system.driver
  let queried := (query operation event size system).2
  have hdriver : queried.driver = system.driver := sameDriver_query operation event size system
  have hdecoded : (decode active.connection (info.buffer size) queried).1 = report := by
    calc (decode active.connection (info.buffer size) queried).1
      _ = (P.decode (info.buffer size) active.connection queried.driver).result := rfl
      _ = report := by rw [hdriver, hreport]
  refine ⟨(decode active.connection (info.buffer size) queried).2,
    trans_of Idle (idle_query operation event size system)
      (idle_decode active.connection (info.buffer size) queried), ?_⟩
  rw [readEvent, if_neg (not_not.2 hmode), bind_apply, get_apply, bind_apply, query_result, hinfo]
  dsimp only
  rw [bind_apply, hdecoded]
  cases report.isEmpty with
  | true => rfl
  | false => rfl

/-- What sampling an event comes to whose report was queried: nothing if the report has no value,
and otherwise a row and a report that is summed up. -/
theorem writes_sampleEvent (hactive : system.session.active? = some active)
    (hmode : active.mode = .event)
    (hinfo : (C.profilingInfo event (P.reportSize active.connection system.driver)
      system.compute).result = .ok info)
    (hreport : (P.decode (info.buffer (P.reportSize active.connection system.driver))
      active.connection system.driver).result = report) :
    let done := sampleEvent operation event system
    (report.isEmpty = true → done.1 = .empty ∧ Writes [] system done.2 ∧
        done.2.session.aggregator = system.session.aggregator) ∧
      (report.isEmpty = false → done.1 = .recorded report.length ∧
        Writes [(operation, report)] system done.2 ∧
        done.2.session.aggregator = system.session.aggregator.add operation report) := by
  intro done
  obtain ⟨decoded, hidle, hread⟩ :=
    exists_readEvent (P := P) (C := C) operation hmode hinfo hreport
  have hdone : done = sampleEvent operation event system := rfl
  rw [sampleEvent, bind_apply, withDriver_of_active hactive, hread] at hdone
  constructor
  · intro hempty
    rw [if_pos hempty] at hdone
    have hcounted := trans_of Idle hidle (idle_count
      (fun counts ↦ { counts with emptySamples := counts.emptySamples + 1 }) decoded)
    rw [hdone]
    exact ⟨rfl, .of_idle hcounted, hcounted.aggregator⟩
  · intro hempty
    rw [if_neg (by rw [hempty]; exact Bool.false_ne_true)] at hdone
    have hrow := (writes_writeRow operation report decoded).idle_left hidle
    have hsteady := steady_writeRow operation report decoded
    rw [hdone]
    refine ⟨rfl, ⟨hrow.dump, hrow.active⟩, ?_⟩
    show (writeRow operation report decoded).2.session.aggregator.add operation report = _
    rw [hsteady.aggregator, hidle.aggregator]

end Events

/-! ## Columns -/

/-- Whether the open dump has the columns of the live driver. -/
def FitsDriver (system : System P C) : Prop :=
  ∀ writer ∈ system.session.dump?, ∃ active ∈ system.session.active?,
    writer.shape = (layout active.mode active.connection).rowShape

theorem fitsDriver_of_none {system : System P C} (hdump : system.session.dump? = none) :
    FitsDriver system := by simp [FitsDriver, hdump]

/-- Written rows do not change what the columns are. -/
theorem Writes.fitsDriver (h : Writes rows first second) (hfirst : FitsDriver first) :
    FitsDriver second := by
  intro writer hwriter
  have hshape := map_shape_writeAll rows (first.session.dump?, first.disk)
  rw [← h.dump, Option.mem_def.1 hwriter] at hshape
  obtain ⟨before, hbefore, hsame⟩ := Option.map_eq_some_iff.1 hshape.symm
  obtain ⟨active, hactive, hfits⟩ := hfirst before hbefore
  exact ⟨active, h.active ▸ hactive, hsame.symm.trans hfits⟩

theorem exists_writes_sampleEvent (operation : String) (event : Event) (system : System P C) :
    ∃ rows, Writes rows system (sampleEvent operation event system).2 := by
  rw [sampleEvent, bind_apply]
  cases hactive : system.session.active? with
  | none =>
    obtain ⟨hanswer, hidle, -⟩ := withDriver_of_none hactive (readEvent operation event)
    rw [hanswer]
    exact ⟨[], .of_idle hidle⟩
  | some active =>
    rw [withDriver_of_active hactive]
    have hread := readEvent_spec operation event active system
    split at hread
    · rename_i report _
      obtain ⟨asked, hidle, heq⟩ := hread
      have hrow := (writes_writeRow operation report asked).idle_left hidle
      rw [heq]
      exact ⟨_, hrow.dump, hrow.active⟩
    · obtain ⟨hidle, outcome, houtcome⟩ := hread
      rw [houtcome]
      exact ⟨[], .of_idle hidle⟩

theorem exists_writes_drainStream (system : System P C) :
    ∃ rows, Writes rows system (drainStream system).2 := by
  cases hactive : system.session.active? with
  | none => exact ⟨[], .of_idle (drainStream_of_none hactive).2.1⟩
  | some active =>
    by_cases hmode : active.mode = .time
    · exact ⟨_, (writes_drainStream hactive hmode).1⟩
    · exact ⟨[], .of_idle (drainStream_of_event hactive hmode).2⟩

theorem exists_writes_write (label : String) (report : Report) (system : System P C) :
    ∃ rows, Writes rows system (Session.write label report system).2 := by
  have hrun : (Session.write label report system).2 =
      (Run.withDriver (fun _ ↦ writeRow label report) system).2 := rfl
  rw [hrun]
  cases hactive : system.session.active? with
  | none => exact ⟨[], .of_idle (withDriver_of_none hactive _).2.1⟩
  | some active =>
    rw [withDriver_of_active hactive]
    exact ⟨_, writes_writeRow label report system⟩

theorem shape_openDump {system : System P C} (hdump : system.session.dump? = none) (mode : Mode)
    (metricSet : String) (connection : P.Connection) :
    ∀ writer ∈ (openDump mode metricSet connection system).2.session.dump?,
      writer.shape = (layout mode connection).rowShape := by
  rcases hstart : Dump.Writer.start (system.dumpFile metricSet) (layout mode connection)
    (accessOf system.session (system.dumpFile metricSet)) system.disk with ⟨result, later⟩
  rw [openDump_eq hstart]
  cases result with
  | error cause => simp [System.take, hdump]
  | ok opened =>
    obtain ⟨output, rfl⟩ := exists_of_start hstart
    dsimp only
    split <;> simp

/-- A session that goes live opens its dump with the columns of its driver. -/
theorem fitsDriver_start {system : System P C} (hdump : system.session.dump? = none)
    (request : Driver.Request) : FitsDriver (start request system).2 := by
  cases hconnect : (P.connect request system.driver).result with
  | error cause =>
    obtain ⟨log, calls, hfailure⟩ := start_of_error (C := C) hconnect
    rw [hfailure]
    exact fitsDriver_of_none hdump
  | ok connection =>
    have hspec := start_spec (C := C) hdump request
    rw [hconnect] at hspec
    obtain ⟨-, hactive, -⟩ := hspec
    obtain ⟨streamed, hidle, hstart⟩ := start_of_connected hdump hconnect
    have hshape := shape_openDump (hidle.dump.trans hdump) request.mode request.metricSet connection
    obtain ⟨hlive, -⟩ := modifySession_activated request connection
      (openDump request.mode request.metricSet connection streamed).2
    intro writer hwriter
    refine ⟨_, hactive, hshape writer ?_⟩
    rwa [hstart, opened, hlive.dump] at hwriter

theorem FitsDriver.ensureInitialized {system : System P C} (hfits : FitsDriver system)
    (request : Driver.Request) : FitsDriver (Session.ensureInitialized request system).2 := by
  rw [Session.ensureInitialized, bind_apply, session_apply]
  cases hactive : system.session.active? with
  | some active =>
    dsimp only
    split <;> exact hfits
  | none =>
    apply fitsDriver_start
    rw [Option.eq_none_iff_forall_not_mem]
    intro writer hwriter
    obtain ⟨active, hlive, -⟩ := hfits writer hwriter
    rw [hactive] at hlive
    cases hlive

theorem FitsDriver.run {system : System P C} (h : FitsDriver system) (op : Op P C) :
    FitsDriver (op.run system).2 := by
  cases op with
  | start request => exact h.ensureInitialized request
  | write label report =>
    obtain ⟨rows, hwrites⟩ := exists_writes_write label report system
    exact hwrites.fitsDriver h
  | sample operation event =>
    obtain ⟨rows, hwrites⟩ := exists_writes_sampleEvent operation event system
    exact hwrites.fitsDriver h
  | drain =>
    obtain ⟨rows, hwrites⟩ := exists_writes_drainStream system
    exact hwrites.fitsDriver h
  | close => exact fitsDriver_of_none (close_asks system).2
  | outside driver compute => exact h

/-- The induction is on the operations. -/
theorem FitsDriver.runAll {system : System P C} (h : FitsDriver system) (ops : List (Op P C)) :
    FitsDriver (Session.runAll ops system) := by
  induction ops generalizing system with
  | nil => exact h
  | cons op ops ih => exact ih (h.run op)

end GpuCounters.Session
