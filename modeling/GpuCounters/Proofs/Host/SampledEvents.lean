import GpuCounters.Proofs.Host.RefusedRows
import GpuCounters.Proofs.Session.EventSampling

/-!
# Samples of events

Sampling an event either records its report, in the sums and as a row of the dump, or leaves both
as they are. Which of these it is, and what is asked for it, is settled by what is found of the
event: whether there is a driver that samples events, whether its report can be queried, and whether
the report has a value. The size that is stated for the report settles nothing.
-/

namespace GpuCounters

variable {P : Driver.Provider} {C : Compute}

/-- A compute API that states other sizes for its reports. -/
def Compute.restate (C : Compute) (size : Event → Nat → C.State → Nat) : Compute :=
  { C with
    profilingInfo := fun event capacity state ↦
      let exchange := C.profilingInfo event capacity state
      { exchange with
        result := exchange.result.map fun info ↦
          { info with size := size event capacity state } } }

/-- A system whose compute API states other sizes for its reports. -/
def System.restate (size : Event → Nat → C.State → Nat) (system : System P C) :
    System P (C.restate size) :=
  { system with }

namespace Session

open GpuCounters.System GpuCounters.Run

/-! ## What is found of an event -/

/-- What a driver that samples events makes of an event: why its report cannot be queried, or the
report. Without such a driver nothing is made of it. -/
def reading? (event : Event) (system : System P C) : Option (Except Status Report) :=
  match system.session.active? with
  | some active =>
    if active.mode = .event then
      let size := P.reportSize active.connection system.driver
      some ((C.profilingInfo event size system.compute).result.map fun info ↦
        (P.decode (info.buffer size) active.connection system.driver).result)
    else none
  | none => none

/-- What is asked for an event: nothing without a driver that samples events, and no decoding if the
report cannot be queried. -/
def questions (event : Event) : Option (Except Status Report) → List Activity
  | none => []
  | some (.error _) => [.profilingQuery event]
  | some (.ok _) => [.profilingQuery event, .decode]

/-- What a sample answers, from the mode of the live driver and from what is made of the event. -/
def outcomeOf : Option Mode → Option (Except Status Report) → SampleOutcome
  | none, _ => .noSession
  | some _, none => .wrongMode
  | some _, some (.error status) => .queryFailed status
  | some _, some (.ok report) => if report.isEmpty then .empty else .recorded report.length

/-- The report that a sample records: one that has a value. -/
def recorded? : Option (Except Status Report) → Option Report
  | none | some (.error _) => none
  | some (.ok report) => if report.isEmpty then none else some report

/-- Record a report: write it as a row, sum it up and count it. -/
def record (operation : String) (report : Report) : Run P C Unit := do
  writeRow operation report
  modifySession fun session ↦
    { session with aggregator := session.aggregator.add operation report }
  count fun counts ↦ { counts with eventReports := counts.eventReports + 1 }

section Reading

variable {event : Event} {system : System P C} {active : Active P}

theorem reading?_of_none (hactive : system.session.active? = none) :
    reading? event system = none := by
  rw [reading?, hactive]

theorem reading?_of_time (hactive : system.session.active? = some active)
    (hmode : active.mode ≠ .event) : reading? event system = none := by
  rw [reading?, hactive]
  exact if_neg hmode

theorem reading?_of_event (hactive : system.session.active? = some active)
    (hmode : active.mode = .event) :
    reading? event system =
      some ((C.profilingInfo event (P.reportSize active.connection system.driver)
        system.compute).result.map fun info ↦
          (P.decode (info.buffer (P.reportSize active.connection system.driver))
            active.connection system.driver).result) := by
  rw [reading?, hactive]
  exact if_pos hmode

/-- Something is made of an event exactly by a driver that samples events. -/
theorem reading?_isSome_iff : (reading? event system).isSome ↔ system.mode? = some .event := by
  rw [System.mode?]
  cases hactive : system.session.active? with
  | none => simp [reading?_of_none hactive]
  | some active =>
    by_cases hmode : active.mode = .event
    · simp [reading?_of_event hactive hmode, hmode]
    · simp [reading?_of_time hactive hmode, hmode]

end Reading

/-! ## What is done about it -/

/-- An activity that is noted is all that is asked if the rest asks for nothing. -/
theorem asks_note_then {α : Type} (activity : Activity) {rest : Run P C α}
    (h : Keeps (SameLife fun _ ↦ true) rest) (system : System P C) :
    Asks [activity] system ((note activity >>= fun _ ↦ rest : Run P C α) system).2 :=
  (asks_note activity system).then_spares (h _).toSpares

/-- A query asks for the report of its event, and for nothing else. -/
theorem asks_query (operation : String) (event : Event) (size : Nat) (system : System P C) :
    Asks [.profilingQuery event] system (query operation event size system).2 := by
  unfold query
  refine asks_note_then _ (Keeps.bind (sameLife_askCompute _) fun result ↦ ?_) system
  cases result with
  | error status =>
    exact Keeps.bind (sameLife_log _) fun _ ↦ Keeps.bind (sameLife_count _) fun _ ↦ Keeps.pure _
  | ok info =>
    dsimp only
    split
    · exact Keeps.bind (sameLife_log _) fun _ ↦ Keeps.pure _
    · exact Keeps.pure _

theorem asks_decode (connection : P.Connection) (bytes : ByteArray) (system : System P C) :
    Asks [.decode] system (decode connection bytes system).2 :=
  asks_note_then .decode (sameLife_askDriver _) system

theorem sameLife_record {watch : Concern → Bool} (operation : String) (report : Report) :
    Keeps (SameLife watch) (record operation report : Run P C Unit) := by
  have hsummed : Keeps (SameLife watch) (modifySession fun session ↦
      { session with aggregator := session.aggregator.add operation report } : Run P C Unit) :=
    sameLife_modifySession _ (fun _ ↦ rfl) fun _ ↦ rfl
  exact Keeps.bind (sameLife_writeRow operation report) fun _ ↦
    Keeps.bind hsummed fun _ ↦ sameLife_count _

/-- Reading the report of an event: what can be made of it is talk, and a report that has a value is
written. -/
theorem readEvent_reads (operation : String) (event : Event) {active : Active P}
    {system : System P C} (hactive : system.session.active? = some active) :
    ∃ read, Idle system read ∧ Asks (questions event (reading? event system)) system read ∧
      readEvent operation event active system =
        match recorded? (reading? event system) with
        | some report => (.ok report, (writeRow operation report read).2)
        | none => (.error (outcomeOf (some active.mode) (reading? event system)), read) := by
  by_cases hmode : active.mode = .event
  · rw [reading?_of_event hactive hmode, readEvent, if_neg (not_not.2 hmode), bind_apply, get_apply,
      bind_apply, query_result]
    dsimp only
    generalize P.reportSize active.connection system.driver = size
    let queried := (query operation event size system).2
    have hidle : Idle system queried := idle_query operation event size system
    have hasks : Asks [.profilingQuery event] system queried :=
      asks_query operation event size system
    have hdriver : queried.driver = system.driver := sameDriver_query operation event size system
    cases (C.profilingInfo event size system.compute).result with
    | error status => exact ⟨queried, hidle, hasks, rfl⟩
    | ok info =>
      let decoded := (decode active.connection (info.buffer size) queried).2
      have hdecoded : Idle system decoded :=
        trans_of Idle hidle (idle_decode active.connection (info.buffer size) queried)
      have hasked : Asks [.profilingQuery event, .decode] system decoded :=
        hasks.trans (asks_decode active.connection (info.buffer size) queried)
      have hreport : (decode active.connection (info.buffer size) queried).1 =
          (P.decode (info.buffer size) active.connection system.driver).result := by
        rw [← hdriver]
        rfl
      dsimp only [Except.map, recorded?, outcomeOf]
      rw [bind_apply, hreport]
      generalize (P.decode (info.buffer size) active.connection system.driver).result = report
      by_cases hempty : report.isEmpty = true
      · have hcounted := idle_count
          (fun counts ↦ { counts with emptySamples := counts.emptySamples + 1 }) decoded
        have hsame : SameLife (fun _ ↦ true) decoded _ := sameLife_count
          (fun counts ↦ { counts with emptySamples := counts.emptySamples + 1 }) decoded
        simp only [if_pos hempty]
        exact ⟨_, trans_of Idle hdecoded hcounted, hasked.then_spares hsame.toSpares, rfl⟩
      · simp only [if_neg hempty]
        exact ⟨decoded, hdecoded, hasked, rfl⟩
  · have htime : reading? event system = none := reading?_of_time hactive hmode
    have hsame : SameLife (fun _ ↦ true) system _ := sameLife_log (.eventInMode active.mode) system
    rw [htime, readEvent, if_pos hmode]
    exact ⟨_, idle_log (.eventInMode active.mode) system, Asks.of_spares hsame.toSpares, rfl⟩

/-- A report is recorded exactly if the sample says so. -/
theorem recorded?_eq_some_iff {reading : Option (Except Status Report)} {report : Report} :
    recorded? reading = some report ↔ reading = some (.ok report) ∧ report.isEmpty = false := by
  cases reading with
  | none => simp [recorded?]
  | some result =>
    cases result with
    | error status => simp [recorded?]
    | ok other =>
      cases hempty : other.isEmpty with
      | true =>
        simp only [recorded?, hempty, if_true, reduceCtorEq, false_iff, not_and, Option.some.injEq,
          Except.ok.injEq]
        rintro rfl
        simp [hempty]
      | false =>
        simp only [recorded?, hempty, Bool.false_eq_true, if_false, Option.some.injEq,
          Except.ok.injEq, iff_self_and]
        rintro rfl
        exact hempty

/-- Sampling an event: what can be made of it is talk, and a report that has a value is recorded. -/
theorem sampleEvent_reads (operation : String) (event : Event) (system : System P C) :
    ∃ read, Idle system read ∧ Asks (questions event (reading? event system)) system read ∧
      sampleEvent operation event system =
        (outcomeOf system.mode? (reading? event system),
          match recorded? (reading? event system) with
          | some report => (record operation report read).2
          | none => read) := by
  rw [sampleEvent, bind_apply, System.mode?]
  cases hactive : system.session.active? with
  | none =>
    obtain ⟨hresult, hidle, -⟩ := withDriver_of_none hactive (readEvent operation event)
    have hsame : SameLife (fun _ ↦ true) system _ :=
      sameLife_withDriver_of_none hactive (readEvent operation event)
    rw [hresult, reading?_of_none hactive]
    exact ⟨_, hidle, Asks.of_spares hsame.toSpares, rfl⟩
  | some active =>
    obtain ⟨read, hidle, hasks, hread⟩ := readEvent_reads operation event hactive
    rw [withDriver_of_active hactive, hread]
    refine ⟨read, hidle, hasks, ?_⟩
    cases hrecorded : recorded? (reading? event system) with
    | none => rfl
    | some report =>
      obtain ⟨hreading, hempty⟩ := recorded?_eq_some_iff.1 hrecorded
      rw [hreading]
      dsimp only [Option.map_some, outcomeOf]
      rw [hempty]
      rfl

/-! ## What is left -/

/-- Whether nothing was recorded. -/
structure Unrecorded (before after : System P C) : Prop where
  aggregator : after.session.aggregator = before.session.aggregator
  dump : after.session.dump? = before.session.dump?
  disk : after.disk = before.disk
  dumpRows : after.telemetry.dumpRows = before.telemetry.dumpRows

/-- Whether one report was recorded: it is summed up, and written as a row. If the dump takes the
row, it is one row more, behind what the dump held. -/
structure Recorded (operation : String) (report : Report) (before after : System P C) : Prop where
  aggregator : after.session.aggregator = before.session.aggregator.add operation report
  writes : Writes [(operation, report)] before after
  dumpRows : after.telemetry.dumpRows = before.telemetry.dumpRows +
    if takes (before.session.dump?, before.disk) (operation, report) then 1 else 0
  row : ∀ writer ∈ before.session.dump?, takes (some writer, before.disk) (operation, report) →
    ∃ next ∈ after.session.dump?, next.rows = writer.rows + 1 ∧
      (writer.output.handle.AtEnd before.disk → next.output.content after.disk =
        writer.output.content before.disk ++
          ((String.ofList (writer.shape.line operation report)).toUTF8 ++ "\n".toUTF8))

/-- Whether a sample has recorded all of a report or nothing. -/
structure AllOrNothing (operation : String) (event : Event) (before : System P C)
    (outcome : SampleOutcome) (after : System P C) : Prop where
  noSession : outcome = .noSession ↔ before.session.active? = none
  wrongMode : outcome = .wrongMode ↔ before.mode? = some .time
  queryFailed : ∀ status,
    outcome = .queryFailed status ↔ reading? event before = some (.error status)
  empty : outcome = .empty ↔
    ∃ report, reading? event before = some (.ok report) ∧ report.isEmpty = true
  recorded : ∀ metrics, outcome = .recorded metrics ↔ ∃ report,
    reading? event before = some (.ok report) ∧ report.isEmpty = false ∧ report.length = metrics
  asks : Asks (questions event (reading? event before)) before after
  nothing : (∀ metrics, outcome ≠ .recorded metrics) → Unrecorded before after
  all : ∀ report, reading? event before = some (.ok report) → report.isEmpty = false →
    Recorded operation report before after
  active : after.session.active? = before.session.active?
  dumpPath : after.dumpPath? = before.dumpPath?

/-! ### Outcomes -/

section Outcomes

variable {mode? : Option Mode} {reading : Option (Except Status Report)}

/-- The outcomes tell the modes and readings apart, of which only certain ones go together. -/
theorem outcomeOf_cases (h : reading.isSome ↔ mode? = some .event) :
    (outcomeOf mode? reading = .noSession ↔ mode? = none) ∧
      (outcomeOf mode? reading = .wrongMode ↔ mode? = some .time) ∧
      (∀ status, outcomeOf mode? reading = .queryFailed status ↔
        reading = some (.error status)) ∧
      (outcomeOf mode? reading = .empty ↔
        ∃ report, reading = some (.ok report) ∧ report.isEmpty = true) ∧
      ∀ metrics, outcomeOf mode? reading = .recorded metrics ↔
        ∃ report, reading = some (.ok report) ∧ report.isEmpty = false ∧
          report.length = metrics := by
  cases mode? with
  | none =>
    have hnone : reading = none := by simpa using h
    simp [hnone, outcomeOf]
  | some mode =>
    cases reading with
    | none =>
      have htime : mode = .time := by cases mode <;> simp_all
      simp [htime, outcomeOf]
    | some result =>
      have hevent : mode = .event := by simpa using h
      cases result with
      | error status => simp [hevent, outcomeOf]
      | ok report =>
        cases hempty : report.isEmpty <;> simp [hevent, outcomeOf, hempty]

end Outcomes

/-! ### Sums and rows -/

section Left

variable {operation : String} {event : Event} {system : System P C} {report : Report}

/-- The rows that are counted are those that the open dump has taken. -/
theorem dumpRows_sampleEvent {rows : List (String × Report)}
    (h : Writes rows system (sampleEvent operation event system).2) :
    (sampleEvent operation event system).2.telemetry.dumpRows =
      system.telemetry.dumpRows + countTaken rows (system.session.dump?, system.disk) := by
  have hopen := h.openRows
  have hbalance : system.openRows + (sampleEvent operation event system).2.telemetry.dumpRows =
      system.telemetry.dumpRows + 0 + (sampleEvent operation event system).2.openRows :=
    (Host.accounts_sampleEvent operation event system).rows
  omega

theorem unrecorded_sampleEvent (h : recorded? (reading? event system) = none) :
    Unrecorded system (sampleEvent operation event system).2 := by
  obtain ⟨read, hidle, -, hsample⟩ := sampleEvent_reads operation event system
  rw [h] at hsample
  have hwrites : Writes [] system (sampleEvent operation event system).2 := by
    rw [hsample]
    exact .of_idle hidle
  have hcounted := dumpRows_sampleEvent hwrites
  rw [hsample] at hcounted ⊢
  exact ⟨hidle.aggregator, hidle.dump, hidle.disk, hcounted⟩

/-- A dump that takes a row is one row longer. -/
theorem exists_writer_of_writes {after : System P C}
    (hwrites : Writes [(operation, report)] system after) {writer : Dump.Writer}
    (hwriter : writer ∈ system.session.dump?)
    (htakes : takes (some writer, system.disk) (operation, report) = true) :
    ∃ next ∈ after.session.dump?, next.rows = writer.rows + 1 ∧
      (writer.output.handle.AtEnd system.disk → next.output.content after.disk =
        writer.output.content system.disk ++
          ((String.ofList (writer.shape.line operation report)).toUTF8 ++ "\n".toUTF8)) := by
  rcases hwrite : writer.writeRow operation report system.disk with ⟨result, next, later⟩
  rw [takes, hwrite] at htakes
  have hdump : (after.session.dump?, after.disk) = (some next, later) := by
    calc (after.session.dump?, after.disk)
      _ = writeAll [(operation, report)] (some writer, system.disk) := by
        rw [hwrites.dump, Option.mem_def.1 hwriter]
      _ = (writer.writeRow operation report system.disk).2.map some id := rfl
      _ = (some next, later) := by rw [hwrite]; rfl
  obtain ⟨hnext, rfl⟩ := Prod.mk.inj hdump
  refine ⟨next, hnext, ?_, ?_⟩
  · rw [Host.rows_writeRow hwrite, if_pos htakes]
  · intro hend
    cases result with
    | error cause => cases htakes
    | ok _ => exact content_writeRow hend hwrite

theorem recorded_sampleEvent (h : recorded? (reading? event system) = some report) :
    Recorded operation report system (sampleEvent operation event system).2 := by
  obtain ⟨read, hidle, -, hsample⟩ := sampleEvent_reads operation event system
  rw [h] at hsample
  have hrow := (writes_writeRow operation report read).idle_left hidle
  have hsteady := trans_of Steady hidle.toSteady (steady_writeRow operation report read)
  have hwrites : Writes [(operation, report)] system (sampleEvent operation event system).2 := by
    rw [hsample]
    exact ⟨hrow.dump, hrow.active⟩
  refine ⟨?_, hwrites, ?_, fun writer hwriter ↦ exists_writer_of_writes hwrites hwriter⟩
  · rw [hsample]
    exact congrArg (·.add operation report) hsteady.aggregator
  · rw [dumpRows_sampleEvent hwrites, countTaken, countTaken, Nat.add_zero]

end Left

/-! ### Sizes -/

/-- The size that is stated for a report has no part in what is made of it. -/
theorem reading?_restate (size : Event → Nat → C.State → Nat) (event : Event)
    (system : System P C) : reading? event (system.restate size) = reading? event system := by
  cases hactive : system.session.active? with
  | none => rw [reading?_of_none hactive, reading?_of_none (C := C.restate size) hactive]
  | some active =>
    by_cases hmode : active.mode = .event
    · rw [reading?_of_event hactive hmode, reading?_of_event (C := C.restate size) hactive hmode]
      dsimp only [Compute.restate, System.restate]
      cases (C.profilingInfo event (P.reportSize active.connection system.driver)
        system.compute).result <;> rfl
    · rw [reading?_of_time hactive hmode, reading?_of_time (C := C.restate size) hactive hmode]

/-! ### Runs -/

/-- Whether an operation samples, or is one of others. -/
def Op.IsSample : Op P C → Prop
  | .sample _ _ | .outside _ _ => True
  | .start _ | .write _ _ | .drain | .close => False

/-- A sampled report is one that is recorded. -/
theorem sampledReport?_eq (event : Event) (system : System P C) :
    (system.session.active?.bind fun active ↦ sampledReport? event active system) =
      recorded? (reading? event system) := by
  cases hactive : system.session.active? with
  | none =>
    rw [reading?_of_none hactive]
    rfl
  | some active =>
    rw [Option.bind_some, sampledReport?]
    by_cases hmode : active.mode = .event
    · rw [reading?_of_event hactive hmode, if_pos hmode]
      dsimp only
      cases (C.profilingInfo event (P.reportSize active.connection system.driver)
        system.compute).result <;> rfl
    · rw [reading?_of_time hactive hmode, if_neg hmode]
      rfl

/-- What a sample enters in the ledger is the report that it records. -/
theorem reportsOf_sample (operation : String) (event : Event) (system : System P C) :
    reportsOf (Op.entries (.sample operation event) system) =
      (recorded? (reading? event system)).toList.map (operation, ·) := by
  rw [Op.entries, sampledReport?_eq]
  cases recorded? (reading? event system) <;> rfl

/-- Whether exactly these reports were recorded, by the same live driver and in the same dump. -/
structure RecordedAll (rows : List (String × Report)) (before after : System P C) : Prop where
  aggregator : after.session.aggregator = before.session.aggregator.addAll rows
  writes : Writes rows before after
  dumpPath : after.dumpPath? = before.dumpPath?

theorem RecordedAll.trans {rows more : List (String × Report)} {first second third : System P C}
    (h : RecordedAll rows first second) (hmore : RecordedAll more second third) :
    RecordedAll (rows ++ more) first third where
  aggregator := by rw [hmore.aggregator, h.aggregator, Summary.Aggregator.addAll_append]
  writes := h.writes.trans hmore.writes
  dumpPath := hmore.dumpPath.trans h.dumpPath

theorem dumpPath_sampleEvent (operation : String) (event : Event) (system : System P C) :
    (sampleEvent operation event system).2.dumpPath? = system.dumpPath? := by
  have hsame : SameLife (fun _ ↦ false) system _ := sameLife_sampleEvent rfl operation event system
  exact hsame.dumpPath

theorem recordedAll_run {op : Op P C} (h : op.IsSample) (system : System P C) :
    RecordedAll (reportsOf (op.entries system)) system (op.run system).2 := by
  cases op with
  | start request => exact h.elim
  | write label report => exact h.elim
  | drain => exact h.elim
  | close => exact h.elim
  | outside driver compute => exact ⟨rfl, ⟨rfl, rfl⟩, rfl⟩
  | sample operation event =>
    have hpath := dumpPath_sampleEvent operation event system
    rw [reportsOf_sample]
    cases hrecorded : recorded? (reading? event system) with
    | none =>
      have hnothing : Unrecorded system (sampleEvent operation event system).2 :=
        unrecorded_sampleEvent hrecorded
      obtain ⟨rows, hwrites⟩ := exists_writes_sampleEvent operation event system
      exact ⟨hnothing.aggregator, ⟨Prod.ext hnothing.dump hnothing.disk, hwrites.active⟩, hpath⟩
    | some report =>
      have hall : Recorded operation report system (sampleEvent operation event system).2 :=
        recorded_sampleEvent hrecorded
      exact ⟨hall.aggregator, hall.writes, hpath⟩

/-- The induction is on the operations: each sample records one report or none. -/
theorem recordedAll_runAll {ops : List (Op P C)} (h : ∀ op ∈ ops, op.IsSample)
    (system : System P C) :
    RecordedAll (reportsOf (entriesOf ops system)) system (runAll ops system) := by
  induction ops generalizing system with
  | nil => exact ⟨rfl, .of_idle (refl_of Idle system), rfl⟩
  | cons op ops ih =>
    obtain ⟨hop, hops⟩ := List.forall_mem_cons.1 h
    rw [entriesOf, reportsOf_append, runAll_cons]
    exact (recordedAll_run hop system).trans (ih hops _)

/-! ## All or nothing -/

theorem allOrNothing_sampleEvent (operation : String) (event : Event) (system : System P C) :
    AllOrNothing operation event system (sampleEvent operation event system).1
      (sampleEvent operation event system).2 := by
  obtain ⟨read, -, hasks, hsample⟩ := sampleEvent_reads operation event system
  obtain ⟨rows, hwrites⟩ := exists_writes_sampleEvent operation event system
  have hmode : (reading? event system).isSome ↔ system.mode? = some .event := reading?_isSome_iff
  obtain ⟨hnone, htime, hfailed, hempty, hrecorded⟩ := outcomeOf_cases hmode
  have houtcome : (sampleEvent operation event system).1 =
      outcomeOf system.mode? (reading? event system) := by rw [hsample]
  have hlive : system.mode? = none ↔ system.session.active? = none := Option.map_eq_none_iff
  rw [← houtcome] at hnone htime hfailed hempty hrecorded
  refine ⟨hnone.trans hlive, htime, hfailed, hempty, hrecorded, ?_, ?_, ?_, hwrites.active,
    dumpPath_sampleEvent operation event system⟩
  · rw [hsample]
    cases hrecord : recorded? (reading? event system) with
    | none => exact hasks
    | some report =>
      exact hasks.then_spares (sameLife_record operation report read).toSpares
  · intro hnot
    apply unrecorded_sampleEvent
    apply Option.eq_none_iff_forall_ne_some.2
    intro report hrecord
    obtain ⟨hreading, hvalue⟩ := recorded?_eq_some_iff.1 hrecord
    exact hnot report.length ((hrecorded report.length).2 ⟨report, hreading, hvalue, rfl⟩)
  · intro report hreading hvalue
    exact recorded_sampleEvent (recorded?_eq_some_iff.2 ⟨hreading, hvalue⟩)

/-- Another size makes no difference to what is left. -/
theorem sampleEvent_restate (size : Event → Nat → C.State → Nat) (operation : String)
    (event : Event) (system : System P C) :
    let done := sampleEvent operation event system
    let other := sampleEvent operation event (system.restate size)
    other.1 = done.1 ∧ other.2.session.aggregator = done.2.session.aggregator ∧
      other.2.session.dump? = done.2.session.dump? ∧ other.2.disk = done.2.disk ∧
      other.2.telemetry.dumpRows = done.2.telemetry.dumpRows ∧
      other.2.activities.toList = done.2.activities.toList := by
  intro done other
  have hsame := reading?_restate size event system
  obtain ⟨read, -, -, hdone⟩ := sampleEvent_reads operation event system
  obtain ⟨restated, -, -, hother⟩ := sampleEvent_reads operation event (system.restate size)
  have hop : (Op.sample operation event : Op P C).IsSample := trivial
  have hop' : (Op.sample operation event : Op P (C.restate size)).IsSample := trivial
  have hall : RecordedAll _ system done.2 := recordedAll_run hop system
  have hrestated : RecordedAll _ (system.restate size) other.2 :=
    recordedAll_run hop' (system.restate size)
  rw [reportsOf_sample] at hall hrestated
  rw [hsame] at hrestated hother
  obtain ⟨hdump, hdisk⟩ := Prod.mk.inj (hrestated.writes.dump.trans hall.writes.dump.symm)
  refine ⟨?_, hrestated.aggregator.trans hall.aggregator.symm, hdump, hdisk, ?_, ?_⟩
  · calc other.1
      _ = outcomeOf system.mode? (reading? event system) := congrArg Prod.fst hother
      _ = done.1 := (congrArg Prod.fst hdone).symm
  · exact (dumpRows_sampleEvent hrestated.writes).trans (dumpRows_sampleEvent hall.writes).symm
  · have hasks := (allOrNothing_sampleEvent operation event (system.restate size)).asks
    rw [hsame] at hasks
    exact Eq.trans hasks (allOrNothing_sampleEvent operation event system).asks.symm

/-- Sampling an event is all or nothing, whatever the driver and the compute API do. The size that
is stated for the report has no part in it. And while nothing but samples is asked of a session, its
live driver and the place of its dump stay as they are, and what is summed up is what was summed up
before and the reports that were recorded since. -/
theorem sampleEvent_isAllOrNothing (operation : String) (event : Event) (system : System P C) :
    AllOrNothing operation event system (sampleEvent operation event system).1
        (sampleEvent operation event system).2 ∧
      (∀ size : Event → Nat → C.State → Nat,
        let done := sampleEvent operation event system
        let other := sampleEvent operation event (system.restate size)
        other.1 = done.1 ∧ other.2.session.aggregator = done.2.session.aggregator ∧
          other.2.session.dump? = done.2.session.dump? ∧ other.2.disk = done.2.disk ∧
          other.2.telemetry.dumpRows = done.2.telemetry.dumpRows ∧
          other.2.activities.toList = done.2.activities.toList) ∧
      ∀ ops : List (Op P C), (∀ op ∈ ops, op.IsSample) →
        RecordedAll (reportsOf (entriesOf ops system)) system (runAll ops system) :=
  ⟨allOrNothing_sampleEvent operation event system,
    fun size ↦ sampleEvent_restate size operation event system,
    fun _ hops ↦ recordedAll_runAll hops system⟩

/-- A session with an event whose report is as long as it should be, one whose query fails, and one
whose report is longer. -/
def eventfulSession :
    System (Driver.scripted (some Driver.Script.computeBasic)) Compute.simulated :=
  (ensureInitialized (scriptedRequest .event "Basic" false)
    { scripted Driver.Script.computeBasic with
      compute := ({ events := [
        (⟨1⟩, .ok (Driver.Script.encode [5, 50, 20])), (⟨2⟩, .error .invalidEvent),
        (⟨3⟩, .ok (Driver.Script.encode [7, 60, 30, 9]))] } : Compute.Simulated.State) }).2

/-- Each event is sampled once. -/
def eventfulOps :
    List (Op (Driver.scripted (some Driver.Script.computeBasic)) Compute.simulated) :=
  [.sample "copy" ⟨1⟩, .sample "copy" ⟨2⟩, .sample "scale" ⟨3⟩]

/-- Of the three samples two are recorded. -/
theorem sampleEvent_isAllOrNothing_eventful :
    (∀ op ∈ eventfulOps, op.IsSample) ∧
      (reportsOf (entriesOf eventfulOps eventfulSession)).map (·.1) = ["copy", "scale"] ∧
      eventfulSession.session.dump?.isSome ∧
      RecordedAll (reportsOf (entriesOf eventfulOps eventfulSession)) eventfulSession
        (runAll eventfulOps eventfulSession) ∧
      (sampleEvent "copy" ⟨2⟩ eventfulSession).1 = .queryFailed .invalidEvent ∧
      Unrecorded eventfulSession (sampleEvent "copy" ⟨2⟩ eventfulSession).2 := by
  have hops : ∀ op ∈ eventfulOps, op.IsSample := by simp [eventfulOps, Op.IsSample]
  have hfailed : (sampleEvent "copy" ⟨2⟩ eventfulSession).1 = .queryFailed .invalidEvent := by
    decide +kernel
  obtain ⟨hall, -, hrun⟩ := sampleEvent_isAllOrNothing "copy" ⟨2⟩ eventfulSession
  refine ⟨hops, by decide +kernel, by decide +kernel, hrun eventfulOps hops, hfailed,
    hall.nothing fun metrics hrecorded ↦ ?_⟩
  rw [hfailed] at hrecorded
  cases hrecorded

end Session

end GpuCounters
