import GpuCounters.Compute.Simulated
import GpuCounters.Driver.Scripted
import GpuCounters.Proofs.Session.Ledger

/-!
# Runs of a session

A session is asked to start, to write rows, to sample, to drain its stream and to close, in any
order and any number of times. What each of these does to the dumps is told by entries of the
ledger, from the answers of the driver and the compute API alone. As long as no dump fails, the
dumps are what the ledger of the whole run says.
-/

namespace GpuCounters.Session

open Storage

variable {P : Driver.Provider} {C : Compute}

/-! ## Operations -/

/-- What is asked of a session, or done around it by others. -/
inductive Op (P : Driver.Provider) (C : Compute)
  | start (request : Driver.Request)
  | write (label : String) (report : Report)
  | sample (operation : String) (event : Event)
  | drain
  | close
  /-- The driver and the compute API go on with work of their own. -/
  | outside (driver : P.State → P.State) (compute : C.State → C.State)

/-- Do an operation, whatever it answers. -/
def Op.run : Op P C → Run P C Unit
  | .start request => do let _ ← ensureInitialized request
  | .write label report => do let _ ← Session.write label report
  | .sample operation event => do let _ ← sampleEvent operation event
  | .drain => do let _ ← drainStream
  | .close => Session.close
  | .outside driver compute =>
    modify fun system ↦
      { system with driver := driver system.driver, compute := compute system.compute }

def runAll (ops : List (Op P C)) (system : System P C) : System P C :=
  ops.foldl (fun system op ↦ (op.run system).2) system

@[simp] theorem runAll_cons (op : Op P C) (ops : List (Op P C)) (system : System P C) :
    runAll (op :: ops) system = runAll ops (op.run system).2 := rfl

theorem runAll_append (ops more : List (Op P C)) (system : System P C) :
    runAll (ops ++ more) system = runAll more (runAll ops system) := List.foldl_append

/-! ## What operations do to the dumps -/

/-- The report that sampling an event finds: one that has a value. -/
def sampledReport? (event : Event) (active : Active P) (system : System P C) : Option Report :=
  if active.mode = .event then
    let size := P.reportSize active.connection system.driver
    match (C.profilingInfo event size system.compute).result with
    | .error _ => none
    | .ok info =>
      let report := (P.decode (info.buffer size) active.connection system.driver).result
      if report.isEmpty then none else some report
  else none

/-- The reports that draining a stream finds, each with the further information of its poll. -/
def streamedReports (connection : P.Connection) : Nat → P.State → List Report
  | 0, _ => []
  | fuel + 1, driver =>
    let polled := P.poll connection driver
    if polled.result then
      let saved := P.savedReports connection polled.state
      let values := P.informationValues connection saved.state
      (saved.result.map fun report ↦ { report with information := values.result }) ++
        streamedReports connection fuel (P.reset connection values.state).state
    else []

def Op.entries : Op P C → System P C → List Entry
  | .start request, system =>
    match system.session.active? with
    | some _ => []
    | none =>
      match (P.connect request system.driver).result with
      | .ok connection =>
        [.opened (system.dumpFile request.metricSet) (layout request.mode connection)]
      | .error _ => []
  | .write label report, system =>
    match system.session.active? with
    | some _ => [.row label report]
    | none => []
  | .sample operation event, system =>
    match system.session.active?.bind fun active ↦ sampledReport? event active system with
    | some report => [.row operation report]
    | none => []
  | .drain, system =>
    match system.session.active? with
    | some active =>
      if active.mode = .time then
        (streamedReports active.connection (P.backlog active.connection system.driver + 1)
          system.driver).map (.row Mode.time.tag)
      else []
    | none => []
  | .close, _ => [.closed]
  | .outside _ _, _ => []

def entriesOf : List (Op P C) → System P C → List Entry
  | [], _ => []
  | op :: ops, system => op.entries system ++ entriesOf ops (op.run system).2

theorem entriesOf_append (ops more : List (Op P C)) (system : System P C) :
    entriesOf (ops ++ more) system =
      entriesOf ops system ++ entriesOf more (runAll ops system) := by
  induction ops generalizing system with
  | nil => rfl
  | cons op ops ih =>
    rw [List.cons_append, entriesOf, entriesOf, ih, runAll_cons, List.append_assoc]

/-! ## Work that is entered in the ledger -/

/-- Whether work on the dumps is what some entries say, as long as none of them fails. -/
structure Advances (entries : List Entry) (before after : System P C) : Prop extends
    System.Later before after where
  describes : after.IsFaultless → ∀ (ledger : Ledger) (base : Disk),
    ledger.Describes base before → (ledger.recordAll entries).Describes base after

section Advances

variable {entries more : List Entry} {first second third : System P C}

theorem Advances.trans (h : Advances entries first second) (hmore : Advances more second third) :
    Advances (entries ++ more) first third where
  toLater := trans_of System.Later h.toLater hmore.toLater
  describes := by
    intro hfaultless ledger base hledger
    have hsecond := h.describes (hmore.toLater.isFaultless hfaultless) ledger base hledger
    rw [Ledger.recordAll_append]
    exact hmore.describes hfaultless _ base hsecond

theorem Advances.of_untouched (h : System.Untouched first second) : Advances [] first second :=
  ⟨h.toLater, fun _ _ _ hledger ↦ hledger.untouched h⟩

/-- Talk before or after does not count. -/
theorem Advances.idle_left (hidle : System.Idle first second) (h : Advances entries second third) :
    Advances entries first third := (Advances.of_untouched hidle.toUntouched).trans h

theorem Advances.untouched_right (h : Advances entries first second)
    (huntouched : System.Untouched second third) : Advances entries first third := by
  have hboth := h.trans (Advances.of_untouched huntouched)
  rwa [List.append_nil] at hboth

theorem advances_writeRow (label : String) (report : Report) (system : System P C) :
    Advances [.row label report] system (writeRow label report system).2 :=
  ⟨(steady_writeRow label report system).toLater, fun hfaultless _ _ hledger ↦
    hledger.writeRow hfaultless⟩

theorem advances_openDump {system : System P C} (hdump : system.session.dump? = none)
    (mode : Mode) (metricSet : String) (connection : P.Connection) :
    Advances [.opened (system.dumpFile metricSet) (layout mode connection)] system
      (openDump mode metricSet connection system).2 :=
  ⟨(steady_openDump mode metricSet connection system).toLater, fun hfaultless _ _ hledger ↦
    hledger.openDump hdump hfaultless⟩

theorem advances_closeDump (system : System P C) :
    Advances [.closed] system (closeDump system).2 :=
  ⟨(steady_closeDump system).toLater, fun hfaultless _ _ hledger ↦ hledger.closeDump hfaultless⟩

end Advances

/-! ### Streams -/

section Streams

open GpuCounters.System GpuCounters.Run

/-- The induction is on the reports, which all get the same further information. -/
theorem advances_writeReports (information : List Value) (reports : List Report)
    (system : System P C) :
    Advances (reports.map fun report ↦ .row Mode.time.tag { report with information }) system
      (writeReports information reports system).2 := by
  induction reports generalizing system with
  | nil => exact Advances.of_untouched (refl_of Untouched system)
  | cons report reports ih =>
    have hrow := advances_writeRow Mode.time.tag { report with information } system
    exact hrow.trans (ih _)

theorem steady_writeReports (information : List Value) (reports : List Report) :
    Keeps Steady (writeReports information reports : Run P C Unit) := by
  induction reports with
  | nil => exact Keeps.pure _
  | cons report reports ih => exact Keeps.bind (steady_writeRow _ _) fun _ ↦ ih

theorem sameDriver_writeReports (information : List Value) (reports : List Report) :
    Keeps SameDriver (writeReports information reports : Run P C Unit) := by
  induction reports with
  | nil => exact Keeps.pure _
  | cons report reports ih => exact Keeps.bind (sameDriver_writeRow _ _) fun _ ↦ ih

/-- The reports of a poll are taken by writing them out; what comes before and behind is talk. -/
theorem exists_takeReports (connection : P.Connection) (system : System P C) :
    let saved := P.savedReports connection system.driver
    let values := P.informationValues connection saved.state
    ∃ asked, Idle system asked ∧
      Idle (writeReports values.result saved.result asked).2 (takeReports connection system).2 ∧
      (takeReports connection system).2.driver = (P.reset connection values.state).state := by
  intro saved values
  let asked := (askDriver (P.savedReports connection) system).2
  let told := (askDriver (P.informationValues connection) asked).2
  let logged := (log (.drained saved.result.length) told).2
  have hasked : asked.driver = saved.state := driver_askDriver _ system
  have hvalues : P.informationValues connection asked.driver = values := by
    rw [hasked]
  have htold : told.driver = values.state := by
    rw [← hvalues]
    exact driver_askDriver _ asked
  let written := (writeReports values.result saved.result logged).2
  have hwritten : written.driver = values.state :=
    (sameDriver_writeReports values.result saved.result logged).trans htold
  let noted := (note .reset written).2
  have hresult : (askDriver (P.informationValues connection) asked).1 = values.result := by
    rw [← hvalues]
    rfl
  have htake : (takeReports connection system).2 = (askDriver (P.reset connection) noted).2 := by
    have hafter : (takeReports connection system).2 = (askDriver (P.reset connection)
        (note .reset (writeReports (askDriver (P.informationValues connection) asked).1
          saved.result logged).2).2).2 := rfl
    rw [hafter, hresult]
  have hidle : Idle system logged :=
    trans_of Idle (idle_askDriver _ system)
      (trans_of Idle (idle_askDriver _ asked) (idle_log _ told))
  have hbehind : Idle written (askDriver (P.reset connection) noted).2 :=
    trans_of Idle (idle_note _ written) (idle_askDriver _ noted)
  rw [htake]
  refine ⟨logged, hidle, hbehind, ?_⟩
  rw [driver_askDriver]
  exact congrArg (fun driver ↦ (P.reset connection driver).state) hwritten

/-- What taking the reports of a poll leaves behind. -/
theorem takeReports_spec (connection : P.Connection) (system : System P C) :
    let saved := P.savedReports connection system.driver
    let values := P.informationValues connection saved.state
    Advances (saved.result.map fun report ↦
        .row Mode.time.tag { report with information := values.result }) system
      (takeReports connection system).2 ∧
      (takeReports connection system).2.driver = (P.reset connection values.state).state := by
  intro saved values
  obtain ⟨asked, hidle, hbehind, hdriver⟩ := exists_takeReports connection system
  have hrows := advances_writeReports values.result saved.result asked
  exact ⟨(hrows.idle_left hidle).untouched_right hbehind.toUntouched, hdriver⟩

theorem steady_takeReports (connection : P.Connection) :
    Keeps Steady (takeReports connection : Run P C Nat) := by
  unfold takeReports
  refine Keeps.bind (idle_askDriver _).steady fun reports ↦
    Keeps.bind (idle_askDriver _).steady fun values ↦
    Keeps.bind (idle_log _).steady fun _ ↦
    Keeps.bind (steady_writeReports values reports) fun _ ↦
    Keeps.bind (idle_note _).steady fun _ ↦
    Keeps.bind (idle_askDriver _).steady fun _ ↦ Keeps.pure _

/-- The induction is on the fuel: each poll that finds something adds its rows. -/
theorem advances_drainLoop (connection : P.Connection) (fuel : Nat) (system : System P C) :
    Advances ((streamedReports connection fuel system.driver).map (.row Mode.time.tag)) system
      (drainLoop connection fuel system).2 := by
  induction fuel generalizing system with
  | zero => exact Advances.of_untouched (refl_of Untouched system)
  | succ fuel ih =>
    let noted := (note .poll system).2
    let polled := (askDriver (P.poll connection) noted).2
    have hidle : Idle system polled :=
      trans_of Idle (idle_note _ system) (idle_askDriver _ noted)
    have hdriver : polled.driver = (P.poll connection system.driver).state :=
      driver_askDriver _ noted
    have hloop : (drainLoop connection (fuel + 1) system).2 =
        if (P.poll connection system.driver).result then
          (drainLoop connection fuel (takeReports connection polled).2).2
        else polled := by
      have hanswer : (askDriver (P.poll connection) noted).1 =
          (P.poll connection system.driver).result := rfl
      rw [drainLoop, bind_apply, bind_apply, hanswer]
      cases (P.poll connection system.driver).result <;> rfl
    rw [hloop, streamedReports]
    cases hfound : (P.poll connection system.driver).result with
    | false => exact Advances.of_untouched hidle.toUntouched
    | true =>
      obtain ⟨htaken, hstate⟩ := takeReports_spec connection polled
      have hrest := ih (takeReports connection polled).2
      rw [hstate, hdriver] at hrest
      rw [hdriver] at htaken
      simp only [if_true, List.map_append, List.map_map]
      exact (htaken.trans hrest).idle_left hidle

theorem steady_drainLoop (connection : P.Connection) (fuel : Nat) :
    Keeps Steady (drainLoop connection fuel : Run P C Nat) := by
  induction fuel with
  | zero => exact Keeps.pure _
  | succ fuel ih =>
    unfold drainLoop
    refine Keeps.bind (idle_note _).steady fun _ ↦
      Keeps.bind (idle_askDriver _).steady fun found ↦ ?_
    split
    · exact Keeps.bind (steady_takeReports connection) fun _ ↦ Keeps.bind ih fun _ ↦ Keeps.pure _
    · exact Keeps.pure _

/-- What draining a stream leaves behind. -/
theorem drainStream_spec (system : System P C) :
    Advances (Op.entries .drain system) system (drainStream system).2 ∧
      Steady system (drainStream system).2 := by
  have hrun : (drainStream system).2 = (Run.withDriver drainActive system).2 := rfl
  rw [hrun, Op.entries]
  cases hactive : system.session.active? with
  | none =>
    obtain ⟨-, hidle, -⟩ := withDriver_of_none hactive drainActive
    exact ⟨Advances.of_untouched hidle.toUntouched, hidle.toSteady⟩
  | some active =>
    rw [withDriver_of_active hactive, drainActive]
    by_cases hmode : active.mode = .time
    · rw [if_neg (not_not.2 hmode)]
      simp only [if_pos hmode]
      let fuel := P.backlog active.connection system.driver + 1
      let drained := (drainLoop active.connection fuel system).2
      have hloop : Advances _ system drained := advances_drainLoop active.connection fuel system
      have hsteady : Steady system drained := steady_drainLoop active.connection fuel system
      have hcount : ∀ n : Nat, Keeps Idle (do
          if n ≠ 0 then
            Run.count fun counts ↦ { counts with streamReports := counts.streamReports + n }
          return n : Run P C Nat) := by
        intro n
        dsimp only
        split
        · exact Keeps.bind (idle_count _) fun _ ↦ Keeps.pure _
        · exact Keeps.pure _
      have hcounted := hcount (drainLoop active.connection fuel system).1 drained
      exact ⟨hloop.untouched_right hcounted.toUntouched, trans_of Steady hsteady hcounted.toSteady⟩
    · rw [if_pos hmode]
      simp only [if_neg hmode]
      have hlog := idle_log (.drainInMode active.mode) system
      exact ⟨Advances.of_untouched hlog.toUntouched, hlog.toSteady⟩

end Streams

/-! ### Events -/

section Events

open GpuCounters.System GpuCounters.Run

/-- A query answers what the compute API answers. -/
theorem query_result (operation : String) (event : Event) (size : Nat) (system : System P C) :
    (query operation event size system).1 =
      (C.profilingInfo event size system.compute).result := by
  let noted := (note (.profilingQuery event) system).2
  have hanswer : (askCompute (C.profilingInfo event size) noted).1 =
      (C.profilingInfo event size system.compute).result := rfl
  rw [query, bind_apply, bind_apply, hanswer]
  cases (C.profilingInfo event size system.compute).result with
  | error status => rfl
  | ok info =>
    dsimp only
    by_cases hsize : info.size ≠ size
    · rw [if_pos hsize]
      rfl
    · rw [if_neg hsize]
      rfl

theorem sameDriver_query (operation : String) (event : Event) (size : Nat) :
    Keeps SameDriver (query operation event size : Run P C (Except Status ProfilingInfo)) := by
  unfold query
  refine Keeps.bind (fun _ ↦ rfl) fun _ ↦ Keeps.bind (sameDriver_askCompute _) fun result ↦ ?_
  cases result with
  | error status => exact fun _ ↦ rfl
  | ok info =>
    dsimp only
    split <;> exact fun _ ↦ rfl

/-- What reading the report of an event leaves behind: a row, or nothing. -/
theorem readEvent_spec (operation : String) (event : Event) (active : Active P)
    (system : System P C) :
    match sampledReport? event active system with
    | some report => ∃ asked, Idle system asked ∧
        readEvent operation event active system =
          (.ok report, (writeRow operation report asked).2)
    | none => Idle system (readEvent operation event active system).2 ∧
        ∃ outcome, (readEvent operation event active system).1 = .error outcome := by
  by_cases hmode : active.mode = .event
  · let size := P.reportSize active.connection system.driver
    let queried := (query operation event size system).2
    have hidle : Idle system queried := idle_query operation event size system
    have hdriver : queried.driver = system.driver := sameDriver_query operation event size system
    rw [sampledReport?, if_pos hmode, readEvent, if_neg (not_not.2 hmode)]
    rw [bind_apply, get_apply, bind_apply, query_result]
    dsimp only
    cases (C.profilingInfo event size system.compute).result with
    | error status => exact ⟨hidle, _, rfl⟩
    | ok info =>
      let bytes := info.buffer size
      let decoded := (decode active.connection bytes queried).2
      have hreport : (decode active.connection bytes queried).1 =
          (P.decode bytes active.connection system.driver).result := by
        rw [← hdriver]
        rfl
      have hdecoded : Idle system decoded :=
        trans_of Idle hidle (idle_decode active.connection bytes queried)
      dsimp only
      rw [bind_apply, hreport]
      by_cases hempty :
          (P.decode bytes active.connection system.driver).result.isEmpty = true
      · rw [if_pos hempty, if_pos hempty]
        have hcounted := idle_count
          (fun counts ↦ { counts with emptySamples := counts.emptySamples + 1 }) decoded
        exact ⟨trans_of Idle hdecoded hcounted, _, rfl⟩
      · rw [if_neg hempty, if_neg hempty]
        refine ⟨decoded, hdecoded, ?_⟩
        rw [bind_apply, pure_apply]
  · rw [sampledReport?, if_neg hmode, readEvent, if_pos hmode]
    exact ⟨idle_log _ system, _, rfl⟩

/-- What sampling an event leaves behind: a row and a report summed up, or nothing. -/
theorem sampleEvent_spec (operation : String) (event : Event) (system : System P C) :
    match system.session.active?.bind fun active ↦ sampledReport? event active system with
    | some report => Advances [.row operation report] system
          (sampleEvent operation event system).2 ∧
        (sampleEvent operation event system).2.session.active? = system.session.active? ∧
        (sampleEvent operation event system).2.session.aggregator =
          system.session.aggregator.add operation report
    | none => Idle system (sampleEvent operation event system).2 := by
  rw [sampleEvent, bind_apply]
  cases hactive : system.session.active? with
  | none =>
    obtain ⟨hresult, hidle, -⟩ := withDriver_of_none hactive (readEvent operation event)
    rw [hresult]
    exact hidle
  | some active =>
    rw [withDriver_of_active hactive, Option.bind_some]
    have hread := readEvent_spec operation event active system
    cases hsampled : sampledReport? event active system with
    | none =>
      rw [hsampled] at hread
      obtain ⟨hidle, outcome, houtcome⟩ := hread
      rw [houtcome]
      exact hidle
    | some report =>
      rw [hsampled] at hread
      obtain ⟨asked, hidle, heq⟩ := hread
      rw [heq]
      have hrow := (advances_writeRow operation report asked).idle_left hidle
      have hsteady := trans_of Steady hidle.toSteady (steady_writeRow operation report asked)
      let written := (writeRow operation report asked).2
      let after := (modifySession (fun session ↦
        { session with aggregator := session.aggregator.add operation report }) written).2
      have hsummed : Untouched written after :=
        ⟨⟨rfl, rfl, List.prefix_refl _⟩, rfl, rfl, rfl⟩
      have hcounted := (idle_count
        (fun counts ↦ { counts with eventReports := counts.eventReports + 1 }) after)
      have hrest := trans_of Untouched hsummed hcounted.toUntouched
      refine ⟨hrow.untouched_right hrest, hsteady.active.trans hactive, ?_⟩
      exact congrArg (·.add operation report) hsteady.aggregator

end Events

/-! ### Starting, writing and closing -/

section Life

open GpuCounters.System GpuCounters.Run

theorem write_spec (label : String) (report : Report) (system : System P C) :
    Advances (Op.entries (.write label report) system) system
        (Session.write label report system).2 ∧
      Steady system (Session.write label report system).2 := by
  have hrun : (Session.write label report system).2 =
      (Run.withDriver (fun _ ↦ writeRow label report) system).2 := rfl
  rw [hrun, Op.entries]
  cases hactive : system.session.active? with
  | none =>
    obtain ⟨-, hidle, -⟩ := withDriver_of_none hactive fun _ ↦ writeRow label report
    exact ⟨Advances.of_untouched hidle.toUntouched, hidle.toSteady⟩
  | some active =>
    rw [withDriver_of_active hactive]
    exact ⟨advances_writeRow label report system, steady_writeRow label report system⟩

theorem connect_result (request : Driver.Request) (system : System P C) :
    (connect request system).1 = (P.connect request system.driver).result := by
  let noted := (note (.connect request) system).2
  have hanswer : (askDriver (P.connect request) noted).1 =
      (P.connect request system.driver).result := rfl
  rw [connect, bind_apply, bind_apply, hanswer]
  cases (P.connect request system.driver).result <;> rfl

theorem dumpFile_eq {before after : System P C} (h : Later before after) (metricSet : String) :
    after.dumpFile metricSet = before.dumpFile metricSet := by
  unfold System.dumpFile
  rw [h.root, h.process]

/-- The session once it is live for a request. -/
def activated (request : Driver.Request) (connection : P.Connection) (session : Session P) :
    Session P :=
  { session with
    active? := some ⟨request.mode, request.metricSet, connection⟩
    connectFailures := 0
    uninitializedReported := false }

theorem modifySession_activated (request : Driver.Request) (connection : P.Connection)
    (system : System P C) :
    Untouched system (modifySession (activated request connection) system).2 ∧
      (modifySession (activated request connection) system).2.session.active? =
        some ⟨request.mode, request.metricSet, connection⟩ ∧
      (modifySession (activated request connection) system).2.session.aggregator =
        system.session.aggregator :=
  ⟨⟨⟨rfl, rfl, List.prefix_refl _⟩, rfl, rfl, rfl⟩, rfl, rfl⟩

/-- A system in which the dump of a request was opened and the session is live. -/
def opened (request : Driver.Request) (connection : P.Connection) (system : System P C) :
    System P C :=
  (modifySession (activated request connection)
    (openDump request.mode request.metricSet connection system).2).2

/-- Once connected, the stream is opened if there is to be one, and then the dump. -/
theorem start_of_connected {system : System P C} (hdump : system.session.dump? = none)
    {request : Driver.Request} {connection : P.Connection}
    (hconnect : (P.connect request system.driver).result = .ok connection) :
    ∃ streamed, Idle system streamed ∧
      (start request system).2 = opened request connection streamed := by
  have hconnected := idle_connect request system
  rw [start, bind_apply, connect_result, hconnect]
  dsimp only
  by_cases htime : request.mode = .time
  · have hstreamed := trans_of Idle hconnected (idle_openStream connection _)
    have hnone := hstreamed.dump.trans hdump
    refine ⟨_, hstreamed, ?_⟩
    rw [if_pos htime]
    simp only [bind_apply, session_apply, hnone, Option.isNone_none, if_true]
    rfl
  · have hnone := hconnected.dump.trans hdump
    refine ⟨_, hconnected, ?_⟩
    rw [if_neg htime]
    simp only [bind_apply, session_apply, hnone, Option.isNone_none, if_true]
    rfl

/-- What connecting leaves behind where no dump is open. -/
theorem start_spec {system : System P C} (hdump : system.session.dump? = none)
    (request : Driver.Request) :
    match (P.connect request system.driver).result with
    | .ok connection =>
      Advances [.opened (system.dumpFile request.metricSet) (layout request.mode connection)] system
          (start request system).2 ∧
        (start request system).2.session.active? =
          some ⟨request.mode, request.metricSet, connection⟩ ∧
        (start request system).2.session.aggregator = system.session.aggregator
    | .error _ => Idle system (start request system).2 := by
  cases hconnect : (P.connect request system.driver).result with
  | error cause =>
    have hconnected := idle_connect request system
    rw [start, bind_apply, connect_result, hconnect]
    exact hconnected
  | ok connection =>
    obtain ⟨streamed, hidle, hstart⟩ := start_of_connected hdump hconnect
    have hnone := hidle.dump.trans hdump
    have hopen := advances_openDump hnone request.mode request.metricSet connection
    have hsteady := steady_openDump request.mode request.metricSet connection streamed
    obtain ⟨hlive, hactive, haggregator⟩ := modifySession_activated request connection
      (openDump request.mode request.metricSet connection streamed).2
    rw [dumpFile_eq hidle.toLater] at hopen
    rw [hstart]
    exact ⟨(hopen.untouched_right hlive).idle_left hidle, hactive,
      haggregator.trans (hsteady.aggregator.trans hidle.aggregator)⟩

theorem later_start (request : Driver.Request) :
    Keeps Later (start request : Run P C (Except Error Unit)) := by
  unfold start
  refine Keeps.bind (idle_connect request).steady.later fun result ↦ ?_
  cases result with
  | error cause => exact Keeps.pure _
  | ok connection =>
    have hopen : Keeps Later
        (openDump request.mode request.metricSet connection : Run P C Unit) :=
      (steady_openDump _ _ _).later
    have hlive : Keeps Later (modifySession (activated request connection) : Run P C Unit) :=
      fun system ↦ (modifySession_activated request connection system).1.toLater
    have hrest : Keeps Later (do
        if (← Run.session).dump?.isNone then
          openDump request.mode request.metricSet connection
        modifySession (activated request connection)
        return .ok () : Run P C (Except Error Unit)) := by
      refine Keeps.bind Keeps.session fun session ↦ ?_
      dsimp only
      split
      · exact Keeps.bind hopen fun _ ↦ Keeps.bind hlive fun _ ↦ Keeps.pure _
      · exact Keeps.bind hlive fun _ ↦ Keeps.pure _
    dsimp only
    split
    · exact Keeps.bind (idle_openStream connection).steady.later fun _ ↦ hrest
    · exact hrest

theorem disconnect_spec (system : System P C) :
    Untouched system (disconnect system).2 ∧
      (disconnect system).2.session.active? = none ∧
      (disconnect system).2.session.aggregator = system.session.aggregator := by
  refine ⟨untouched_disconnect system, ?_⟩
  rw [disconnect, bind_apply, session_apply]
  cases hactive : system.session.active? with
  | none => exact ⟨hactive, rfl⟩
  | some active =>
    let left : System P C := { system with session := { system.session with active? := none } }
    have hidle := trans_of Idle (idle_note .disconnect left)
      (idle_askDriver (P.disconnect active.connection) (note .disconnect left).2)
    exact ⟨hidle.active, hidle.aggregator⟩

/-- What closing leaves behind. -/
theorem close_spec (system : System P C) :
    Advances [.closed] system (Session.close system).2 ∧
      (Session.close system).2.session.active? = none ∧
      (Session.close system).2.session.aggregator = system.session.aggregator := by
  have hclosed := advances_closeDump system
  have hsteady := steady_closeDump system
  obtain ⟨huntouched, hactive, haggregator⟩ := disconnect_spec (closeDump system).2
  have hflag : ∀ last : System P C,
      Idle last (modifySession (fun session ↦ { session with missingReported := false }) last).2 :=
    fun _ ↦ ⟨⟨⟨rfl, rfl, List.prefix_refl _⟩, rfl, rfl, rfl⟩, rfl, rfl⟩
  have hlast := hflag (disconnect (closeDump system).2).2
  exact ⟨(hclosed.untouched_right huntouched).untouched_right hlast.toUntouched,
    hlast.active.trans hactive,
    hlast.aggregator.trans (haggregator.trans hsteady.aggregator)⟩

end Life

/-! ## Runs -/

section Runs

open GpuCounters.System GpuCounters.Run

/-- Whether a system between two operations is what a ledger says. -/
structure Ledger.Settles (ledger : Ledger) (base : Disk) (system : System P C) : Prop extends
    Ledger.Describes ledger base system where
  /-- A dump is open exactly while a driver is live -/
  live : system.session.active?.isSome = ledger.current?.isSome

variable {ledger : Ledger} {base : Disk} {system : System P C}

theorem Ledger.Settles.dump?_eq_none (h : ledger.Settles base system)
    (hactive : system.session.active? = none) : system.session.dump? = none := by
  have hlive := h.live
  have hcurrent := h.current
  rw [hactive, Option.isSome_none, eq_comm, Option.isSome_eq_false_iff, Option.isNone_iff_eq_none]
    at hlive
  rw [hlive] at hcurrent
  exact Option.map_eq_none_iff.1 hcurrent

theorem current?_row (ledger : Ledger) (label : String) (report : Report) :
    (ledger.record (.row label report)).current? = ledger.current? := by
  cases hcurrent : ledger.current? with
  | none => rw [Ledger.record_row_of_none hcurrent, hcurrent]
  | some current =>
    cases hvolume : ledger.volumes current.1.place with
    | none => rw [Ledger.record_row_of_volume_none hcurrent hvolume, hcurrent]
    | some volume =>
      rw [Ledger.record_row_of_volume hcurrent hvolume]
      exact hcurrent

theorem current?_opened (ledger : Ledger) (path : Path) (layout : Dump.Layout) :
    (ledger.record (.opened path layout)).current? = some (path, layout.rowShape) := by
  unfold Ledger.record
  dsimp only
  split <;> rfl

theorem current?_rows (ledger : Ledger) {entries : List Entry}
    (h : ∀ entry ∈ entries, ∃ label report, entry = .row label report) :
    (ledger.recordAll entries).current? = ledger.current? := by
  induction entries generalizing ledger with
  | nil => rfl
  | cons entry entries ih =>
    obtain ⟨label, report, rfl⟩ := h entry List.mem_cons_self
    rw [Ledger.recordAll_cons, ih _ fun x hx ↦ h x (List.mem_cons_of_mem _ hx), current?_row]

/-- Work that writes rows and leaves the live driver alone. -/
theorem Ledger.Settles.rows (h : ledger.Settles base system) {entries : List Entry}
    {after : System P C} (hadvances : Advances entries system after)
    (hrows : ∀ entry ∈ entries, ∃ label report, entry = .row label report)
    (hactive : after.session.active? = system.session.active?) (hfaultless : after.IsFaultless) :
    (ledger.recordAll entries).Settles base after where
  toDescribes := hadvances.describes hfaultless ledger base h.toDescribes
  live := by rw [hactive, h.live, current?_rows ledger hrows]

theorem isRow_entries {op : Op P C} (hstarts : ∀ request, op ≠ .start request)
    (hclose : op ≠ .close) :
    ∀ entry ∈ op.entries system, ∃ label report, entry = .row label report := by
  intro entry hentry
  cases op with
  | start request => exact absurd rfl (hstarts request)
  | close => exact absurd rfl hclose
  | outside driver compute => simp [Op.entries] at hentry
  | write label report =>
    rw [Op.entries] at hentry
    split at hentry
    · exact ⟨label, report, List.mem_singleton.1 hentry⟩
    · simp at hentry
  | sample operation event =>
    rw [Op.entries] at hentry
    split at hentry
    · rename_i report _
      exact ⟨operation, report, List.mem_singleton.1 hentry⟩
    · simp at hentry
  | drain =>
    rw [Op.entries] at hentry
    split at hentry
    · split at hentry
      · obtain ⟨report, -, rfl⟩ := List.mem_map.1 hentry
        exact ⟨_, report, rfl⟩
      · simp at hentry
    · simp at hentry

/-- Starting opens a dump if it leads to a live driver, and does nothing to one that is live. -/
theorem Ledger.Settles.start (h : ledger.Settles base system) (request : Driver.Request)
    (hfaultless : (ensureInitialized request system).2.IsFaultless) :
    (ledger.recordAll (Op.entries (.start request) system)).Settles base
      (ensureInitialized request system).2 := by
  rw [ensureInitialized, bind_apply, session_apply] at hfaultless ⊢
  rw [Op.entries]
  cases hactive : system.session.active? with
  | some active =>
    dsimp only
    split <;> exact h
  | none =>
    rw [hactive] at hfaultless
    have hstart := start_spec (h.dump?_eq_none hactive) request
    dsimp only
    cases hconnect : (P.connect request system.driver).result with
    | error cause =>
      rw [hconnect] at hstart
      exact ⟨h.toDescribes.untouched hstart.toUntouched, by rw [hstart.active, h.live]; rfl⟩
    | ok connection =>
      rw [hconnect] at hstart
      obtain ⟨hadvances, hlive, -⟩ := hstart
      refine ⟨hadvances.describes hfaultless ledger base h.toDescribes, ?_⟩
      rw [hlive, Ledger.recordAll_cons, Ledger.recordAll_nil, current?_opened]
      rfl

theorem Ledger.Settles.sample (h : ledger.Settles base system) (operation : String) (event : Event)
    (hfaultless : (sampleEvent operation event system).2.IsFaultless) :
    (ledger.recordAll (Op.entries (.sample operation event) system)).Settles base
      (sampleEvent operation event system).2 := by
  have hsample := sampleEvent_spec operation event system
  rw [Op.entries]
  cases hsampled : system.session.active?.bind fun active ↦
      sampledReport? event active system with
  | none =>
    rw [hsampled] at hsample
    exact h.rows (Advances.of_untouched hsample.toUntouched) (by simp) hsample.active hfaultless
  | some report =>
    rw [hsampled] at hsample
    obtain ⟨hadvances, hactive, -⟩ := hsample
    exact h.rows hadvances (by simp) hactive hfaultless

/-- Every operation does to the dumps what its entries say. -/
theorem Ledger.Settles.run (h : ledger.Settles base system) (op : Op P C)
    (hfaultless : (op.run system).2.IsFaultless) :
    (ledger.recordAll (op.entries system)).Settles base (op.run system).2 := by
  cases op with
  | start request => exact h.start request hfaultless
  | write label report =>
    obtain ⟨hadvances, hsteady⟩ := write_spec label report system
    exact h.rows hadvances (isRow_entries (by simp) (by simp)) hsteady.active hfaultless
  | sample operation event => exact h.sample operation event hfaultless
  | drain =>
    obtain ⟨hadvances, hsteady⟩ := drainStream_spec system
    exact h.rows hadvances (isRow_entries (by simp) (by simp)) hsteady.active hfaultless
  | close =>
    obtain ⟨hadvances, hactive, -⟩ := close_spec system
    refine ⟨hadvances.describes hfaultless ledger base h.toDescribes, ?_⟩
    show (Session.close system).2.session.active?.isSome = _
    rw [hactive]
    rfl
  | outside driver compute =>
    have huntouched : Untouched system (Op.run (.outside driver compute) system).2 :=
      ⟨⟨rfl, rfl, List.prefix_refl _⟩, rfl, rfl, rfl⟩
    exact ⟨h.toDescribes.untouched huntouched, h.live⟩

theorem later_run (op : Op P C) : Keeps Later op.run := by
  intro system
  cases op with
  | start request =>
    have hstarts : Keeps Later
        (ensureInitialized request : Run P C (Except Error Unit)) := by
      unfold ensureInitialized
      refine Keeps.bind Keeps.session fun session ↦ ?_
      split
      · split <;> exact Keeps.pure _
      · exact later_start request
    exact hstarts system
  | write label report => exact (write_spec label report system).2.toLater
  | sample operation event =>
    have hsample := sampleEvent_spec operation event system
    split at hsample
    · exact hsample.1.toLater
    · exact hsample.toLater
  | drain => exact (drainStream_spec system).2.toLater
  | close => exact (close_spec system).1.toLater
  | outside driver compute => exact ⟨rfl, rfl, List.prefix_refl _⟩

theorem later_runAll (ops : List (Op P C)) (system : System P C) :
    Later system (runAll ops system) := by
  induction ops generalizing system with
  | nil => exact refl_of Later system
  | cons op ops ih => exact trans_of Later (later_run op system) (ih _)

/-- The induction is on the operations: what one of them does, all of them do in turn. -/
theorem Ledger.Settles.runAll (h : ledger.Settles base system) (ops : List (Op P C))
    (hfaultless : (runAll ops system).IsFaultless) :
    (ledger.recordAll (entriesOf ops system)).Settles base (Session.runAll ops system) := by
  induction ops generalizing ledger system with
  | nil => exact h
  | cons op ops ih =>
    have hfirst := h.run op ((later_runAll ops _).isFaultless hfaultless)
    rw [entriesOf, Ledger.recordAll_append]
    exact ih hfirst hfaultless

/-- A fresh session has no dumps. -/
theorem settles_of_fresh (hsound : system.disk.Sound) (hfresh : system.session = {}) :
    ({} : Ledger).Settles system.disk system := by
  refine ⟨⟨hsound, ?_, ?_, ?_, ?_, fun _ _ ↦ rfl, ?_⟩, ?_⟩
  · rw [hfresh]
  · rw [hfresh]
    rfl
  · rw [hfresh]
    simp
  · simp
  · simp
  · rw [hfresh]
    rfl

/-- The dumps of a whole run are what the ledger of its entries says. -/
theorem settles_runAll (hsound : system.disk.Sound) (hfresh : system.session = {})
    (ops : List (Op P C)) (hfaultless : (runAll ops system).IsFaultless) :
    (ledgerOf (entriesOf ops system)).Settles system.disk (Session.runAll ops system) :=
  (settles_of_fresh hsound hfresh).runAll ops hfaultless

end Runs

/-! ## Scripted sessions -/

/-- A system that has done nothing yet, on an empty disk and with a driver that follows a script. -/
def scripted (script : Driver.Script) :
    System (Driver.scripted (some script)) Compute.simulated where
  driver := ({} : Driver.Scripted.State)
  compute := ({} : Compute.Simulated.State)
  disk := .empty
  dumpRoot := ⟨"/tmp"⟩
  process := "1"

/-- A request for a metric set of a driver that follows a script. -/
def scriptedRequest (mode : Mode) (metricSet : String) (includeMax : Bool) : Driver.Request where
  mode
  library := "libmd.so"
  metricSet
  metricsFile? := none
  includeMax

end GpuCounters.Session
