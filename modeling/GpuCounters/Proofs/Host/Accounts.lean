import GpuCounters.Proofs.Host.DumpFaults
import GpuCounters.Proofs.Queue.Protocol
import GpuCounters.Proofs.Session.Draining
import GpuCounters.Proofs.Session.Lifecycle
import GpuCounters.Proofs.Session.Talk
import GpuCounters.Proofs.Summary.Indexing

/-!
# Accounts

Whatever is counted is counted for something else: an answer that was given, a report that was
queried or summed up, or a row of a dump. Each piece of work has an account of what it answered and
of which dumps it gave up, and the counts change by that account alone. Talk has nothing to account
for.
-/

namespace GpuCounters

variable {P : Driver.Provider} {C : Compute}

/-! ## Answers -/

namespace Host.Answer

def isCreated : Answer → Bool
  | .created (.ok _) => true
  | _ => false

def isRejected : Answer → Bool
  | .created (.error (.rejected _)) => true
  | _ => false

def isRecorded : Answer → Bool
  | .sampled (.recorded _) => true
  | _ => false

/-- Whether the report of a sample could not be queried. -/
def isQueryFailure : Answer → Bool
  | .sampled (.queryFailed _) => true
  | _ => false

def isEmpty : Answer → Bool
  | .sampled .empty => true
  | _ => false

/-- The number of reports that a stream was drained of. -/
def reports : Answer → Nat
  | .drained reports => reports
  | _ => 0

/-- The counts with one more answer. -/
def enter (counts : Telemetry) : Answer → Telemetry
  | .created (.error (.rejected _)) => { counts with rejected := counts.rejected + 1 }
  | .created result => Queue.countOutcome counts result
  | .sampled (.recorded _) => { counts with eventReports := counts.eventReports + 1 }
  | .sampled (.queryFailed _) => { counts with queryFailures := counts.queryFailures + 1 }
  | .sampled .empty => { counts with emptySamples := counts.emptySamples + 1 }
  | .drained reports => { counts with streamReports := counts.streamReports + reports }
  | .sampled .noSession | .sampled .wrongMode | .started _ | .written _ | .summary _ | .silent =>
    counts

/-- How many reports of events were queried for some answers. -/
def queries (answers : List Answer) : Nat :=
  answers.countP isRecorded + answers.countP isQueryFailure + answers.countP isEmpty

theorem queries_append (answers more : List Answer) :
    queries (answers ++ more) = queries answers + queries more := by
  unfold queries
  rw [List.countP_append, List.countP_append, List.countP_append]
  omega

/-- Answers and rows are counted apart. -/
theorem withoutDumps_enter (counts : Telemetry) (answer : Answer) :
    (enter counts answer).withoutDumps = enter counts.withoutDumps answer := by
  unfold enter Queue.countOutcome
  split <;> first | rfl | split <;> rfl

theorem dumpRows_enter (counts : Telemetry) (answer : Answer) :
    (enter counts answer).dumpRows = counts.dumpRows := by
  unfold enter Queue.countOutcome
  split <;> first | rfl | split <;> rfl

end Host.Answer

/-- Whether the report of an event was queried. -/
def Activity.isQuery : Activity → Bool
  | .profilingQuery _ => true
  | _ => false

namespace System

def queries (system : System P C) : Nat := system.activities.toList.countP Activity.isQuery

def openRows (system : System P C) : Nat :=
  (system.session.dump?.toList.map fun writer : Dump.Writer ↦ writer.rows).sum

theorem openRows_of_dump {system : System P C} {writer : Dump.Writer}
    (h : system.session.dump? = some writer) : system.openRows = writer.rows := by
  rw [openRows, h, Option.toList_some, List.map_singleton, List.sum_singleton]

theorem openRows_of_none {system : System P C} (h : system.session.dump? = none) :
    system.openRows = 0 := by
  rw [openRows, h]
  rfl

theorem queries_of_spares {before after : System P C}
    (h : Spares (fun concern ↦ concern = .events) before after) :
    after.queries = before.queries := by
  have hall : ∀ system : System P C, system.queries =
      (system.asked fun concern ↦ concern = .events).countP Activity.isQuery := by
    intro system
    rw [queries, asked, List.countP_filter]
    apply List.countP_congr
    intro activity _
    cases activity <;> simp [Activity.isQuery, Activity.concern]
  rw [hall, hall, h.asked]

end System

/-! ## Accounts of work -/

namespace Host

open GpuCounters.System GpuCounters.Run

/-- Whether some work has answered so and given up these dumps, by what it has counted. What is
counted of dumps is a balance: the rows of the dumps that were open or were counted are those of the
dumps that were given up or are open. -/
structure Accounts (answers : List Answer) (closed : List Dump.Writer)
    (before after : System P C) : Prop where
  counts : after.telemetry.withoutDumps =
    answers.foldl Answer.enter before.telemetry.withoutDumps
  queries : after.queries = before.queries + Answer.queries answers
  sums : ∃ rows : List (String × Report), rows.length = answers.countP Answer.isRecorded ∧
    after.session.aggregator = before.session.aggregator.addAll rows
  rows : before.openRows + after.telemetry.dumpRows =
    before.telemetry.dumpRows + (closed.map fun writer : Dump.Writer ↦ writer.rows).sum +
      after.openRows

section Accounts

variable {answers more : List Answer} {closed others : List Dump.Writer}
  {first second third : System P C}

theorem Accounts.trans (h : Accounts answers closed first second)
    (hmore : Accounts more others second third) :
    Accounts (answers ++ more) (closed ++ others) first third where
  counts := by
    calc third.telemetry.withoutDumps
      _ = more.foldl Answer.enter second.telemetry.withoutDumps := hmore.counts
      _ = more.foldl Answer.enter (answers.foldl Answer.enter first.telemetry.withoutDumps) := by
        rw [h.counts]
      _ = (answers ++ more).foldl Answer.enter first.telemetry.withoutDumps :=
        List.foldl_append.symm
  queries := by
    rw [hmore.queries, h.queries, Answer.queries_append, Nat.add_assoc]
  sums := by
    obtain ⟨rows, hrows, hsums⟩ := h.sums
    obtain ⟨later, hlater, hlast⟩ := hmore.sums
    refine ⟨rows ++ later, ?_, ?_⟩
    · rw [List.length_append, hrows, hlater, List.countP_append]
    · rw [hlast, hsums, Summary.Aggregator.addAll_append]
  rows := by
    have hfirst := h.rows
    have hlast := hmore.rows
    rw [List.map_append, List.sum_append]
    omega

/-- Where nothing that counts has changed there is nothing to account for. -/
theorem accounts_of_eq (htelemetry : second.telemetry = first.telemetry)
    (hqueries : second.queries = first.queries)
    (haggregator : second.session.aggregator = first.session.aggregator)
    (hdump : second.session.dump? = first.session.dump?) : Accounts [] [] first second where
  counts := congrArg Telemetry.withoutDumps htelemetry
  queries := hqueries
  sums := ⟨[], rfl, haggregator⟩
  rows := by
    unfold openRows
    rw [htelemetry, hdump]
    exact Nat.add_comm _ _

instance : IsPreorder (System P C) (Accounts [] []) where
  refl _ := accounts_of_eq rfl rfl rfl rfl
  trans _ _ _ h hlast := h.trans hlast

/-- An answer that is counted, and that is not about the report of an event. -/
theorem Accounts.count (h : Accounts [] closed first second) {answer : Answer}
    (hqueries : Answer.queries [answer] = 0) :
    Accounts [answer] closed first (Run.count (Answer.enter · answer) second).2 where
  counts := by
    calc (Answer.enter second.telemetry answer).withoutDumps
      _ = Answer.enter second.telemetry.withoutDumps answer := Answer.withoutDumps_enter ..
      _ = Answer.enter first.telemetry.withoutDumps answer := by rw [h.counts]; rfl
  queries := by
    rw [hqueries]
    exact h.queries
  sums := by
    obtain ⟨rows, hrows, hsums⟩ := h.sums
    refine ⟨rows, ?_, hsums⟩
    unfold Answer.queries at hqueries
    rw [hrows, List.countP_nil]
    omega
  rows := by
    have hrows := h.rows
    rw [← Answer.dumpRows_enter second.telemetry answer] at hrows
    exact hrows

/-- An answer that nothing is counted for is as good as none. -/
theorem Accounts.answer (h : Accounts [] closed first second) {answer : Answer}
    (henter : Answer.enter second.telemetry answer = second.telemetry)
    (hqueries : Answer.queries [answer] = 0) : Accounts [answer] closed first second := by
  have hcount : (Run.count (Answer.enter · answer) second).2 =
      { second with telemetry := Answer.enter second.telemetry answer } := rfl
  have hanswer := h.count hqueries
  rw [hcount, henter] at hanswer
  exact hanswer

end Accounts

/-! ## Talk and rows -/

theorem queries_note (activity : Activity) (system : System P C) :
    (note activity system).2.queries = system.queries + [activity].countP Activity.isQuery := by
  rw [System.queries, asks_note activity system, List.countP_append, System.queries]

theorem accounts_note {activity : Activity} (h : activity.isQuery = false) :
    Keeps (Accounts [] []) (note activity : Run P C Unit) := by
  intro system
  refine accounts_of_eq rfl ?_ rfl rfl
  rw [queries_note, List.countP_singleton, h]
  rfl

theorem talk_accounts : Session.Talk (Accounts (P := P) (C := C) [] []) where
  log event _ := accounts_of_eq rfl rfl rfl rfl
  note activity hactivity := accounts_note (by cases activity <;> first | rfl | contradiction)
  askDriver ask system := by
    obtain ⟨log, calls, h⟩ := askDriver_apply ask system
    rw [h]
    exact accounts_of_eq rfl rfl rfl rfl
  session change hdump haggregator system :=
    accounts_of_eq rfl rfl (haggregator system.session) (hdump system.session)

theorem accounts_askCompute {α : Type} (ask : C.State → Exchange C.State α) :
    Keeps (Accounts [] []) (askCompute ask : Run P C α) := by
  intro system
  obtain ⟨log, calls, h⟩ := askCompute_apply ask system
  rw [h]
  exact accounts_of_eq rfl rfl rfl rfl

/-- A row that is written is counted by the dump, and one that is not is not. -/
theorem rows_writeRow {writer next : Dump.Writer} {label : String} {report : Report}
    {disk later : Storage.Disk} {result : Except Dump.Error Unit}
    (h : writer.writeRow label report disk = (result, next, later)) :
    next.rows = writer.rows + if result.isOk then 1 else 0 := by
  unfold Dump.Writer.writeRow at h
  split at h <;> cases h <;> rfl

/-- A row is counted by the dump and by the telemetry, or by neither. -/
theorem accounts_writeRow (label : String) (report : Report) :
    Keeps (Accounts [] []) (Session.writeRow label report : Run P C Unit) := by
  intro before
  cases hdump : before.session.dump? with
  | none =>
    have hsaid : Keeps (Accounts [] []) (do
        Run.log .dumpMissing
        modifySession fun session ↦ { session with missingReported := true } : Run P C Unit) :=
      Keeps.bind (talk_accounts.log _) fun _ ↦
        talk_accounts.session _ (fun _ ↦ rfl) fun _ ↦ rfl
    unfold Session.writeRow
    rw [bind_apply, session_apply, hdump]
    dsimp only
    split
    · exact hsaid before
    · exact refl_of (Accounts [] []) before
  | some writer =>
    rcases hwrite : writer.writeRow label report before.disk with ⟨result, next, later⟩
    have hnext := rows_writeRow hwrite
    rw [Session.writeRow_of_dump hdump hwrite]
    cases result with
    | ok _ =>
      refine ⟨rfl, rfl, ⟨[], rfl, rfl⟩, ?_⟩
      calc before.openRows + (before.telemetry.dumpRows + 1)
        _ = before.telemetry.dumpRows + (writer.rows + 1) := by
          rw [openRows_of_dump hdump]
          omega
        _ = before.telemetry.dumpRows + next.rows := by
          rw [hnext]
          rfl
    | error cause =>
      refine ⟨rfl, rfl, ⟨[], rfl, rfl⟩, ?_⟩
      calc before.openRows + before.telemetry.dumpRows
        _ = before.telemetry.dumpRows + writer.rows := by
          rw [openRows_of_dump hdump, Nat.add_comm]
        _ = before.telemetry.dumpRows + next.rows := by
          rw [hnext]
          rfl

/-- A dump that is opened has no rows yet. -/
theorem accounts_openDump (mode : Mode) (metricSet : String) (connection : P.Connection)
    (before : System P C) (hdump : before.session.dump? = none) :
    Accounts [] [] before (Session.openDump mode metricSet connection before).2 := by
  have hnone := openRows_of_none hdump
  rcases hstart : Dump.Writer.start (before.dumpFile metricSet) (Session.layout mode connection)
    (Session.accessOf before.session (before.dumpFile metricSet)) before.disk with ⟨result, later⟩
  rw [Session.openDump_eq hstart]
  cases result with
  | error cause => exact accounts_of_eq rfl rfl rfl rfl
  | ok writer =>
    obtain ⟨output, rfl⟩ := Session.exists_of_start hstart
    dsimp only
    split
    · exact ⟨rfl, rfl, ⟨[], rfl, rfl⟩, by rw [hnone, Nat.zero_add]; rfl⟩
    · exact ⟨rfl, rfl, ⟨[], rfl, rfl⟩, by rw [hnone, Nat.zero_add]; rfl⟩

/-! ## Sessions -/

theorem accounts_ensureInitialized (request : Driver.Request) :
    Keeps (Accounts [] [])
      (Session.ensureInitialized request : Run P C (Except Session.Error Unit)) :=
  talk_accounts.ensureInitialized accounts_openDump

theorem accounts_write (label : String) (report : Report) :
    Keeps (Accounts [] []) (Session.write label report : Run P C Bool) :=
  Keeps.bind (talk_accounts.withDriver fun _ ↦ accounts_writeRow label report) fun _ ↦ Keeps.pure _

/-- A query that was counted by its outcome, and whose report was summed up if it was recorded. -/
theorem accounts_of_query {event : Event} {system done : System P C}
    (h : Accounts [] [] (note (.profilingQuery event) system).2 done)
    {outcome : Session.SampleOutcome} (hquery : Answer.queries [.sampled outcome] = 1)
    (rows : List (String × Report))
    (hrows : rows.length = [Answer.sampled outcome].countP Answer.isRecorded) :
    Accounts [.sampled outcome] [] system
      { done with
        telemetry := Answer.enter done.telemetry (.sampled outcome)
        session := { done.session with aggregator := done.session.aggregator.addAll rows } } where
  counts := by
    calc (Answer.enter done.telemetry (.sampled outcome)).withoutDumps
      _ = Answer.enter done.telemetry.withoutDumps (.sampled outcome) :=
        Answer.withoutDumps_enter ..
      _ = Answer.enter system.telemetry.withoutDumps (.sampled outcome) := by rw [h.counts]; rfl
  queries := by
    have hnoted : (note (.profilingQuery event) system).2.queries = system.queries + 1 :=
      queries_note _ _
    rw [hquery, ← hnoted]
    exact h.queries
  sums := by
    obtain ⟨nothing, hnothing, hsums⟩ := h.sums
    obtain rfl : nothing = [] := List.length_eq_zero_iff.1 hnothing
    exact ⟨rows, hrows, congrArg (·.addAll rows) hsums⟩
  rows := by
    have hbalance := h.rows
    rw [← Answer.dumpRows_enter done.telemetry (.sampled outcome)] at hbalance
    exact hbalance

/-- What a query comes to: a failure that is counted, or information with nothing counted yet. -/
theorem query_accounts (operation : String) (event : Event) (size : Nat) (system : System P C) :
    match Session.query operation event size system with
    | (.error status, after) => Accounts [.sampled (.queryFailed status)] [] system after
    | (.ok _, after) => Accounts [] [] (note (.profilingQuery event) system).2 after := by
  have hasked : Accounts [] [] (note (.profilingQuery event) system).2
      (askCompute (C.profilingInfo event size) (note (.profilingQuery event) system).2).2 :=
    accounts_askCompute _ _
  rw [Session.query, bind_apply, bind_apply]
  generalize askCompute (C.profilingInfo event size) (note (.profilingQuery event) system).2 =
    asked at hasked ⊢
  obtain ⟨result, asked⟩ := asked
  cases result with
  | error status =>
    have hlogged := hasked.trans (talk_accounts.log (.queryFailed operation status) asked)
    exact accounts_of_query hlogged rfl [] rfl
  | ok info =>
    dsimp only
    by_cases hsize : info.size ≠ size
    · rw [if_pos hsize]
      exact hasked.trans (talk_accounts.log (.sizeMismatch operation info.size size) asked)
    · rw [if_neg hsize]
      exact hasked

/-- What reading the report of an event comes to: an outcome that is counted, or a report with
nothing counted yet. -/
theorem readEvent_accounts (operation : String) (event : Event) (active : Active P)
    (system : System P C) :
    match Session.readEvent operation event active system with
    | (.error outcome, after) => Accounts [.sampled outcome] [] system after
    | (.ok _, after) => Accounts [] [] (note (.profilingQuery event) system).2 after := by
  unfold Session.readEvent
  by_cases hmode : active.mode ≠ .event
  · rw [if_pos hmode, bind_apply]
    exact (talk_accounts.log (.eventInMode active.mode) system).answer rfl rfl
  · rw [if_neg hmode, bind_apply, get_apply, bind_apply]
    have hquery := query_accounts operation event
      (P.reportSize active.connection system.driver) system
    generalize Session.query operation event (P.reportSize active.connection system.driver)
      system = queried at hquery ⊢
    obtain ⟨result, queried⟩ := queried
    cases result with
    | error status => exact hquery
    | ok info =>
      dsimp only at hquery ⊢
      rw [bind_apply]
      have hdecode : Keeps (Accounts [] []) (Session.decode active.connection
          (info.buffer (P.reportSize active.connection system.driver)) : Run P C Report) :=
        Keeps.bind (accounts_note rfl) fun _ ↦ talk_accounts.askDriver _
      have hdecoded := hquery.trans (hdecode queried)
      generalize Session.decode active.connection
        (info.buffer (P.reportSize active.connection system.driver)) queried =
          decoded at hdecoded ⊢
      obtain ⟨report, decoded⟩ := decoded
      dsimp only at hdecoded ⊢
      by_cases hempty : report.isEmpty = true
      · rw [if_pos hempty]
        exact accounts_of_query hdecoded rfl [] rfl
      · rw [if_neg hempty]
        exact hdecoded.trans (accounts_writeRow operation report decoded)

/-- A sample is counted by its outcome, and summed up if it was recorded. -/
theorem accounts_sampleEvent (operation : String) (event : Event) (system : System P C) :
    Accounts [.sampled (Session.sampleEvent operation event system).1] [] system
      (Session.sampleEvent operation event system).2 := by
  rw [Session.sampleEvent, bind_apply]
  cases hactive : system.session.active? with
  | none =>
    have hnone := talk_accounts.withDriver_of_none hactive
      (Session.readEvent (C := C) operation event)
    rw [(withDriver_of_none hactive (Session.readEvent operation event)).1]
    exact hnone.answer rfl rfl
  | some active =>
    have hread := readEvent_accounts operation event active system
    rw [withDriver_of_active hactive]
    generalize Session.readEvent operation event active system = done at hread ⊢
    obtain ⟨result, done⟩ := done
    cases result with
    | error outcome => exact hread
    | ok report => exact accounts_of_query hread rfl [(operation, report)] rfl

/-- A drain is counted by what it takes. -/
theorem accounts_drainStream (system : System P C) :
    Accounts [.drained (Session.drainStream system).1] [] system
      (Session.drainStream system).2 := by
  cases hactive : system.session.active? with
  | none =>
    have hnone := talk_accounts.withDriver_of_none hactive (Session.drainActive (C := C))
    rw [(Session.drainStream_of_none hactive).1]
    exact hnone.answer rfl rfl
  | some active =>
    by_cases hmode : active.mode = .time
    · obtain ⟨batches, after, hdrains, hbound⟩ :=
        Session.exists_drains active.connection system
      have hloop := talk_accounts.drainLoop accounts_writeRow active.connection
        (batches.length + 1) system
      rw [hdrains.drainLoop (Nat.lt_succ_self _)] at hloop
      rw [Session.drainStream_of_drains hactive hmode hdrains hbound]
      exact hloop.count rfl
    · have hsaid := talk_accounts.log (.drainInMode active.mode) system
      rw [(Session.drainStream_of_event hactive hmode).1]
      rw [Session.drainStream, bind_apply, withDriver_of_active hactive, Session.drainActive,
        if_pos hmode]
      exact hsaid.answer rfl rfl

/-- Closing a session gives its dump up. -/
theorem accounts_close (system : System P C) :
    Accounts [] system.session.dump?.toList system (Session.close system).2 := by
  have hclosed : Accounts [] system.session.dump?.toList system (Session.closeDump system).2 := by
    cases hdump : system.session.dump? with
    | none =>
      rw [Session.closeDump_of_none hdump]
      exact refl_of (Accounts [] []) system
    | some writer =>
      rcases hflush : writer.flush system.disk with ⟨result, next, later⟩
      rw [Session.closeDump_of_dump hdump hflush]
      refine ⟨rfl, rfl, ⟨[], rfl, rfl⟩, ?_⟩
      rw [openRows_of_dump hdump, Nat.add_comm]
      rfl
  have hflag : Keeps (Accounts [] []) (modifySession fun session ↦
      { session with missingReported := false } : Run P C Unit) :=
    talk_accounts.session _ (fun _ ↦ rfl) fun _ ↦ rfl
  have hrest := Keeps.bind talk_accounts.disconnect fun _ ↦ hflag
  have hall := hclosed.trans (hrest (Session.closeDump system).2)
  rw [List.append_nil, List.append_nil] at hall
  exact hall

/-! ## Queues -/

/-- A creation is counted by its outcome, and never as a rejection. -/
theorem accounts_create (context : Context) (device : Device) (bits : Queue.Bits)
    (system : System P C) :
    Accounts [.created (Queue.create context device bits system).1] [] system
      (Queue.create context device bits system).2 := by
  have hqueries := queries_of_spares
    (Queue.sameLife_create rfl context device bits system).toSpares
  obtain ⟨outcome, hprotocol, hresult, -, hleaves⟩ :=
    Queue.create_follows context device bits system
  obtain ⟨uninitializedReported, activities, log, calls, hafter⟩ := hleaves
  have hcounted : Queue.countOutcome system.telemetry outcome.result =
      Answer.enter system.telemetry (.created outcome.result) := by
    cases hprotocol with
    | called platform found entry active configuration made looks has live answer current call =>
      cases made.result <;> rfl
    | _ => rfl
  rw [hafter] at hqueries
  have hdone : Accounts [] [] system
      { system with
        driver := outcome.driver
        compute := outcome.compute
        session := { system.session with uninitializedReported }
        entryPoints := outcome.entryPoints
        activities, log, calls } := accounts_of_eq rfl hqueries rfl rfl
  rw [hresult, hafter, hcounted]
  exact hdone.count rfl

/-- A rejection is counted as such, and nothing else is counted for it. -/
theorem accounts_createWithProperties (context : Context) (device : Device)
    (properties : Option (List UInt64)) (system : System P C) :
    Accounts [.created (Queue.createWithProperties context device properties system).1] [] system
      (Queue.createWithProperties context device properties system).2 := by
  unfold Queue.createWithProperties
  cases Queue.bitsOf properties with
  | error refusal =>
    have hlogged := talk_accounts.log (.propertiesRejected refusal) system
    have hcounted : Accounts [.created (.error (.rejected refusal))] [] system _ :=
      hlogged.count rfl
    exact hcounted
  | ok bits => exact accounts_create context device bits system

end Host

end GpuCounters
