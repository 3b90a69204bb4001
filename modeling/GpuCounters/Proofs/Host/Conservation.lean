import GpuCounters.Proofs.Engine.Shutdown
import GpuCounters.Proofs.Engine.Steps
import GpuCounters.Proofs.Host.Accounts
import GpuCounters.Proofs.Session.Openings

/-!
# Conservation of telemetry

Nothing is counted twice and nothing is missed. From reset counts on, whatever a host asks for and
whatever happens to the disk, each count is the number of answers of one kind, or of the reports or
rows that are still to be found elsewhere: in the sums of the session, in what was asked of the
compute API, and in the dumps that the session opened.
-/

namespace GpuCounters

open Storage

variable {P : Driver.Provider} {C : Compute}

/-- The counts of queues that were to be created, whatever came of it. -/
def Telemetry.creations (counts : Telemetry) : Nat :=
  counts.created + counts.driverErrors + counts.activationFailures + counts.unavailable +
    counts.rejected

namespace Host

open GpuCounters.System GpuCounters.Run Session

/-! ## Counts of answers -/

namespace Answer

def isCreation : Answer → Bool
  | .created _ => true
  | _ => false

/-- Whether the counts have been raised by some answers. -/
structure Raises (answers : List Answer) (before after : Telemetry) : Prop where
  creations : after.creations = before.creations + answers.countP isCreation
  created : after.created = before.created + answers.countP isCreated
  rejected : after.rejected = before.rejected + answers.countP isRejected
  eventReports : after.eventReports = before.eventReports + answers.countP isRecorded
  queryFailures : after.queryFailures = before.queryFailures + answers.countP isQueryFailure
  emptySamples : after.emptySamples = before.emptySamples + answers.countP isEmpty
  streamReports : after.streamReports = before.streamReports + (answers.map reports).sum

theorem Raises.trans {answers more : List Answer} {first second third : Telemetry}
    (h : Raises answers first second) (hmore : Raises more second third) :
    Raises (answers ++ more) first third where
  creations := by rw [hmore.creations, h.creations, List.countP_append, Nat.add_assoc]
  created := by rw [hmore.created, h.created, List.countP_append, Nat.add_assoc]
  rejected := by rw [hmore.rejected, h.rejected, List.countP_append, Nat.add_assoc]
  eventReports := by rw [hmore.eventReports, h.eventReports, List.countP_append, Nat.add_assoc]
  queryFailures := by rw [hmore.queryFailures, h.queryFailures, List.countP_append, Nat.add_assoc]
  emptySamples := by rw [hmore.emptySamples, h.emptySamples, List.countP_append, Nat.add_assoc]
  streamReports := by
    rw [hmore.streamReports, h.streamReports, List.map_append, List.sum_append, Nat.add_assoc]

theorem creations_countOutcome (counts : Telemetry) (result : Except Queue.Error CounterQueue) :
    (Queue.countOutcome counts result).creations = counts.creations + 1 := by
  unfold Queue.countOutcome Telemetry.creations
  split <;> dsimp only <;> omega

/-- Each answer raises the count of its kind by one, or the reports of streams by its own. -/
theorem raises_enter (counts : Telemetry) (answer : Answer) :
    Raises [answer] counts (enter counts answer) := by
  cases answer with
  | created result =>
    cases result with
    | ok queue => exact ⟨creations_countOutcome counts (.ok queue), rfl, rfl, rfl, rfl, rfl, rfl⟩
    | error cause =>
      cases cause with
      | rejected refusal => exact ⟨rfl, rfl, rfl, rfl, rfl, rfl, rfl⟩
      | _ => exact ⟨creations_countOutcome counts (.error _), rfl, rfl, rfl, rfl, rfl, rfl⟩
  | sampled outcome => cases outcome <;> exact ⟨rfl, rfl, rfl, rfl, rfl, rfl, rfl⟩
  | drained reports => exact ⟨rfl, rfl, rfl, rfl, rfl, rfl, rfl⟩
  | _ => exact ⟨rfl, rfl, rfl, rfl, rfl, rfl, rfl⟩

theorem raises_foldl (answers : List Answer) (counts : Telemetry) :
    Raises answers counts (answers.foldl enter counts) := by
  induction answers generalizing counts with
  | nil => exact ⟨rfl, rfl, rfl, rfl, rfl, rfl, rfl⟩
  | cons answer answers ih => exact (raises_enter counts answer).trans (ih _)

end Answer

/-! ## Operations -/

/-- Whether an operation creates a queue, or tries to. -/
def Op.creates : Op P C → Bool
  | .createQueue _ _ _ | .createQueueWithProperties _ _ _ | .engine (.createQueue _ _ _)
  | .engine (.createQueueWithProperties _ _ _) => true
  | .session _ | .engine _ => false

/-- What the session and the creation of queues answer in an operation, also where an engine keeps
the answer to itself. -/
def Op.answers (settings : Settings) : Op P C → System P C → List Answer
  | .engine (.completeWork operation event), system =>
    match settings.sampling with
    | .event => [(askSession (.sample operation event) system).1]
    | .time => [(askSession .drain system).1]
  | .engine .shutdown, system =>
    if system.mode? = some .time then [(askSession .drain system).1] else []
  | op, system => [(op.ask settings system).1]

/-- The dump that an operation gives up, as it is then. -/
def Op.closed : Op P C → System P C → List Dump.Writer
  | .session .close, system => system.session.dump?.toList
  | .engine .shutdown, system => (Engine.finalDrain system).2.session.dump?.toList
  | _, _ => []

def Op.opened (settings : Settings) : Op P C → System P C → List Dump.Writer
  | .session (.start request), system => (openedDump? request system).toList
  | .engine .start, system | .engine (.createQueue _ _ _), system
  | .engine (.createQueueWithProperties _ _ _), system =>
    (openedDump? settings.request system).toList
  | _, _ => []

/-- Whether all that was counted in some work is accounted for by its answers and its dumps. -/
structure Conserves (answers : List Answer) (closed opened : List Dump.Writer)
    (before after : System P C) : Prop where
  accounts : Accounts answers closed before after
  dumps : Exchanges closed opened before after

section Conserves

variable {answers more : List Answer} {closed others opened new : List Dump.Writer}
  {first second third : System P C}

theorem Conserves.trans (h : Conserves answers closed opened first second)
    (hmore : Conserves more others new second third) :
    Conserves (answers ++ more) (closed ++ others) (opened ++ new) first third :=
  ⟨h.accounts.trans hmore.accounts, h.dumps.trans hmore.dumps⟩

/-- What has nothing to account for does not add to an account. -/
theorem Conserves.quiet_right (h : Conserves answers closed opened first second)
    (hquiet : Conserves [] [] [] second third) : Conserves answers closed opened first third := by
  have hall := h.trans hquiet
  rw [List.append_nil, List.append_nil, List.append_nil] at hall
  exact hall

theorem Conserves.answer (h : Conserves [] closed opened first second) {answer : Answer}
    (henter : Answer.enter second.telemetry answer = second.telemetry)
    (hqueries : Answer.queries [answer] = 0) : Conserves [answer] closed opened first second :=
  ⟨h.accounts.answer henter hqueries, h.dumps⟩

/-- Work that keeps to a life neither opens a dump nor gives one up. -/
theorem conserves_of_sameLife (h : Accounts answers [] first second)
    (hlife : SameLife (fun _ ↦ false) first second) : Conserves answers [] [] first second :=
  ⟨h, exchanges_of_eq hlife.dumpPath⟩

theorem conserves_of_eq (htelemetry : second.telemetry = first.telemetry)
    (hactivities : second.activities = first.activities)
    (hsession : second.session = first.session) : Conserves [] [] [] first second where
  accounts := accounts_of_eq htelemetry
    (congrArg (fun activities ↦ activities.toList.countP Activity.isQuery) hactivities)
    (congrArg Session.aggregator hsession) (congrArg Session.dump? hsession)
  dumps := exchanges_of_eq
    (congrArg (fun session ↦ session.dump?.map fun writer : Dump.Writer ↦ writer.path) hsession)

theorem conserves_log (event : Log.Event) (system : System P C) :
    Conserves [] [] [] system (Run.log event system).2 := conserves_of_eq rfl rfl rfl

end Conserves

section Parts

variable (system : System P C)

theorem conserves_ensureInitialized (request : Driver.Request) :
    Conserves [] [] (openedDump? request system).toList system
      (ensureInitialized request system).2 :=
  ⟨accounts_ensureInitialized request system, exchanges_ensureInitialized request system⟩

theorem conserves_sampleEvent (operation : String) (event : Event) :
    Conserves [(askSession (.sample operation event) system).1] [] [] system
      (sampleEvent operation event system).2 :=
  conserves_of_sameLife (accounts_sampleEvent operation event system)
    (sameLife_sampleEvent rfl operation event system)

theorem conserves_drainStream :
    Conserves [(askSession .drain system).1] [] [] system (drainStream system).2 :=
  conserves_of_sameLife (accounts_drainStream system)
    (sameLife_drainStream rfl system)

theorem conserves_close :
    Conserves [] system.session.dump?.toList [] system (Session.close system).2 :=
  ⟨accounts_close system, exchanges_close system⟩

theorem conserves_create (context : Context) (device : Device) (bits : Queue.Bits) :
    Conserves [.created (Queue.create context device bits system).1] [] [] system
      (Queue.create context device bits system).2 :=
  conserves_of_sameLife (accounts_create context device bits system)
    (Queue.sameLife_create rfl context device bits system)

theorem conserves_createWithProperties (context : Context) (device : Device)
    (properties : Option (List UInt64)) :
    Conserves [.created (Queue.createWithProperties context device properties system).1] [] []
      system (Queue.createWithProperties context device properties system).2 :=
  conserves_of_sameLife (accounts_createWithProperties context device properties system)
    (Queue.sameLife_createWithProperties rfl context device properties
      system)

theorem conserves_prepareQueue (settings : Settings) :
    Conserves [] [] (openedDump? settings.request system).toList system
      (Engine.prepareQueue settings system).2 := by
  have hstart := conserves_ensureInitialized system settings.request
  rw [Engine.prepareQueue, bind_apply]
  cases (Engine.start settings system).1 with
  | ok _ => exact hstart
  | error cause => exact hstart.quiet_right (conserves_log _ _)

/-- Sampling completed work answers nothing, but what it is made of does. -/
theorem conserves_completeWork (settings : Settings) (operation : String) (event : Event) :
    Conserves (Op.answers settings (.engine (.completeWork operation event)) system) [] [] system
      (Engine.completeWork settings operation event system).2 := by
  unfold Op.answers Engine.completeWork
  cases settings.sampling with
  | event => exact conserves_sampleEvent system operation event
  | time => exact conserves_drainStream system

theorem conserves_outside (driver : P.State → P.State) (compute : C.State → C.State) :
    Conserves [.silent] [] [] system
      { system with driver := driver system.driver, compute := compute system.compute } := by
  refine Conserves.answer ?_ rfl rfl
  exact conserves_of_eq rfl rfl rfl

/-- A shutdown gives up the dump once the stream is drained, if there is one. -/
theorem conserves_shutdown (settings : Settings) :
    Conserves (Op.answers settings (.engine .shutdown) system)
      (Engine.finalDrain system).2.session.dump?.toList [] system
      (Engine.shutdown settings system).2 := by
  have hdrained : Conserves (Op.answers settings (.engine .shutdown) system) [] [] system
      (Engine.finalDrain system).2 := by
    rw [Op.answers, Engine.finalDrain, bind_apply, get_apply]
    dsimp only
    split
    · exact (conserves_drainStream system).quiet_right (conserves_log _ _)
    · exact conserves_of_eq rfl rfl rfl
  have hclosed := hdrained.trans (conserves_close (Engine.finalDrain system).2)
  obtain ⟨log, hafter⟩ := Engine.exists_shutdown settings system
  rw [List.append_nil] at hclosed
  rw [hafter]
  exact hclosed.quiet_right (conserves_of_eq rfl rfl rfl)

end Parts

/-- Whatever is asked for, all that is counted meanwhile is accounted for. -/
theorem conserves_ask (settings : Settings) (op : Op P C) (system : System P C) :
    Conserves (op.answers settings system) (op.closed system) (op.opened settings system) system
      (op.ask settings system).2 := by
  cases op with
  | session op =>
    cases op with
    | start request => exact (conserves_ensureInitialized system request).answer rfl rfl
    | write label report =>
      have hwritten := conserves_of_sameLife (accounts_write label report system)
        (sameLife_write label report system)
      exact hwritten.answer rfl rfl
    | sample operation event => exact conserves_sampleEvent system operation event
    | drain => exact conserves_drainStream system
    | close => exact (conserves_close system).answer rfl rfl
    | outside driver compute => exact conserves_outside system driver compute
  | createQueue context device bits => exact conserves_create system context device bits
  | createQueueWithProperties context device properties =>
    exact conserves_createWithProperties system context device properties
  | engine op =>
    cases op with
    | start => exact (conserves_ensureInitialized system settings.request).answer rfl rfl
    | createQueue context device bits =>
      have hprepared := conserves_prepareQueue system settings
      have hcreated := hprepared.trans (conserves_create _ context device bits)
      rw [List.append_nil, List.append_nil] at hcreated
      exact hcreated
    | createQueueWithProperties context device properties =>
      have hprepared := conserves_prepareQueue system settings
      have hcreated :=
        hprepared.trans (conserves_createWithProperties _ context device properties)
      rw [List.append_nil, List.append_nil] at hcreated
      exact hcreated
    | sample operation event => exact conserves_sampleEvent system operation event
    | completeWork operation event => exact conserves_completeWork system settings operation event
    | drain => exact conserves_drainStream system
    | report => exact (conserves_of_eq rfl rfl rfl).answer rfl rfl
    | shutdown => exact conserves_shutdown system settings
    | outside driver compute => exact conserves_outside system driver compute

/-! ## Runs -/

/-- What there is to be seen of the operations of a run, each where it is done. -/
def gather {β : Type} (settings : Settings) (view : Op P C → System P C → List β) :
    List ((Disk → Disk) × Op P C) → System P C → List β
  | [], _ => []
  | (change, op) :: steps, system =>
    let changed := { system with disk := change system.disk }
    view op changed ++ gather settings view steps (op.ask settings changed).2

/-- The dumps of a run as they are in the end: those that were given up, and the open one. -/
def writersOf (settings : Settings) (steps : List ((Disk → Disk) × Op P C))
    (system : System P C) : List Dump.Writer :=
  gather settings Op.closed steps system ++
    (Run.amid (Op.ask settings) steps system).session.dump?.toList

/-- The induction is on the steps, between which the disk may change. -/
theorem conserves_amid (settings : Settings) (steps : List ((Disk → Disk) × Op P C))
    (system : System P C) :
    Conserves (gather settings (Op.answers settings) steps system)
      (gather settings Op.closed steps system)
      (gather settings (Op.opened settings) steps system) system
      (Run.amid (Op.ask settings) steps system) := by
  induction steps generalizing system with
  | nil => exact conserves_of_eq rfl rfl rfl
  | cons step steps ih =>
    obtain ⟨change, op⟩ := step
    have hchanged : Conserves [] [] [] system { system with disk := change system.disk } :=
      conserves_of_eq rfl rfl rfl
    exact hchanged.trans ((conserves_ask settings op _).trans (ih _))

theorem countP_isCreation_answers (settings : Settings) (op : Op P C) (system : System P C) :
    (op.answers settings system).countP Answer.isCreation = if op.creates then 1 else 0 := by
  cases op with
  | session op => cases op <;> rfl
  | createQueue context device bits => rfl
  | createQueueWithProperties context device properties => rfl
  | engine op =>
    cases op with
    | completeWork operation event =>
      unfold Op.answers
      cases settings.sampling <;> rfl
    | shutdown =>
      unfold Op.answers
      dsimp only
      split <;> rfl
    | _ => rfl

/-- There is one creation among the answers of a run for each operation that creates a queue. -/
theorem countP_isCreation_gather (settings : Settings) (steps : List ((Disk → Disk) × Op P C))
    (system : System P C) :
    (gather settings (Op.answers settings) steps system).countP Answer.isCreation =
      steps.countP fun step ↦ step.2.creates := by
  induction steps generalizing system with
  | nil => rfl
  | cons step steps ih =>
    obtain ⟨change, op⟩ := step
    rw [gather, List.countP_append, countP_isCreation_answers, ih, List.countP_cons, Nat.add_comm]

/-! ## Balances from reset counts on -/

section Reset

variable {answers : List Answer} {closed opened : List Dump.Writer} {first second : System P C}

theorem Conserves.raises (h : Conserves answers closed opened first second)
    (htelemetry : first.telemetry = {}) :
    Answer.Raises answers {} second.telemetry.withoutDumps := by
  have hraised := Answer.raises_foldl answers first.telemetry.withoutDumps
  rw [← h.accounts.counts, htelemetry] at hraised
  exact hraised

/-- Where nothing was summed up before, each recorded sample is a call. -/
theorem Conserves.calls (h : Conserves answers closed opened first second)
    (haggregator : first.session.aggregator = .empty) :
    second.session.aggregator.calls = answers.countP Answer.isRecorded := by
  obtain ⟨rows, hrows, hsums⟩ := h.accounts.sums
  calc second.session.aggregator.calls
    _ = (Summary.Aggregator.empty.addAll rows).calls := by rw [hsums, haggregator]
    _ = Summary.Aggregator.empty.calls + rows.length :=
      Summary.Aggregator.calls_addAll Summary.Aggregator.wellIndexed_empty rows
    _ = answers.countP Answer.isRecorded := by
      rw [Summary.Aggregator.calls_empty, hrows, Nat.zero_add]

/-- Where no dump was open before, the rows are those of the dumps given up and of the open one. -/
theorem Conserves.dumpRows (h : Conserves answers closed opened first second)
    (htelemetry : first.telemetry = {}) (hdump : first.session.dump? = none) :
    second.telemetry.dumpRows =
      ((closed ++ second.session.dump?.toList).map fun writer : Dump.Writer ↦ writer.rows).sum := by
  have hbalance := h.accounts.rows
  rw [openRows_of_none hdump, htelemetry, Nat.zero_add, Nat.zero_add] at hbalance
  calc second.telemetry.dumpRows
    _ = (closed.map fun writer ↦ writer.rows).sum + second.openRows := hbalance
    _ = ((closed ++ second.session.dump?.toList).map fun writer ↦ writer.rows).sum := by
      rw [openRows, List.map_append, List.sum_append]

/-- Where no dump was open before, the dumps given up and the open one are those that were
opened. -/
theorem Conserves.paths (h : Conserves answers closed opened first second)
    (hdump : first.session.dump? = none) :
    (closed ++ second.session.dump?.toList).map (fun writer : Dump.Writer ↦ writer.path) =
      opened.map fun writer ↦ writer.path := by
  have hdumps := h.dumps
  rw [Exchanges, dumpPath?, hdump, Option.map_none, Option.toList_none, List.nil_append, dumpPath?,
    Option.toList_map, ← List.map_append] at hdumps
  exact hdumps.symm

end Reset

/-- From reset counts on, with nothing summed up and no dump open, whatever a host asks for and
whatever happens to the disk: the counts of queues are those of the creations by their outcomes; the
counts of samples are those of the outcomes, the recorded ones are the calls that were summed up,
and together they are the reports that were queried; the reports of streams are those that the
drains took; and the rows are those of all the dumps that were opened. -/
theorem telemetry_is_conserved {system : System P C} (htelemetry : system.telemetry = {})
    (haggregator : system.session.aggregator = .empty) (hdump : system.session.dump? = none)
    (settings : Settings) (steps : List ((Disk → Disk) × Op P C)) :
    let now := Run.amid (Op.ask settings) steps system
    let counts := now.telemetry
    let answers := gather settings (Op.answers settings) steps system
    let writers := writersOf settings steps system
    counts.created + counts.driverErrors + counts.activationFailures + counts.unavailable +
        counts.rejected = steps.countP (fun step ↦ step.2.creates) ∧
      counts.created = answers.countP Answer.isCreated ∧
      counts.rejected = answers.countP Answer.isRejected ∧
      counts.eventReports = answers.countP Answer.isRecorded ∧
      counts.eventReports = now.session.aggregator.calls ∧
      counts.queryFailures = answers.countP Answer.isQueryFailure ∧
      counts.emptySamples = answers.countP Answer.isEmpty ∧
      system.queries + (counts.eventReports + counts.queryFailures + counts.emptySamples) =
        now.queries ∧
      counts.streamReports = (answers.map Answer.reports).sum ∧
      counts.dumpRows = (writers.map fun writer : Dump.Writer ↦ writer.rows).sum ∧
      writers.map (fun writer : Dump.Writer ↦ writer.path) =
        (gather settings (Op.opened settings) steps system).map fun writer ↦ writer.path := by
  intro now counts answers writers
  have hconserves := conserves_amid settings steps system
  have hraises : Answer.Raises answers {} counts.withoutDumps := hconserves.raises htelemetry
  have hcreations : counts.creations = steps.countP fun step ↦ step.2.creates := by
    calc counts.creations
      _ = 0 + answers.countP Answer.isCreation := hraises.creations
      _ = steps.countP fun step ↦ step.2.creates := by
        rw [Nat.zero_add, countP_isCreation_gather]
  have hcreated : counts.created = answers.countP Answer.isCreated :=
    hraises.created.trans (Nat.zero_add _)
  have hrejected : counts.rejected = answers.countP Answer.isRejected :=
    hraises.rejected.trans (Nat.zero_add _)
  have hrecorded : counts.eventReports = answers.countP Answer.isRecorded :=
    hraises.eventReports.trans (Nat.zero_add _)
  have hfailed : counts.queryFailures = answers.countP Answer.isQueryFailure :=
    hraises.queryFailures.trans (Nat.zero_add _)
  have hempty : counts.emptySamples = answers.countP Answer.isEmpty :=
    hraises.emptySamples.trans (Nat.zero_add _)
  have hstreams : counts.streamReports = (answers.map Answer.reports).sum :=
    hraises.streamReports.trans (Nat.zero_add _)
  have hqueries : system.queries +
      (counts.eventReports + counts.queryFailures + counts.emptySamples) = now.queries := by
    rw [hrecorded, hfailed, hempty]
    exact hconserves.accounts.queries.symm
  exact ⟨hcreations, hcreated, hrejected, hrecorded,
    hrecorded.trans (hconserves.calls haggregator).symm, hfailed, hempty, hqueries, hstreams,
    hconserves.dumpRows htelemetry hdump, hconserves.paths hdump⟩

/-- A driver for events, whose stream has two batches. -/
def mixedScript : Driver.Script :=
  { Engine.kernelScript with
    batches := [[⟨[⟨"Time", .u32 1, none⟩], []⟩, ⟨[⟨"Time", .u32 2, none⟩], []⟩],
      [⟨[⟨"Busy", .u32 3, none⟩], []⟩]] }

/-- Queues and lives of both modes: a creation without a session and one that is rejected, samples
that are recorded and one that cannot be queried, and a stream that only the shutdown drains. -/
def mixedSteps :
    List ((Disk → Disk) × Op (Driver.scripted (some mixedScript)) Compute.simulated) :=
  [(id, .session (.outside id fun _ ↦
      { twoPlatforms with events := Engine.kernelEvents.events })),
    (id, .createQueue ⟨1⟩ ⟨1⟩ 0),
    (id, .engine (.createQueueWithProperties ⟨1⟩ ⟨1⟩ (some [5]))),
    (id, .engine (.createQueue ⟨1⟩ ⟨1⟩ 2)),
    (id, .engine (.completeWork "copy" ⟨1⟩)),
    (id, .session (.sample "lost" ⟨3⟩)),
    (id, .session (.write "own" ⟨[⟨"Time", .u32 4, none⟩], []⟩)),
    (id, .session .close),
    (id, .session (.start (scriptedRequest .time "Pulse" false))),
    (id, .engine .shutdown),
    (id, .engine .start),
    (id, .engine (.sample "copy" ⟨2⟩))]

def mixed : System (Driver.scripted (some mixedScript)) Compute.simulated :=
  Run.amid (Op.ask {}) mixedSteps (scripted mixedScript)

/-- Three reports were queried and two of them summed up, the shutdown drained three more, and three
dumps have six rows between them. -/
theorem telemetry_is_conserved_mixedSteps :
    (scripted mixedScript).telemetry = {} ∧
      (scripted mixedScript).session.aggregator = .empty ∧
      (scripted mixedScript).session.dump? = none ∧
      mixed.telemetry =
        { created := 1, unavailable := 1, rejected := 1, eventReports := 2, streamReports := 3,
          queryFailures := 1, dumpRows := 6 } ∧
      mixedSteps.countP (fun step ↦ step.2.creates) = 3 ∧
      mixed.session.aggregator.calls = 2 ∧ mixed.queries = 3 ∧
      ((gather {} (Op.answers {}) mixedSteps (scripted mixedScript)).map
        Answer.reports).sum = 3 ∧
      ((writersOf {} mixedSteps (scripted mixedScript)).map fun writer ↦ writer.rows).sum =
        6 ∧
      (writersOf {} mixedSteps (scripted mixedScript)).length = 3 := by
  have htelemetry : (scripted mixedScript).telemetry = {} := rfl
  have haggregator : (scripted mixedScript).session.aggregator = .empty := rfl
  have hdump : (scripted mixedScript).session.dump? = none := rfl
  have hcounts : mixed.telemetry =
      { created := 1, unavailable := 1, rejected := 1, eventReports := 2, streamReports := 3,
        queryFailures := 1, dumpRows := 6 } := by
    decide +kernel
  have hlength : (writersOf {} mixedSteps (scripted mixedScript)).length = 3 := by
    decide +kernel
  obtain ⟨hcreations, -, -, -, hcalls, -, -, hqueries, hstreams, hrows, -⟩ :=
    telemetry_is_conserved htelemetry haggregator hdump {} mixedSteps
  have hmixed : Run.amid (Op.ask {}) mixedSteps (scripted mixedScript) = mixed := rfl
  rw [hmixed, hcounts] at hcreations hcalls hqueries hstreams hrows
  exact ⟨htelemetry, haggregator, hdump, hcounts, hcreations.symm, hcalls.symm, hqueries.symm,
    hstreams.symm, hrows.symm, hlength⟩

end Host

end GpuCounters
