import GpuCounters.Queue.Factory
import GpuCounters.Proofs.Session.Operations

/-!
# What is asked of the other parties

Whatever a system asks of the driver or of the compute API concerns the life of a connection, its
stream, the reports of events, or queues. Each piece of work asks in its own concern alone, so that
what was asked in the others is what it was before. Sampling and creating queues also leave the
live driver and the place of its dump as they are.
-/

namespace GpuCounters

open Storage

variable {P : Driver.Provider} {C : Compute} {α β : Type}

/-! ## Concerns -/

/-- What an activity is about. -/
inductive Concern
  /-- Connections, from their making to their end -/
  | life
  /-- What a stream has -/
  | stream
  /-- The reports of events -/
  | events
  /-- Queues with counters -/
  | queues
  deriving DecidableEq, Repr

def Activity.concern : Activity → Concern
  | .connect _ | .disconnect | .openStream _ => .life
  | .poll | .reset => .stream
  | .decode | .profilingQuery _ => .events
  | .activate | .platformQuery _ | .resolve _ | .create _ _ _ _ _ => .queues

namespace System

/-- What was asked in the watched concerns, oldest first. -/
def asked (watch : Concern → Bool) (system : System P C) : List Activity :=
  system.activities.toList.filter fun activity ↦ watch activity.concern

/-- Whether nothing was asked in the watched concerns. Entry points are a matter of queues. -/
structure Spares (watch : Concern → Bool) (before after : System P C) : Prop where
  asked : after.asked watch = before.asked watch
  entryPoints : watch .queues = true → after.entryPoints = before.entryPoints

/-- Whether nothing was asked in the watched concerns, with the same live driver and with its dump
at the same path. -/
structure SameLife (watch : Concern → Bool) (before after : System P C) : Prop extends
    Spares watch before after where
  active : after.session.active? = before.session.active?
  dumpPath : after.dumpPath? = before.dumpPath?

variable {watch : Concern → Bool}

instance : IsPreorder (System P C) (Spares watch) where
  refl _ := ⟨rfl, fun _ ↦ rfl⟩
  trans _ _ _ h hlast :=
    ⟨hlast.asked.trans h.asked, fun hqueues ↦
      (hlast.entryPoints hqueues).trans (h.entryPoints hqueues)⟩

instance : IsPreorder (System P C) (SameLife watch) where
  refl system := ⟨refl_of (Spares watch) system, rfl, rfl⟩
  trans _ _ _ h hlast :=
    ⟨trans_of (Spares watch) h.toSpares hlast.toSpares, hlast.active.trans h.active,
      hlast.dumpPath.trans h.dumpPath⟩

/-- What there is about the watched concerns is there in what was asked in them. -/
theorem filterMap_asked {f : Activity → Option α}
    (hother : ∀ activity : Activity, watch activity.concern = false → f activity = none)
    (system : System P C) :
    (system.asked watch).filterMap f = system.activities.toList.filterMap f := by
  rw [asked, List.filterMap_filter]
  apply List.filterMap_congr
  intro activity _
  cases hwatch : watch activity.concern with
  | true => rfl
  | false => exact (hother activity hwatch).symm

/-- Notes only go to the log and to the calls of libraries. -/
theorem exists_foldl_take (system : System P C) (notes : List Note) :
    ∃ log calls, notes.foldl System.take system = { system with log, calls } := by
  induction notes generalizing system with
  | nil => exact ⟨system.log, system.calls, rfl⟩
  | cons note notes ih =>
    obtain ⟨log, calls, h⟩ := ih (system.take note)
    refine ⟨log, calls, ?_⟩
    rw [List.foldl_cons, h]
    cases note <;> rfl

/-- What was asked is all that matters to a frame of questions. -/
theorem sameLife_of_eq {before after : System P C}
    (hactivities : after.activities = before.activities)
    (hentryPoints : after.entryPoints = before.entryPoints)
    (hactive : after.session.active? = before.session.active?)
    (hpath : after.dumpPath? = before.dumpPath?) : SameLife watch before after :=
  ⟨⟨congrArg (fun activities ↦ activities.toList.filter fun activity ↦ watch activity.concern)
    hactivities, fun _ ↦ hentryPoints⟩, hactive, hpath⟩

/-- Whether exactly these activities have come about. -/
def Asks (activities : List Activity) (before after : System P C) : Prop :=
  after.activities.toList = before.activities.toList ++ activities

section Asks

variable {first second third : System P C} {activities more : List Activity}

theorem Asks.trans (h : Asks activities first second) (hmore : Asks more second third) :
    Asks (activities ++ more) first third := by
  calc third.activities.toList
    _ = second.activities.toList ++ more := hmore
    _ = first.activities.toList ++ activities ++ more := by rw [h]
    _ = first.activities.toList ++ (activities ++ more) := List.append_assoc ..

/-- Where nothing was asked in any concern nothing was asked. -/
theorem Asks.of_spares (h : Spares (fun _ ↦ true) first second) : Asks [] first second := by
  have hasked := h.asked
  unfold System.asked at hasked
  rw [List.filter_true, List.filter_true] at hasked
  rw [Asks, hasked, List.append_nil]

theorem Asks.then_spares (h : Asks activities first second)
    (hspares : Spares (fun _ ↦ true) second third) : Asks activities first third := by
  have hboth := h.trans (Asks.of_spares hspares)
  rwa [List.append_nil] at hboth

theorem Asks.asked (h : Asks activities first second) (watch : Concern → Bool) :
    second.asked watch =
      first.asked watch ++ activities.filter fun activity ↦ watch activity.concern := by
  unfold System.asked
  rw [h, List.filter_append]

end Asks

end System

/-! ## Questions -/

namespace Run

open GpuCounters.System

variable {watch : Concern → Bool}

theorem Keeps.spares {run : Run P C α} (h : Keeps (SameLife watch) run) :
    Keeps (Spares watch) run := h.mono fun _ _ h ↦ h.toSpares

/-- What asking the driver leaves behind: its new state, and notes. -/
theorem askDriver_apply (ask : P.State → Exchange P.State α) (system : System P C) :
    ∃ log calls, askDriver ask system =
      ((ask system.driver).result,
        { system with driver := (ask system.driver).state, log, calls }) := by
  obtain ⟨log, calls, h⟩ :=
    exists_foldl_take { system with driver := (ask system.driver).state } (ask system.driver).notes
  exact ⟨log, calls, congrArg (Prod.mk (ask system.driver).result) h⟩

/-- What asking the compute API leaves behind: its new state, and notes. -/
theorem askCompute_apply (ask : C.State → Exchange C.State α) (system : System P C) :
    ∃ log calls, askCompute ask system =
      ((ask system.compute).result,
        { system with compute := (ask system.compute).state, log, calls }) := by
  obtain ⟨log, calls, h⟩ := exists_foldl_take
    { system with compute := (ask system.compute).state } (ask system.compute).notes
  exact ⟨log, calls, congrArg (Prod.mk (ask system.compute).result) h⟩

theorem sameLife_log (event : Log.Event) :
    Keeps (SameLife watch) (log event : Run P C Unit) :=
  fun _ ↦ sameLife_of_eq rfl rfl rfl rfl

theorem sameLife_count (change : Telemetry → Telemetry) :
    Keeps (SameLife watch) (count change : Run P C Unit) :=
  fun _ ↦ sameLife_of_eq rfl rfl rfl rfl

theorem sameLife_askDriver (ask : P.State → Exchange P.State α) :
    Keeps (SameLife watch) (askDriver ask : Run P C α) := by
  intro system
  obtain ⟨log, calls, h⟩ := askDriver_apply ask system
  rw [h]
  exact sameLife_of_eq rfl rfl rfl rfl

theorem sameLife_askCompute (ask : C.State → Exchange C.State α) :
    Keeps (SameLife watch) (askCompute ask : Run P C α) := by
  intro system
  obtain ⟨log, calls, h⟩ := askCompute_apply ask system
  rw [h]
  exact sameLife_of_eq rfl rfl rfl rfl

theorem asks_note (activity : Activity) (system : System P C) :
    Asks [activity] system (note activity system).2 := Array.toList_push

theorem asked_note (activity : Activity) (system : System P C) :
    (note activity system).2.asked watch =
      system.asked watch ++ if watch activity.concern then [activity] else [] := by
  rw [(asks_note activity system).asked watch, List.filter_singleton]
  cases watch activity.concern <;> rfl

/-- A question in another concern is none of the watched ones. -/
theorem sameLife_note {activity : Activity} (h : watch activity.concern = false) :
    Keeps (SameLife watch) (note activity : Run P C Unit) := by
  intro system
  have hasked : (note activity system).2.asked watch = system.asked watch := by
    rw [asked_note, h, if_neg (by simp), List.append_nil]
  exact ⟨⟨hasked, fun _ ↦ rfl⟩, rfl, rfl⟩

theorem spares_modifySession (change : Session P → Session P) :
    Keeps (Spares watch) (modifySession change : Run P C Unit) :=
  fun _ ↦ ⟨rfl, fun _ ↦ rfl⟩

theorem sameLife_modifySession (change : Session P → Session P)
    (hactive : ∀ session, (change session).active? = session.active?)
    (hdump : ∀ session, (change session).dump? = session.dump?) :
    Keeps (SameLife watch) (modifySession change : Run P C Unit) := by
  intro system
  refine sameLife_of_eq rfl rfl (hactive system.session) ?_
  exact congrArg (Option.map fun writer : Dump.Writer ↦ writer.path) (hdump system.session)

/-- Without a live driver nothing is asked. -/
theorem sameLife_withDriver_of_none {system : System P C} (h : system.session.active? = none)
    (act : Active P → Run P C α) : SameLife watch system (withDriver act system).2 := by
  unfold withDriver
  simp only [bind_apply, session_apply, h]
  split
  · exact sameLife_of_eq rfl rfl rfl rfl
  · exact refl_of (SameLife watch) system

theorem sameLife_withDriver {act : Active P → Run P C α}
    (h : ∀ active, Keeps (SameLife watch) (act active)) :
    Keeps (SameLife watch) (withDriver act) := by
  unfold withDriver
  refine Keeps.bind Keeps.session fun session ↦ ?_
  split
  · exact Keeps.bind (h _) fun _ ↦ Keeps.pure _
  · dsimp only
    split
    · exact Keeps.bind (sameLife_modifySession _ (fun _ ↦ rfl) fun _ ↦ rfl) fun _ ↦
        Keeps.bind (sameLife_log _) fun _ ↦ Keeps.pure _
    · exact Keeps.pure _

end Run

namespace Session

open GpuCounters.System GpuCounters.Run

variable {watch : Concern → Bool}

/-! ## Dumps -/

/-- A row does not move a dump. -/
theorem path_writeRow {writer next : Dump.Writer} {label : String} {report : Report}
    {disk later : Disk} {result : Except Dump.Error Unit}
    (h : writer.writeRow label report disk = (result, next, later)) : next.path = writer.path := by
  unfold Dump.Writer.writeRow at h
  split at h <;> exact (congrArg (fun outcome ↦ outcome.2.1.path) h).symm

theorem sameLife_writeRow (label : String) (report : Report) :
    Keeps (SameLife watch) (writeRow label report : Run P C Unit) := by
  intro before
  cases hdump : before.session.dump? with
  | none =>
    unfold writeRow
    simp only [bind_apply, session_apply, hdump]
    by_cases hmissing : (!before.session.missingReported) = true
    · rw [if_pos hmissing]
      have hflag : Keeps (SameLife watch) (modifySession fun session ↦
          { session with missingReported := true } : Run P C Unit) :=
        sameLife_modifySession _ (fun _ ↦ rfl) fun _ ↦ rfl
      exact Keeps.bind (sameLife_log .dumpMissing) (fun _ ↦ hflag) before
    · rw [if_neg hmissing]
      exact refl_of (SameLife watch) before
  | some writer =>
    rcases hwrite : writer.writeRow label report before.disk with ⟨result, next, later⟩
    have hpath : some next.path = before.dumpPath? := by
      rw [System.dumpPath?, hdump, Option.map_some, path_writeRow hwrite]
    rw [writeRow_of_dump hdump hwrite]
    cases result with
    | ok _ => exact sameLife_of_eq rfl rfl rfl hpath
    | error cause => exact sameLife_of_eq rfl rfl rfl hpath

theorem spares_openDump (mode : Mode) (metricSet : String) (connection : P.Connection) :
    Keeps (Spares watch) (openDump mode metricSet connection : Run P C Unit) := by
  intro before
  rcases hstart : Dump.Writer.start (before.dumpFile metricSet) (layout mode connection)
    (accessOf before.session (before.dumpFile metricSet)) before.disk with ⟨result, later⟩
  rw [openDump_eq hstart]
  cases result with
  | error cause => exact ⟨rfl, fun _ ↦ rfl⟩
  | ok writer =>
    dsimp only
    split <;> exact ⟨rfl, fun _ ↦ rfl⟩

theorem spares_closeDump : Keeps (Spares watch) (closeDump : Run P C Unit) := by
  intro before
  cases hdump : before.session.dump? with
  | none =>
    rw [closeDump_of_none hdump]
    exact refl_of (Spares watch) before
  | some writer =>
    rcases hflush : writer.flush before.disk with ⟨result, next, later⟩
    rw [closeDump_of_dump hdump hflush]
    exact ⟨rfl, fun _ ↦ rfl⟩

/-! ## The life of a connection -/

theorem spares_connect (hlife : watch .life = false) (request : Driver.Request) :
    Keeps (Spares watch) (connect request : Run P C (Except Driver.Error P.Connection)) := by
  unfold connect
  refine Keeps.bind (sameLife_note hlife).spares fun _ ↦
    Keeps.bind (sameLife_askDriver _).spares fun result ↦ ?_
  cases result with
  | ok connection => exact Keeps.bind (sameLife_log _).spares fun _ ↦ Keeps.pure _
  | error cause =>
    exact Keeps.bind Keeps.session fun session ↦ Keeps.bind (sameLife_log _).spares fun _ ↦
      Keeps.bind (spares_modifySession _) fun _ ↦ Keeps.pure _

theorem spares_openStream (hlife : watch .life = false) (connection : P.Connection) :
    Keeps (Spares watch) (openStream connection : Run P C Unit) := by
  unfold openStream
  refine Keeps.bind (sameLife_note hlife).spares fun _ ↦
    Keeps.bind (sameLife_askDriver _).spares fun result ↦ ?_
  cases result with
  | ok _ => exact Keeps.pure _
  | error cause => exact (sameLife_log _).spares

/-- What is done once a session is connected, with its stream open if it samples one. -/
def goLive (request : Driver.Request) (connection : P.Connection) :
    Run P C (Except Error Unit) := do
  if (← Run.session).dump?.isNone then openDump request.mode request.metricSet connection
  modifySession (activated request connection)
  return .ok ()

section GoLive

variable {request : Driver.Request} {connection : P.Connection}

theorem keeps_goLive {relation : System P C → System P C → Prop}
    [IsPreorder (System P C) relation]
    (hopen : Keeps relation (openDump request.mode request.metricSet connection : Run P C Unit))
    (hlive : Keeps relation (modifySession (activated request connection) : Run P C Unit)) :
    Keeps relation (goLive request connection : Run P C (Except Error Unit)) := by
  unfold goLive
  refine Keeps.bind Keeps.session fun session ↦ ?_
  dsimp only
  split
  · exact Keeps.bind hopen fun _ ↦ Keeps.bind hlive fun _ ↦ Keeps.pure _
  · exact Keeps.bind hlive fun _ ↦ Keeps.pure _

theorem goLive_result (system : System P C) : (goLive request connection system).1 = .ok () := by
  rw [goLive, bind_apply, session_apply]
  dsimp only
  split
  · rw [bind_apply, bind_apply, pure_apply]
  · rw [bind_apply, pure_apply]

/-- A session that is connected opens its stream if it samples one, and goes live. -/
theorem start_of_connection {system : System P C}
    (hconnect : (P.connect request system.driver).result = .ok connection) :
    start request system =
      (if request.mode = .time then openStream connection >>= fun _ ↦ goLive request connection
        else goLive request connection) (connect request system).2 := by
  rw [start, bind_apply, connect_result, hconnect]
  rfl

theorem spares_goLive : Keeps (Spares watch) (goLive request connection :
    Run P C (Except Error Unit)) :=
  keeps_goLive (spares_openDump _ _ _) (spares_modifySession _)

end GoLive

theorem spares_start (hlife : watch .life = false) (request : Driver.Request) :
    Keeps (Spares watch) (start request : Run P C (Except Error Unit)) := by
  unfold start
  refine Keeps.bind (spares_connect hlife request) fun result ↦ ?_
  cases result with
  | error cause => exact Keeps.pure _
  | ok connection =>
    dsimp only
    split
    · exact Keeps.bind (spares_openStream hlife connection) fun _ ↦ spares_goLive
    · exact spares_goLive

theorem spares_ensureInitialized (hlife : watch .life = false) (request : Driver.Request) :
    Keeps (Spares watch) (ensureInitialized request : Run P C (Except Error Unit)) := by
  unfold ensureInitialized
  refine Keeps.bind Keeps.session fun session ↦ ?_
  split
  · split <;> exact Keeps.pure _
  · exact spares_start hlife request

theorem spares_close (hlife : watch .life = false) :
    Keeps (Spares watch) (close : Run P C Unit) := by
  have hdisconnect : Keeps (Spares watch) (disconnect : Run P C Unit) := by
    unfold disconnect
    refine Keeps.bind Keeps.session fun session ↦ ?_
    split
    · exact Keeps.pure _
    · exact Keeps.bind (spares_modifySession _) fun _ ↦
        Keeps.bind (sameLife_note hlife).spares fun _ ↦ (sameLife_askDriver _).spares
  exact Keeps.bind spares_closeDump fun _ ↦ Keeps.bind hdisconnect fun _ ↦ spares_modifySession _

/-! ## Sampling -/

theorem sameLife_write (label : String) (report : Report) :
    Keeps (SameLife watch) (Session.write label report : Run P C Bool) :=
  Keeps.bind (sameLife_withDriver fun _ ↦ sameLife_writeRow label report) fun _ ↦ Keeps.pure _

theorem sameLife_query (hevents : watch .events = false) (operation : String) (event : Event)
    (size : Nat) :
    Keeps (SameLife watch)
      (query operation event size : Run P C (Except Status ProfilingInfo)) := by
  unfold query
  refine Keeps.bind (sameLife_note hevents) fun _ ↦
    Keeps.bind (sameLife_askCompute _) fun result ↦ ?_
  cases result with
  | error status =>
    exact Keeps.bind (sameLife_log _) fun _ ↦ Keeps.bind (sameLife_count _) fun _ ↦ Keeps.pure _
  | ok info =>
    dsimp only
    split
    · exact Keeps.bind (sameLife_log _) fun _ ↦ Keeps.pure _
    · exact Keeps.pure _

theorem sameLife_readEvent (hevents : watch .events = false) (operation : String) (event : Event)
    (active : Active P) :
    Keeps (SameLife watch)
      (readEvent operation event active : Run P C (Except SampleOutcome Report)) := by
  unfold readEvent
  split
  · exact Keeps.bind (sameLife_log _) fun _ ↦ Keeps.pure _
  · refine Keeps.bind Keeps.get fun system ↦
      Keeps.bind (sameLife_query hevents operation event _) fun result ↦ ?_
    cases result with
    | error status => exact Keeps.pure _
    | ok info =>
      have hdecode : Keeps (SameLife watch) (decode active.connection
          (info.buffer (P.reportSize active.connection system.driver)) : Run P C Report) :=
        Keeps.bind (sameLife_note hevents) fun _ ↦ sameLife_askDriver _
      refine Keeps.bind hdecode fun report ↦ ?_
      split
      · exact Keeps.bind (sameLife_count _) fun _ ↦ Keeps.pure _
      · exact Keeps.bind (sameLife_writeRow operation report) fun _ ↦ Keeps.pure _

theorem sameLife_sampleEvent (hevents : watch .events = false) (operation : String)
    (event : Event) :
    Keeps (SameLife watch) (sampleEvent operation event : Run P C SampleOutcome) := by
  unfold sampleEvent
  refine Keeps.bind (sameLife_withDriver fun active ↦
    sameLife_readEvent hevents operation event active) fun result ↦ ?_
  split
  · exact Keeps.pure _
  · exact Keeps.pure _
  · exact Keeps.bind (sameLife_modifySession _ (fun _ ↦ rfl) fun _ ↦ rfl) fun _ ↦
      Keeps.bind (sameLife_count _) fun _ ↦ Keeps.pure _

theorem sameLife_writeReports (information : List Value) (reports : List Report) :
    Keeps (SameLife watch) (writeReports information reports : Run P C Unit) := by
  induction reports with
  | nil => exact Keeps.pure _
  | cons report reports ih => exact Keeps.bind (sameLife_writeRow _ _) fun _ ↦ ih

theorem sameLife_takeReports (hstream : watch .stream = false) (connection : P.Connection) :
    Keeps (SameLife watch) (takeReports connection : Run P C Nat) := by
  unfold takeReports
  exact Keeps.bind (sameLife_askDriver _) fun reports ↦
    Keeps.bind (sameLife_askDriver _) fun values ↦ Keeps.bind (sameLife_log _) fun _ ↦
    Keeps.bind (sameLife_writeReports values reports) fun _ ↦
    Keeps.bind (sameLife_note hstream) fun _ ↦
    Keeps.bind (sameLife_askDriver _) fun _ ↦ Keeps.pure _

/-- The induction is on the fuel. -/
theorem sameLife_drainLoop (hstream : watch .stream = false) (connection : P.Connection)
    (fuel : Nat) : Keeps (SameLife watch) (drainLoop connection fuel : Run P C Nat) := by
  induction fuel with
  | zero => exact Keeps.pure _
  | succ fuel ih =>
    unfold drainLoop
    refine Keeps.bind (sameLife_note hstream) fun _ ↦
      Keeps.bind (sameLife_askDriver _) fun found ↦ ?_
    split
    · exact Keeps.bind (sameLife_takeReports hstream connection) fun _ ↦
        Keeps.bind ih fun _ ↦ Keeps.pure _
    · exact Keeps.pure _

theorem sameLife_drainStream (hstream : watch .stream = false) :
    Keeps (SameLife watch) (drainStream : Run P C Nat) := by
  have hdrain : ∀ active : Active P,
      Keeps (SameLife watch) (drainActive active : Run P C Nat) := by
    intro active
    unfold drainActive
    split
    · exact Keeps.bind (sameLife_log _) fun _ ↦ Keeps.pure _
    · refine Keeps.bind Keeps.get fun system ↦
        Keeps.bind (sameLife_drainLoop hstream _ _) fun drained ↦ ?_
      dsimp only
      split
      · exact Keeps.bind (sameLife_count _) fun _ ↦ Keeps.pure _
      · exact Keeps.pure _
  exact Keeps.bind (sameLife_withDriver hdrain) fun _ ↦ Keeps.pure _

end Session

/-! ## Queues -/

namespace Queue

open GpuCounters.System GpuCounters.Run

variable {watch : Concern → Bool}

theorem sameLife_resolve (hqueues : watch .queues = false) (platform : Platform) :
    Keeps (SameLife watch) (resolve platform : Run P C (Option C.EntryPoint)) := by
  unfold resolve
  refine Keeps.bind Keeps.get fun system ↦ ?_
  split
  · exact Keeps.pure _
  · refine Keeps.bind (sameLife_note hqueues) fun _ ↦
      Keeps.bind (sameLife_askCompute _) fun found ↦ Keeps.bind ?_ fun _ ↦ Keeps.pure _
    exact fun _ ↦ ⟨⟨rfl, fun hwatched ↦ absurd hwatched (by simp [hqueues])⟩, rfl, rfl⟩

theorem sameLife_activateLive (hqueues : watch .queues = false) :
    Keeps (SameLife watch) (activateLive : Run P C (Except Error UInt32)) := by
  have hactivate : ∀ active : Active P,
      Keeps (SameLife watch) (activate active : Run P C (Except Error UInt32)) := by
    intro active
    unfold activate
    refine Keeps.bind (sameLife_note hqueues) fun _ ↦
      Keeps.bind (sameLife_askDriver _) fun result ↦ ?_
    cases result with
    | error cause => exact Keeps.pure _
    | ok _ => exact Keeps.bind Keeps.get fun _ ↦ Keeps.pure _
  unfold activateLive
  refine Keeps.bind (sameLife_withDriver hactivate) fun result ↦ ?_
  dsimp only
  cases result.getD (.error .uninitialized) with
  | error cause => exact Keeps.bind (sameLife_log _) fun _ ↦ Keeps.pure _
  | ok _ => exact Keeps.bind (Keeps.pure _) fun _ ↦ Keeps.pure _

theorem sameLife_call (hqueues : watch .queues = false) (entry : C.EntryPoint) (context : Context)
    (device : Device) (bits : Bits) (configuration : UInt32) :
    Keeps (SameLife watch)
      (call entry context device bits configuration : Run P C (Except Error CounterQueue)) := by
  unfold call
  refine Keeps.bind (sameLife_log _) fun _ ↦ Keeps.bind (sameLife_askCompute _) fun result ↦
    Keeps.bind (sameLife_note hqueues) fun _ ↦ ?_
  cases result <;> exact Keeps.bind (sameLife_log _) fun _ ↦ Keeps.pure _

theorem sameLife_createOn (hqueues : watch .queues = false) (platform : Platform)
    (context : Context) (device : Device) (bits : Bits) :
    Keeps (SameLife watch)
      (createOn platform context device bits : Run P C (Except Error CounterQueue)) := by
  unfold createOn
  refine Keeps.bind (sameLife_resolve hqueues platform) fun point? ↦ ?_
  cases point? with
  | none => exact Keeps.bind (sameLife_log _) fun _ ↦ Keeps.pure _
  | some entry =>
    refine Keeps.bind (sameLife_activateLive hqueues) fun result ↦ ?_
    cases result with
    | error cause => exact Keeps.pure _
    | ok configuration => exact sameLife_call hqueues entry context device bits configuration

theorem sameLife_create (hqueues : watch .queues = false) (context : Context) (device : Device)
    (bits : Bits) :
    Keeps (SameLife watch)
      (create context device bits : Run P C (Except Error CounterQueue)) := by
  have hplatform : Keeps (SameLife watch)
      (platformOf device : Run P C (Except Status Platform)) :=
    Keeps.bind (sameLife_note hqueues) fun _ ↦ sameLife_askCompute _
  unfold create
  refine Keeps.bind hplatform fun result ↦ ?_
  cases result with
  | error status =>
    exact Keeps.bind (Keeps.pure _) fun _ ↦ Keeps.bind (sameLife_count _) fun _ ↦ Keeps.pure _
  | ok platform =>
    exact Keeps.bind (sameLife_createOn hqueues platform context device bits) fun _ ↦
      Keeps.bind (sameLife_count _) fun _ ↦ Keeps.pure _

theorem sameLife_createWithProperties (hqueues : watch .queues = false) (context : Context)
    (device : Device) (properties : Option (List UInt64)) :
    Keeps (SameLife watch)
      (createWithProperties context device properties :
        Run P C (Except Error CounterQueue)) := by
  unfold createWithProperties
  cases bitsOf properties with
  | error refusal =>
    exact Keeps.bind (sameLife_log _) fun _ ↦ Keeps.bind (sameLife_count _) fun _ ↦ Keeps.pure _
  | ok bits => exact sameLife_create hqueues context device bits

end Queue

end GpuCounters
