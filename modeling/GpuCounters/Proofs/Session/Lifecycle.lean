import GpuCounters.Driver.ScriptedLibrary
import GpuCounters.Proofs.Session.Activities

/-!
# The life of a session

A session connects when it is asked to start and is not live, and never otherwise. A failed attempt
leaves nothing behind; one that succeeds makes the session live for what was asked, with its dump
at the path of the metric set, until the session is closed. So the connections of a run come one
after the other, each given up before the next one is made, and the ones of a stream open it once.
-/

namespace GpuCounters

open Storage

variable {P : Driver.Provider} {C : Compute}

/-! ## Activities of a life -/

namespace Activity

def request? : Activity → Option Driver.Request
  | .connect request => some request
  | _ => none

def parameters? : Activity → Option Driver.StreamParameters
  | .openStream parameters => some parameters
  | _ => none

def isDisconnect : Activity → Bool
  | .disconnect => true
  | _ => false

end Activity

namespace Session

open GpuCounters.System GpuCounters.Run

/-! ## Starting -/

def streamParameters : Driver.StreamParameters := .allProcesses Driver.streamPeriod

/-- What a successful attempt asks. -/
def startActivities (request : Driver.Request) : List Activity :=
  .connect request :: if request.mode = .time then [.openStream streamParameters] else []

section Starting

variable {request : Driver.Request} {system : System P C}

/-- A failed attempt asks once, and leaves nothing behind but a count of failures. -/
theorem start_of_error {cause : Driver.Error}
    (hconnect : (P.connect request system.driver).result = .error cause) :
    ∃ log calls, start request system =
      (.error (.driverUnavailable cause),
        { system with
          driver := (P.connect request system.driver).state
          activities := system.activities.push (.connect request)
          session :=
            { system.session with connectFailures := system.session.connectFailures + 1 }
          log, calls }) := by
  obtain ⟨log, calls, hask⟩ :=
    askDriver_apply (P.connect request) (note (.connect request) system).2
  have hdriver : (note (.connect request) system).2.driver = system.driver := rfl
  rw [hdriver, hconnect] at hask
  let said : Log.Event :=
    if system.session.connectFailures = 0 then .connectFailed cause else .stillUnavailable cause
  refine ⟨log.push said, calls, ?_⟩
  rw [start, bind_apply, connect, bind_apply, bind_apply, hask]
  rfl

theorem asks_connect (request : Driver.Request) (system : System P C) :
    Asks [.connect request] system (connect request system).2 := by
  have hasked := asks_note (.connect request) system
  apply hasked.then_spares
  rw [connect, bind_apply]
  refine Keeps.bind (sameLife_askDriver _).spares (fun result ↦ ?_) _
  cases result with
  | ok connection => exact Keeps.bind (sameLife_log _).spares fun _ ↦ Keeps.pure _
  | error cause =>
    exact Keeps.bind Keeps.session fun session ↦ Keeps.bind (sameLife_log _).spares fun _ ↦
      Keeps.bind (spares_modifySession _) fun _ ↦ Keeps.pure _

theorem asks_openStream (connection : P.Connection) (system : System P C) :
    Asks [.openStream streamParameters] system (openStream connection system).2 := by
  have hasked := asks_note (.openStream streamParameters) system
  apply hasked.then_spares
  rw [openStream, bind_apply]
  refine Keeps.bind (sameLife_askDriver _).spares (fun result ↦ ?_) _
  cases result with
  | ok _ => exact Keeps.pure _
  | error cause => exact (sameLife_log _).spares

/-- A dump that is opened has the path it was asked for, the shape of its layout and no row. -/
theorem exists_of_start {path : Path} {dumpLayout : Dump.Layout} {access : Disk.Access}
    {disk later : Disk} {writer : Dump.Writer}
    (h : Dump.Writer.start path dumpLayout access disk = (.ok writer, later)) :
    ∃ output, writer = ⟨path, output, dumpLayout.rowShape, 0⟩ := by
  unfold Dump.Writer.start at h
  split at h
  · simp at h
  · split at h
    · simp at h
    · dsimp only at h
      split at h
      · exact ⟨_, (Except.ok.inj (congrArg Prod.fst h)).symm⟩
      · split at h
        · exact ⟨_, (Except.ok.inj (congrArg Prod.fst h)).symm⟩
        · simp at h

theorem path_openDump (hdump : system.session.dump? = none) (mode : Mode) (metricSet : String)
    (connection : P.Connection) :
    ∀ writer ∈ (openDump mode metricSet connection system).2.session.dump?,
      writer.path = system.dumpFile metricSet := by
  rcases hstart : Dump.Writer.start (system.dumpFile metricSet) (layout mode connection)
    (accessOf system.session (system.dumpFile metricSet)) system.disk with ⟨result, later⟩
  rw [openDump_eq hstart]
  cases result with
  | error cause => simp [System.take, hdump]
  | ok opened =>
    obtain ⟨output, rfl⟩ := exists_of_start hstart
    dsimp only
    split <;> simp

/-- A session that is made live asks for a connection and, if it samples a stream, to open it. -/
theorem start_of_ok {connection : P.Connection}
    (hconnect : (P.connect request system.driver).result = .ok connection) :
    (start request system).1 = .ok () ∧
      Asks (startActivities request) system (start request system).2 := by
  have hconnected := asks_connect request system
  rw [start_of_connection hconnect, startActivities]
  by_cases htime : request.mode = .time
  · rw [if_pos htime, if_pos htime, bind_apply]
    have hstreamed := hconnected.trans (asks_openStream connection (connect request system).2)
    exact ⟨goLive_result _, hstreamed.then_spares (spares_goLive _)⟩
  · rw [if_neg htime, if_neg htime]
    exact ⟨goLive_result _, hconnected.then_spares (spares_goLive _)⟩

/-- The dump of a session that is made live has the path of the metric set. -/
theorem path_start_of_ok {connection : P.Connection}
    (hconnect : (P.connect request system.driver).result = .ok connection)
    (hdump : system.session.dump? = none) :
    ∀ writer ∈ (start request system).2.session.dump?,
      writer.path = system.dumpFile request.metricSet := by
  obtain ⟨streamed, hidle, hstart⟩ := start_of_connected hdump hconnect
  have hpath := path_openDump (hidle.dump.trans hdump) request.mode request.metricSet connection
  obtain ⟨hlive, -⟩ := modifySession_activated request connection
    (openDump request.mode request.metricSet connection streamed).2
  rw [dumpFile_eq hidle.toLater] at hpath
  rw [hstart, opened, hlive.dump]
  exact hpath

end Starting

/-- What becomes of a request to start: a live session keeps its life and refuses another one, and
a session that is not live tries to connect once. -/
inductive Started (request : Driver.Request) (before : System P C) :
    Except Error Unit → System P C → Prop
  /-- The session is live as requested. -/
  | kept (active : Active P) (live : before.session.active? = some active)
      (same : active.mode = request.mode ∧ active.metricSet = request.metricSet) :
      Started request before (.ok ()) before
  /-- The session is live with another mode or metric set. -/
  | refused (active : Active P) (live : before.session.active? = some active)
      (other : active.mode ≠ request.mode ∨ active.metricSet ≠ request.metricSet) :
      Started request before
        (.error (.reconfigured active.mode active.metricSet request.mode request.metricSet)) before
  /-- The session is not live, and no driver can be connected to. -/
  | failed (cause : Driver.Error) (log : Array Log.Event) (calls : Array LibraryCall)
      (idle : before.session.active? = none)
      (answer : (P.connect request before.driver).result = .error cause) :
      Started request before (.error (.driverUnavailable cause))
        { before with
          driver := (P.connect request before.driver).state
          activities := before.activities.push (.connect request)
          session :=
            { before.session with connectFailures := before.session.connectFailures + 1 }
          log, calls }
  /-- The session was not live, and now it is as requested. -/
  | live (connection : P.Connection) (after : System P C) (idle : before.session.active? = none)
      (answer : (P.connect request before.driver).result = .ok connection)
      (active : after.session.active? = some ⟨request.mode, request.metricSet, connection⟩)
      (asks : Asks (startActivities request) before after)
      (path : ∀ writer ∈ after.session.dump?,
        writer.path = after.dumpFile request.metricSet) :
      Started request before (.ok ()) after

/-- Every request to start becomes something, if no dump is open while no driver is live. -/
theorem started_ensureInitialized {system : System P C}
    (hdump : system.session.active? = none → system.session.dump? = none)
    (request : Driver.Request) :
    Started request system (ensureInitialized request system).1
      (ensureInitialized request system).2 := by
  rw [ensureInitialized, bind_apply, session_apply]
  cases hactive : system.session.active? with
  | some active =>
    dsimp only
    by_cases hother : active.mode ≠ request.mode ∨ active.metricSet ≠ request.metricSet
    · rw [if_pos hother]
      exact .refused active hactive hother
    · rw [if_neg hother]
      rw [not_or, not_not, not_not] at hother
      exact .kept active hactive hother
  | none =>
    dsimp only
    cases hconnect : (P.connect request system.driver).result with
    | error cause =>
      obtain ⟨log, calls, hstart⟩ := start_of_error (C := C) hconnect
      rw [hstart]
      exact .failed cause log calls hactive hconnect
    | ok connection =>
      obtain ⟨hanswer, hasks⟩ := start_of_ok hconnect
      have hpath := path_start_of_ok hconnect (hdump hactive)
      have hspec := start_spec (hdump hactive) request
      rw [hconnect] at hspec
      rw [hanswer]
      refine .live connection _ hactive hconnect hspec.2.1 hasks ?_
      rw [dumpFile_eq (later_start request system)]
      exact hpath

/-! ## Closing -/

/-- What is left to do to a session: to give its connection up. -/
def outstanding (session : Session P) : List Activity :=
  if session.active?.isSome then [.disconnect] else []

theorem outstanding_of_none {session : Session P} (h : session.active? = none) :
    outstanding session = [] := by
  rw [outstanding, h]
  rfl

theorem outstanding_of_some {session : Session P} {active : Active P}
    (h : session.active? = some active) : outstanding session = [.disconnect] := by
  rw [outstanding, h]
  rfl

/-- Closing gives the connection up, if there is one, and the dump. -/
theorem close_asks (system : System P C) :
    Asks (outstanding system.session) system (Session.close system).2 ∧
      (Session.close system).2.session.dump? = none := by
  have hclosed : Asks [] system (closeDump system).2 := Asks.of_spares (spares_closeDump system)
  have hactive : (closeDump system).2.session.active? = system.session.active? :=
    (steady_closeDump system).active
  have hdump : (closeDump system).2.session.dump? = none := by
    cases hopen : system.session.dump? with
    | none => rw [closeDump_of_none hopen, hopen]
    | some writer =>
      rcases hflush : writer.flush system.disk with ⟨result, next, later⟩
      rw [closeDump_of_dump hopen hflush]
  have hdisconnect : Asks (outstanding system.session) (closeDump system).2
      (disconnect (closeDump system).2).2 := by
    rw [disconnect, bind_apply, session_apply, hactive]
    cases hlive : system.session.active? with
    | none =>
      rw [outstanding_of_none hlive]
      exact Asks.of_spares (refl_of (Spares fun _ ↦ true) _)
    | some active =>
      rw [outstanding_of_some hlive]
      have hleft : Keeps (Spares fun _ ↦ true) (modifySession fun session ↦
          { session with active? := none } : Run P C Unit) := spares_modifySession _
      have hnoted := (Asks.of_spares (hleft (closeDump system).2)).trans
        (asks_note .disconnect (modifySession _ (closeDump system).2).2)
      exact hnoted.then_spares (sameLife_askDriver _ _).toSpares
  have hflag : Keeps (Spares fun _ ↦ true) (modifySession fun session ↦
      { session with missingReported := false } : Run P C Unit) := spares_modifySession _
  refine ⟨(hclosed.trans hdisconnect).then_spares (hflag _), ?_⟩
  exact (untouched_disconnect (closeDump system).2).dump.trans hdump

/-! ## Lives -/

/-- An attempt to connect, and whether it led to a connection. -/
structure Attempt where
  request : Driver.Request
  succeeded : Bool
  deriving DecidableEq

/-- What is asked from an attempt on until its connection, if there is one, is given up. -/
def Attempt.activities (attempt : Attempt) : List Activity :=
  if attempt.succeeded then startActivities attempt.request ++ [.disconnect]
  else [.connect attempt.request]

def Attempt.streams (attempt : Attempt) : Bool :=
  attempt.succeeded && attempt.request.mode = .time

/-- The attempt that an operation is: a request to start a session that is not live. -/
def Op.attempt? : Op P C → System P C → Option Attempt
  | .start request, system =>
    match system.session.active? with
    | some _ => none
    | none => some ⟨request, (P.connect request system.driver).result.isOk⟩
  | .write _ _, _ | .sample _ _, _ | .drain, _ | .close, _ | .outside _ _, _ => none

def attemptsOf : List (Op P C) → System P C → List Attempt
  | [], _ => []
  | op :: ops, system => (op.attempt? system).toList ++ attemptsOf ops (op.run system).2

/-- The concern for connections alone. -/
def ofLife (concern : Concern) : Bool := concern = .life

/-- Only what is about connections requests one. -/
theorem request?_of_concern {activity : Activity} (h : ofLife activity.concern = false) :
    activity.request? = none := by
  cases activity <;> first | rfl | cases h

/-- Whether a system has the given attempts behind it: its connections came one after the other,
and its dump is that of the live one. -/
structure Lives (attempts : List Attempt) (system : System P C) : Prop where
  /-- The last connection is still to be given up if it is live. -/
  line : system.asked ofLife ++ outstanding system.session = attempts.flatMap Attempt.activities
  /-- The dump is at the path of the live metric set. -/
  dump : ∀ writer ∈ system.session.dump?, ∃ active ∈ system.session.active?,
    writer.path = system.dumpFile active.metricSet

section Lives

variable {attempts : List Attempt} {system after : System P C}

theorem Lives.dump?_eq_none (h : Lives attempts system)
    (hactive : system.session.active? = none) : system.session.dump? = none := by
  by_contra hdump
  obtain ⟨writer, hwriter⟩ := Option.ne_none_iff_exists'.1 hdump
  obtain ⟨active, hlive, -⟩ := h.dump writer hwriter
  rw [hactive] at hlive
  cases hlive

/-- Work that asks nothing about connections is part of the life it finds. -/
theorem Lives.sameLife (h : Lives attempts system) (hsame : SameLife ofLife system after)
    (hlater : Later system after) : Lives attempts after where
  line := by
    rw [outstanding, hsame.asked, hsame.active]
    exact h.line
  dump := by
    intro writer hwriter
    have hpath : after.dumpPath? = some writer.path := by
      rw [System.dumpPath?, Option.mem_def.1 hwriter, Option.map_some]
    rw [hsame.dumpPath] at hpath
    obtain ⟨former, hformer, hwritten⟩ := Option.map_eq_some_iff.1 hpath
    obtain ⟨active, hactive, hfile⟩ := h.dump former hformer
    refine ⟨active, hsame.active ▸ hactive, ?_⟩
    rw [dumpFile_eq hlater, ← hfile, hwritten]

theorem Lives.start (h : Lives attempts system) (request : Driver.Request) :
    Lives (attempts ++ (Op.attempt? (.start request) system).toList)
      (ensureInitialized request system).2 := by
  have hline := h.line
  have hstarted := started_ensureInitialized h.dump?_eq_none request
  rw [Op.attempt?]
  revert hstarted
  generalize (ensureInitialized request system).1 = answer
  generalize (ensureInitialized request system).2 = after
  intro hstarted
  cases hstarted with
  | kept active live same =>
    rw [live, Option.toList_none, List.append_nil]
    exact h
  | refused active live other =>
    rw [live, Option.toList_none, List.append_nil]
    exact h
  | failed cause log calls idle answer =>
    have hdump := h.dump?_eq_none idle
    rw [outstanding_of_none idle, List.append_nil] at hline
    rw [idle, answer]
    refine ⟨?_, by simp [hdump]⟩
    have hasked : Asks [.connect request] system
        { system with
          driver := (P.connect request system.driver).state
          activities := system.activities.push (.connect request)
          session :=
            { system.session with connectFailures := system.session.connectFailures + 1 }
          log, calls } := Array.toList_push
    have hidle : outstanding
        { system.session with connectFailures := system.session.connectFailures + 1 } = [] :=
      outstanding_of_none idle
    rw [hasked.asked, hline, hidle, List.flatMap_append]
    simp [ofLife, Activity.concern, Attempt.activities, Except.isOk, Except.toBool]
  | live connection after idle answer active asks path =>
    rw [outstanding_of_none idle, List.append_nil] at hline
    rw [idle, answer]
    refine ⟨?_, fun writer hwriter ↦ ⟨_, active, path writer hwriter⟩⟩
    have hlife : ∀ activity ∈ startActivities request, ofLife activity.concern = true := by
      unfold startActivities
      split <;> simp [ofLife, Activity.concern]
    rw [asks.asked, hline, List.filter_eq_self.2 hlife, outstanding_of_some active,
      List.flatMap_append]
    simp [Attempt.activities, Except.isOk, Except.toBool]

theorem Lives.close (h : Lives attempts system) : Lives attempts (Session.close system).2 := by
  obtain ⟨hasks, hdump⟩ := close_asks system
  obtain ⟨-, hactive, -⟩ := close_spec system
  refine ⟨?_, by simp [hdump]⟩
  have hclosed : (Session.close system).2.asked ofLife =
      system.asked ofLife ++ outstanding system.session := by
    rw [hasks.asked, outstanding]
    split <;> rfl
  rw [hclosed, outstanding_of_none hactive, List.append_nil]
  exact h.line

/-- Every operation goes on with the lives behind it, by its own attempt if it is one. -/
theorem Lives.run (h : Lives attempts system) (op : Op P C) :
    Lives (attempts ++ (op.attempt? system).toList) (op.run system).2 := by
  have hlater := later_run op system
  cases op with
  | start request => exact h.start request
  | close =>
    rw [Op.attempt?, Option.toList_none, List.append_nil]
    exact h.close
  | write label report =>
    rw [Op.attempt?, Option.toList_none, List.append_nil]
    exact h.sameLife (sameLife_write label report system) hlater
  | sample operation event =>
    rw [Op.attempt?, Option.toList_none, List.append_nil]
    exact h.sameLife (sameLife_sampleEvent rfl operation event system) hlater
  | drain =>
    rw [Op.attempt?, Option.toList_none, List.append_nil]
    exact h.sameLife (sameLife_drainStream rfl system) hlater
  | outside driver compute =>
    rw [Op.attempt?, Option.toList_none, List.append_nil]
    exact h.sameLife (sameLife_of_eq rfl rfl rfl rfl) hlater

/-- The induction is on the operations: the lives behind one are those before the next. -/
theorem Lives.runAll (h : Lives attempts system) (ops : List (Op P C)) :
    Lives (attempts ++ attemptsOf ops system) (Session.runAll ops system) := by
  induction ops generalizing attempts system with
  | nil =>
    rw [attemptsOf, List.append_nil]
    exact h
  | cons op ops ih =>
    rw [attemptsOf, ← List.append_assoc]
    exact ih (h.run op)

theorem lives_of_fresh (hsession : system.session = {}) (hactivities : system.activities = #[]) :
    Lives [] system := by
  refine ⟨?_, by simp [hsession]⟩
  rw [outstanding_of_none (congrArg Session.active? hsession), System.asked, hactivities]
  rfl

end Lives

/-! ## Counts -/

section Counts

variable {attempts : List Attempt} {system : System P C}

/-- What there is about connections in a run is what there is about them in its lives. -/
theorem Lives.filterMap_activities {α : Type} {f : Activity → Option α} (h : Lives attempts system)
    (hother : ∀ activity, ofLife activity.concern = false → f activity = none) :
    system.activities.toList.filterMap f ++ (outstanding system.session).filterMap f =
      attempts.flatMap fun attempt ↦ attempt.activities.filterMap f := by
  rw [← filterMap_asked hother, ← List.filterMap_append, h.line, List.filterMap_flatMap]

/-- There is one request to connect for each attempt. -/
theorem Lives.requests (h : Lives attempts system) :
    system.activities.toList.filterMap Activity.request? = attempts.map (·.request) := by
  have hrest : (outstanding system.session).filterMap Activity.request? = [] := by
    unfold outstanding
    split <;> rfl
  have hone : ∀ attempt : Attempt,
      attempt.activities.filterMap Activity.request? = [attempt.request] := by
    intro attempt
    unfold Attempt.activities startActivities
    split
    · split <;> rfl
    · rfl
  have hall := h.filterMap_activities fun _ ↦ request?_of_concern
  rw [hrest, List.append_nil] at hall
  rw [hall, List.map_eq_flatMap]
  simp only [hone]

/-- There is one stream for each attempt that led to one. -/
theorem Lives.openings (h : Lives attempts system) :
    system.activities.toList.filterMap Activity.parameters? =
      (attempts.filter Attempt.streams).map fun _ ↦ streamParameters := by
  have hother : ∀ activity : Activity, ofLife activity.concern = false →
      activity.parameters? = none := by
    intro activity hactivity
    cases activity <;> first | rfl | cases hactivity
  have hrest : (outstanding system.session).filterMap Activity.parameters? = [] := by
    unfold outstanding
    split <;> rfl
  have hone : ∀ attempt : Attempt, attempt.activities.filterMap Activity.parameters? =
      if attempt.streams then [streamParameters] else [] := by
    intro attempt
    unfold Attempt.activities startActivities Attempt.streams
    cases attempt.succeeded with
    | false => rfl
    | true => cases attempt.request.mode <;> rfl
  have hall := h.filterMap_activities hother
  rw [hrest, List.append_nil] at hall
  rw [hall]
  simp only [hone]
  clear h hall
  induction attempts with
  | nil => rfl
  | cons attempt attempts ih =>
    rw [List.flatMap_cons, ih]
    cases hstreams : attempt.streams <;> simp [hstreams]

/-- Every connection but the live one was given up. -/
theorem Lives.disconnects (h : Lives attempts system) :
    (system.activities.toList.filter Activity.isDisconnect).length +
        system.session.active?.toList.length =
      (attempts.filter (·.succeeded)).length := by
  have hother : ∀ activity : Activity, ofLife activity.concern = false →
      Option.guard Activity.isDisconnect activity = none := by
    intro activity hactivity
    cases activity <;> first | rfl | cases hactivity
  have hrest : ((outstanding system.session).filter Activity.isDisconnect).length =
      system.session.active?.toList.length := by
    unfold outstanding
    cases system.session.active? <;> rfl
  have hone : ∀ attempt : Attempt, attempt.activities.filter Activity.isDisconnect =
      if attempt.succeeded then [.disconnect] else [] := by
    intro attempt
    unfold Attempt.activities startActivities
    cases attempt.succeeded with
    | false => rfl
    | true => cases attempt.request.mode <;> rfl
  have hall := congrArg List.length (h.filterMap_activities hother)
  simp only [List.filterMap_eq_filter, List.length_append, hrest, hone] at hall
  rw [hall]
  clear h hall hrest
  induction attempts with
  | nil => rfl
  | cons attempt attempts ih =>
    rw [List.flatMap_cons, List.length_append, ih]
    cases hsucceeded : attempt.succeeded <;> simp [hsucceeded, Nat.add_comm]

end Counts

/-! ## Runs -/

/-- Whatever is asked of a new session and whatever the driver answers, an open dump is that of the
live metric set, a request to start connects exactly if the session is not live, and the
connections of the run come one after the other, each with a stream if it samples one. -/
theorem lifecycle_runAll {system : System P C} (hsession : system.session = {})
    (hactivities : system.activities = #[]) (ops : List (Op P C)) :
    let now := runAll ops system
    let attempts := attemptsOf ops system
    (∀ writer ∈ now.session.dump?, ∃ active ∈ now.session.active?,
        writer.path = now.dumpFile active.metricSet) ∧
      (∀ request, Started request now (ensureInitialized request now).1
        (ensureInitialized request now).2) ∧
      now.asked ofLife ++ outstanding now.session = attempts.flatMap Attempt.activities ∧
      now.activities.toList.filterMap Activity.request? = attempts.map (·.request) ∧
      now.activities.toList.filterMap Activity.parameters? =
        (attempts.filter Attempt.streams).map (fun _ ↦ streamParameters) ∧
      (now.activities.toList.filter Activity.isDisconnect).length +
          now.session.active?.toList.length =
        (attempts.filter (·.succeeded)).length := by
  have hlives : Lives (attemptsOf ops system) (runAll ops system) :=
    (lives_of_fresh hsession hactivities).runAll ops
  exact ⟨hlives.dump, started_ensureInitialized hlives.dump?_eq_none, hlives.line,
    hlives.requests, hlives.openings, hlives.disconnects⟩

/-- A driver library that cannot open its driver at first. -/
def lateScript : Driver.LibraryScript where
  metrics := [⟨some "Time".toUTF8, some "ns".toUTF8⟩]
  opening := [4, 0, 0]

/-- A system that has done nothing yet, with the driver of that library. -/
def lateSystem :
    System (Driver.loaded (fun _ ↦ none) (Driver.scriptedLibrary lateScript))
      Compute.simulated where
  driver := ({} : Driver.LibraryScript.State)
  compute := ({} : Compute.Simulated.State)
  disk := .empty
  dumpRoot := ⟨"/tmp"⟩
  process := "1"

/-- A failure, a life of a stream with two further requests, and a life of events. -/
def lateOps : List (Op (Driver.loaded (fun _ ↦ none) (Driver.scriptedLibrary lateScript))
    Compute.simulated) :=
  [.drain, .start (scriptedRequest .event "A" false), .close,
    .start (scriptedRequest .time "B" false), .drain,
    .start (scriptedRequest .time "B" true), .start (scriptedRequest .event "A" false), .close,
    .start (scriptedRequest .event "A" false), .close, .close,
    .start (scriptedRequest .event "A" false)]

/-- Of six requests four lead to an attempt, and one of these to a stream. -/
theorem lifecycle_runAll_late :
    lateSystem.session = {} ∧ lateSystem.activities = #[] ∧
      attemptsOf lateOps lateSystem =
        [⟨scriptedRequest .event "A" false, false⟩, ⟨scriptedRequest .time "B" false, true⟩,
          ⟨scriptedRequest .event "A" false, true⟩, ⟨scriptedRequest .event "A" false, true⟩] ∧
      (runAll lateOps lateSystem).activities.toList.filterMap Activity.request? =
        [scriptedRequest .event "A" false, scriptedRequest .time "B" false,
          scriptedRequest .event "A" false, scriptedRequest .event "A" false] ∧
      (runAll lateOps lateSystem).activities.toList.filterMap Activity.parameters? =
        [streamParameters] := by
  have hsession : lateSystem.session = {} := rfl
  have hactivities : lateSystem.activities = #[] := rfl
  have hattempts : attemptsOf lateOps lateSystem =
      [⟨scriptedRequest .event "A" false, false⟩, ⟨scriptedRequest .time "B" false, true⟩,
        ⟨scriptedRequest .event "A" false, true⟩, ⟨scriptedRequest .event "A" false, true⟩] := by
    decide +kernel
  obtain ⟨-, -, -, hrequests, hopenings, -⟩ := lifecycle_runAll hsession hactivities lateOps
  rw [hattempts] at hrequests hopenings
  exact ⟨hsession, hactivities, hattempts, hrequests, hopenings⟩

end Session

end GpuCounters
