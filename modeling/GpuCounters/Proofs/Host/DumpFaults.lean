import GpuCounters.Proofs.Host.Operations
import GpuCounters.Proofs.Session.Activities

/-!
# Dumps that fail

Whether dumps can be opened and rows can be written is nobody's business but that of the dumps. Two
runs of the same operations that differ in nothing but their disks and dumps, from the start on and
between any two operations, have the same answers, and after every operation their systems differ
in nothing else.
-/

namespace GpuCounters

open Storage

variable {P : Driver.Provider} {C : Compute} {α β γ : Type}

/-! ## Systems without their dumps -/

def Log.Event.isOfDump : Log.Event → Bool
  | .dumpStarted _ | .dumpReopened _ | .dumpFailed _ | .rowFailed _ | .dumpMissing
  | .dumpClosed _ _ | .flushFailed _ | .dumpComplete _ => true
  | _ => false

def Session.withoutDumps (session : Session P) : Session P :=
  { session with dump? := none, missingReported := false, openedDumps := [] }

def Telemetry.withoutDumps (counts : Telemetry) : Telemetry := { counts with dumpRows := 0 }

namespace System

/-- A system apart from its disk and its dumps: the parties, the rest of the session and of the
counts, what was asked and called, and what was logged of other things. -/
def withoutDumps (system : System P C) : System P C :=
  { system with
    disk := .empty
    dumpRoot := ⟨""⟩
    process := ""
    session := system.session.withoutDumps
    telemetry := system.telemetry.withoutDumps
    log := system.log.filter fun event ↦ !event.isOfDump }

/-- Whether two systems differ in their disks and dumps alone. -/
def Alike (first second : System P C) : Prop := first.withoutDumps = second.withoutDumps

instance : IsPreorder (System P C) Alike where
  refl _ := rfl
  trans _ _ _ h hlast := Eq.trans h hlast

section Alike

variable {first second : System P C}

theorem Alike.congr (h : Alike first second) (view : System P C → α) :
    view first.withoutDumps = view second.withoutDumps := congrArg view h

/-- A change that comes to something without looking at the dumps. -/
theorem Alike.change (h : Alike first second) (change changed : System P C → System P C)
    (hchange : ∀ system, (change system).withoutDumps = changed system.withoutDumps) :
    Alike (change first) (change second) := by
  rw [Alike, hchange, hchange, h]

theorem Alike.driver (h : Alike first second) : first.driver = second.driver :=
  h.congr System.driver

theorem Alike.compute (h : Alike first second) : first.compute = second.compute :=
  h.congr System.compute

theorem Alike.entryPoints (h : Alike first second) : first.entryPoints = second.entryPoints :=
  h.congr System.entryPoints

theorem Alike.session (h : Alike first second) :
    first.session.withoutDumps = second.session.withoutDumps := h.congr System.session

theorem Alike.active (h : Alike first second) :
    first.session.active? = second.session.active? := h.congr (·.session.active?)

theorem Alike.aggregator (h : Alike first second) :
    first.session.aggregator = second.session.aggregator := h.congr (·.session.aggregator)

/-- What is said of dumps does not count. -/
theorem withoutDumps_take_log (system : System P C) (event : Log.Event) :
    (system.take (.log event)).withoutDumps =
      if event.isOfDump then system.withoutDumps else system.withoutDumps.take (.log event) := by
  have hfilter : (system.log.push event).filter (fun said ↦ !said.isOfDump) =
      if event.isOfDump then system.log.filter (fun said ↦ !said.isOfDump)
      else (system.log.filter fun said ↦ !said.isOfDump).push event := by
    cases hevent : event.isOfDump <;> simp [hevent]
  rw [System.withoutDumps, System.take]
  simp only [hfilter]
  split <;> rfl

theorem alike_take (h : Alike first second) (note : Note) :
    Alike (first.take note) (second.take note) := by
  cases note with
  | call call =>
    exact h.change (·.take (.call call)) (·.take (.call call)) fun _ ↦ rfl
  | log event =>
    exact h.change (·.take (.log event))
      (fun system ↦ if event.isOfDump then system else system.take (.log event))
      fun system ↦ withoutDumps_take_log system event

theorem alike_take_of_dump (system : System P C) {event : Log.Event} (h : event.isOfDump = true) :
    Alike system (system.take (.log event)) := by
  rw [Alike, withoutDumps_take_log, if_pos h]

/-- Alike systems stay alike when they take down the same notes. -/
theorem alike_foldl_take (h : Alike first second) (notes : List Note) :
    Alike (notes.foldl System.take first) (notes.foldl System.take second) := by
  induction notes generalizing first second with
  | nil => exact h
  | cons note notes ih => exact ih (alike_take h note)

end Alike

end System

/-! ## Work that does not see dumps -/

namespace Run

open GpuCounters.System

/-- Whether work does not see dumps: on alike systems it has the same answer and leaves alike
systems behind. -/
def Blind (run : Run P C α) : Prop :=
  ∀ first second, Alike first second →
    (run first).1 = (run second).1 ∧ Alike (run first).2 (run second).2

namespace Blind

theorem pure (value : α) : Blind (pure value : Run P C α) := fun _ _ h ↦ ⟨rfl, h⟩

theorem bind {run : Run P C α} {next : α → Run P C β} (h : Blind run)
    (hnext : ∀ value, Blind (next value)) : Blind (run >>= next) := by
  intro first second halike
  obtain ⟨hanswer, hafter⟩ := h first second halike
  rw [bind_apply, bind_apply, hanswer]
  exact hnext _ _ _ hafter

/-- Work that only sees what alike systems share may look at it. -/
theorem get {next : System P C → Run P C α} (hnext : ∀ system, Blind (next system))
    (hsees : ∀ first second, Alike first second → next first = next second) :
    Blind (get >>= next) := by
  intro first second halike
  rw [bind_apply, bind_apply, get_apply, get_apply, hsees first second halike]
  exact hnext second first second halike

theorem session {next : Session P → Run P C α} (hnext : ∀ session, Blind (next session))
    (hsees : ∀ session, next session.withoutDumps = next session) :
    Blind (Run.session >>= next) := by
  have hget : Blind (MonadState.get >>= fun system : System P C ↦ next system.session) := by
    refine get (fun system ↦ hnext system.session) fun first second halike ↦ ?_
    rw [← hsees first.session, ← hsees second.session, halike.session]
  exact hget

/-- Work whose traces are all in the dumps. -/
theorem of_alike {run : Run P C Unit} (h : Keeps Alike run) : Blind run := by
  intro first second halike
  refine ⟨rfl, ?_⟩
  calc (run first).2.withoutDumps
    _ = first.withoutDumps := (h first).symm
    _ = second.withoutDumps := halike
    _ = (run second).2.withoutDumps := h second

end Blind

theorem blind_log (event : Log.Event) : Blind (log event : Run P C Unit) :=
  fun _ _ h ↦ ⟨rfl, alike_take h (.log event)⟩

theorem blind_note (activity : Activity) : Blind (note activity : Run P C Unit) :=
  fun _ _ h ↦ ⟨rfl, h.change (fun system ↦ (note activity system).2)
    (fun system ↦ { system with activities := system.activities.push activity }) fun _ ↦ rfl⟩

theorem blind_count (change : Telemetry → Telemetry)
    (hsees : ∀ counts, (change counts.withoutDumps).withoutDumps = (change counts).withoutDumps) :
    Blind (count change : Run P C Unit) := by
  intro first second h
  refine ⟨rfl, h.change (fun system ↦ (count change system).2)
    (fun system ↦ { system with telemetry := (change system.telemetry).withoutDumps }) ?_⟩
  intro system
  exact congrArg (fun telemetry ↦ { system.withoutDumps with telemetry })
    (hsees system.telemetry).symm

theorem blind_modifySession (change : Session P → Session P)
    (hsees : ∀ session, (change session.withoutDumps).withoutDumps =
      (change session).withoutDumps) :
    Blind (modifySession change : Run P C Unit) := by
  intro first second h
  refine ⟨rfl, h.change (fun system ↦ (modifySession change system).2)
    (fun system ↦ { system with session := (change system.session).withoutDumps }) ?_⟩
  intro system
  exact congrArg (fun session ↦ { system.withoutDumps with session })
    (hsees system.session).symm

/-- Parties do not know of dumps. -/
theorem blind_askDriver (ask : P.State → Exchange P.State α) :
    Blind (askDriver ask : Run P C α) := by
  intro first second h
  have hafter : ∀ system : System P C, askDriver ask system = ((ask system.driver).result,
      (ask system.driver).notes.foldl System.take
        { system with driver := (ask system.driver).state }) := fun _ ↦ rfl
  rw [hafter, hafter, ← h.driver]
  refine ⟨rfl, alike_foldl_take ?_ _⟩
  exact h.change (fun system ↦ { system with driver := (ask first.driver).state })
    (fun system ↦ { system with driver := (ask first.driver).state }) fun _ ↦ rfl

theorem blind_askCompute (ask : C.State → Exchange C.State α) :
    Blind (askCompute ask : Run P C α) := by
  intro first second h
  have hafter : ∀ system : System P C, askCompute ask system = ((ask system.compute).result,
      (ask system.compute).notes.foldl System.take
        { system with compute := (ask system.compute).state }) := fun _ ↦ rfl
  rw [hafter, hafter, ← h.compute]
  refine ⟨rfl, alike_foldl_take ?_ _⟩
  exact h.change (fun system ↦ { system with compute := (ask first.compute).state })
    (fun system ↦ { system with compute := (ask first.compute).state }) fun _ ↦ rfl

theorem blind_withDriver {act : Active P → Run P C α} (h : ∀ active, Blind (act active)) :
    Blind (withDriver act) := by
  unfold withDriver
  refine Blind.session (fun session ↦ ?_) fun _ ↦ rfl
  split
  · exact Blind.bind (h _) fun _ ↦ Blind.pure _
  · dsimp only
    split
    · exact Blind.bind (blind_modifySession _ fun _ ↦ rfl) fun _ ↦
        Blind.bind (blind_log _) fun _ ↦ Blind.pure _
    · exact Blind.pure _

end Run

/-! ## Dumps -/

namespace Session

open GpuCounters.System GpuCounters.Run

theorem alike_writeRow (label : String) (report : Report) :
    Keeps Alike (writeRow label report : Run P C Unit) := by
  intro before
  cases hdump : before.session.dump? with
  | none =>
    have hmissing : Keeps Alike (log .dumpMissing : Run P C Unit) :=
      fun system ↦ alike_take_of_dump system rfl
    have hflag : Keeps Alike (modifySession fun session ↦
        { session with missingReported := true } : Run P C Unit) := fun _ ↦ rfl
    unfold writeRow
    rw [bind_apply, session_apply, hdump]
    dsimp only
    split
    · exact Keeps.bind hmissing (fun _ ↦ hflag) before
    · exact refl_of Alike before
  | some writer =>
    rcases hwrite : writer.writeRow label report before.disk with ⟨result, next, later⟩
    rw [writeRow_of_dump hdump hwrite]
    cases result with
    | ok _ => rfl
    | error cause => exact alike_take_of_dump _ rfl

theorem alike_openDump (mode : Mode) (metricSet : String) (connection : P.Connection) :
    Keeps Alike (openDump mode metricSet connection : Run P C Unit) := by
  intro before
  rcases hstart : Dump.Writer.start (before.dumpFile metricSet) (layout mode connection)
    (accessOf before.session (before.dumpFile metricSet)) before.disk with ⟨result, later⟩
  rw [openDump_eq hstart]
  cases result with
  | error cause => exact alike_take_of_dump _ rfl
  | ok writer =>
    dsimp only
    split
    · exact alike_take_of_dump before rfl
    · exact alike_take_of_dump before rfl

theorem alike_closeDump : Keeps Alike (closeDump : Run P C Unit) := by
  intro before
  cases hdump : before.session.dump? with
  | none =>
    rw [closeDump_of_none hdump]
    exact refl_of Alike before
  | some writer =>
    rcases hflush : writer.flush before.disk with ⟨result, next, later⟩
    rw [closeDump_of_dump hdump hflush]
    cases result with
    | ok _ => exact alike_take_of_dump before rfl
    | error cause => exact alike_take_of_dump before rfl

/-! ## The life of a session -/

theorem blind_connect (request : Driver.Request) :
    Blind (connect request : Run P C (Except Driver.Error P.Connection)) := by
  unfold connect
  refine Blind.bind (blind_note _) fun _ ↦ Blind.bind (blind_askDriver _) fun result ↦ ?_
  cases result with
  | ok connection => exact Blind.bind (blind_log _) fun _ ↦ Blind.pure _
  | error cause =>
    refine Blind.session (fun session ↦ ?_) fun _ ↦ rfl
    exact Blind.bind (blind_log _) fun _ ↦
      Blind.bind (blind_modifySession _ fun _ ↦ rfl) fun _ ↦ Blind.pure _

theorem blind_openStream (connection : P.Connection) :
    Blind (openStream connection : Run P C Unit) := by
  unfold openStream
  refine Blind.bind (blind_note _) fun _ ↦ Blind.bind (blind_askDriver _) fun result ↦ ?_
  cases result with
  | ok _ => exact Blind.pure _
  | error cause => exact blind_log _

/-- Whether a dump is open decides on nothing but whether one is opened. -/
theorem blind_goLive (request : Driver.Request) (connection : P.Connection) :
    Blind (goLive request connection : Run P C (Except Error Unit)) := by
  have hopen : Keeps Alike (do
      if (← Run.session).dump?.isNone then
        openDump request.mode request.metricSet connection : Run P C Unit) := by
    refine Keeps.bind Keeps.session fun session ↦ ?_
    split
    · exact alike_openDump _ _ _
    · exact Keeps.pure _
  have hlive : Blind (do
      (do if (← Run.session).dump?.isNone then
        openDump request.mode request.metricSet connection)
      modifySession (activated request connection)
      return .ok () : Run P C (Except Error Unit)) :=
    Blind.bind (Blind.of_alike hopen) fun _ ↦
      Blind.bind (blind_modifySession _ fun _ ↦ rfl) fun _ ↦ Blind.pure _
  unfold goLive
  convert hlive using 1
  funext system
  simp only [bind_apply, session_apply]
  by_cases hnone : system.session.dump?.isNone = true
  · rw [if_pos hnone, if_pos hnone, bind_apply, bind_apply]
  · rw [if_neg hnone, if_neg hnone]
    rfl

theorem blind_start (request : Driver.Request) :
    Blind (start request : Run P C (Except Error Unit)) := by
  unfold start
  refine Blind.bind (blind_connect request) fun result ↦ ?_
  cases result with
  | error cause => exact Blind.pure _
  | ok connection =>
    dsimp only
    split
    · exact Blind.bind (blind_openStream connection) fun _ ↦ blind_goLive request connection
    · exact blind_goLive request connection

theorem blind_ensureInitialized (request : Driver.Request) :
    Blind (ensureInitialized request : Run P C (Except Error Unit)) := by
  unfold ensureInitialized
  refine Blind.session (fun session ↦ ?_) fun _ ↦ rfl
  split
  · split <;> exact Blind.pure _
  · exact blind_start request

theorem blind_close : Blind (close : Run P C Unit) := by
  have hdisconnect : Blind (disconnect : Run P C Unit) := by
    unfold disconnect
    refine Blind.session (fun session ↦ ?_) fun _ ↦ rfl
    split
    · exact Blind.pure _
    · exact Blind.bind (blind_modifySession _ fun _ ↦ rfl) fun _ ↦
        Blind.bind (blind_note _) fun _ ↦ blind_askDriver _
  exact Blind.bind (Blind.of_alike alike_closeDump) fun _ ↦
    Blind.bind hdisconnect fun _ ↦ blind_modifySession _ fun _ ↦ rfl

/-! ## Sampling -/

theorem blind_write (label : String) (report : Report) :
    Blind (Session.write label report : Run P C Bool) :=
  Blind.bind (blind_withDriver fun _ ↦ Blind.of_alike (alike_writeRow label report)) fun _ ↦
    Blind.pure _

theorem blind_query (operation : String) (event : Event) (size : Nat) :
    Blind (query operation event size : Run P C (Except Status ProfilingInfo)) := by
  unfold query
  refine Blind.bind (blind_note _) fun _ ↦ Blind.bind (blind_askCompute _) fun result ↦ ?_
  cases result with
  | error status =>
    exact Blind.bind (blind_log _) fun _ ↦ Blind.bind (blind_count _ fun _ ↦ rfl) fun _ ↦
      Blind.pure _
  | ok info =>
    dsimp only
    split
    · exact Blind.bind (blind_log _) fun _ ↦ Blind.pure _
    · exact Blind.pure _

/-- A report is summed up and counted whether or not its row could be written. -/
theorem blind_readEvent (operation : String) (event : Event) (active : Active P) :
    Blind (readEvent operation event active : Run P C (Except SampleOutcome Report)) := by
  unfold readEvent
  split
  · exact Blind.bind (blind_log _) fun _ ↦ Blind.pure _
  · refine Blind.get (fun system ↦ Blind.bind (blind_query _ _ _) fun result ↦ ?_) ?_
    · cases result with
      | error status => exact Blind.pure _
      | ok info =>
        have hdecode : Blind (decode active.connection
            (info.buffer (P.reportSize active.connection system.driver)) : Run P C Report) :=
          Blind.bind (blind_note _) fun _ ↦ blind_askDriver _
        refine Blind.bind hdecode fun report ↦ ?_
        split
        · exact Blind.bind (blind_count _ fun _ ↦ rfl) fun _ ↦ Blind.pure _
        · exact Blind.bind (Blind.of_alike (alike_writeRow operation report)) fun _ ↦ Blind.pure _
    · intro first second halike
      rw [halike.driver]

theorem blind_sampleEvent (operation : String) (event : Event) :
    Blind (sampleEvent operation event : Run P C SampleOutcome) := by
  unfold sampleEvent
  refine Blind.bind (blind_withDriver (blind_readEvent operation event)) fun result ↦ ?_
  split
  · exact Blind.pure _
  · exact Blind.pure _
  · exact Blind.bind (blind_modifySession _ fun _ ↦ rfl) fun _ ↦
      Blind.bind (blind_count _ fun _ ↦ rfl) fun _ ↦ Blind.pure _

theorem blind_takeReports (connection : P.Connection) :
    Blind (takeReports connection : Run P C Nat) := by
  have hrows : ∀ (information : List Value) (reports : List Report),
      Keeps Alike (writeReports information reports : Run P C Unit) := by
    intro information reports
    induction reports with
    | nil => exact Keeps.pure _
    | cons report reports ih => exact Keeps.bind (alike_writeRow _ _) fun _ ↦ ih
  unfold takeReports
  exact Blind.bind (blind_askDriver _) fun reports ↦
    Blind.bind (blind_askDriver _) fun values ↦ Blind.bind (blind_log _) fun _ ↦
    Blind.bind (Blind.of_alike (hrows values reports)) fun _ ↦ Blind.bind (blind_note _) fun _ ↦
    Blind.bind (blind_askDriver _) fun _ ↦ Blind.pure _

/-- The induction is on the fuel, which both runs have the same of. -/
theorem blind_drainLoop (connection : P.Connection) (fuel : Nat) :
    Blind (drainLoop connection fuel : Run P C Nat) := by
  induction fuel with
  | zero => exact Blind.pure _
  | succ fuel ih =>
    unfold drainLoop
    refine Blind.bind (blind_note _) fun _ ↦ Blind.bind (blind_askDriver _) fun found ↦ ?_
    split
    · exact Blind.bind (blind_takeReports connection) fun _ ↦ Blind.bind ih fun _ ↦ Blind.pure _
    · exact Blind.pure _

theorem blind_drainStream : Blind (drainStream : Run P C Nat) := by
  have hdrain : ∀ active : Active P, Blind (drainActive active : Run P C Nat) := by
    intro active
    unfold drainActive
    split
    · exact Blind.bind (blind_log _) fun _ ↦ Blind.pure _
    · refine Blind.get (fun system ↦ Blind.bind (blind_drainLoop _ _) fun drained ↦ ?_) ?_
      · dsimp only
        split
        · exact Blind.bind (blind_count _ fun _ ↦ rfl) fun _ ↦ Blind.pure _
        · exact Blind.pure _
      · intro first second halike
        rw [halike.driver]
  exact Blind.bind (blind_withDriver hdrain) fun _ ↦ Blind.pure _

end Session

/-! ## Queues -/

namespace Queue

open GpuCounters.System GpuCounters.Run

theorem blind_resolve (platform : Platform) :
    Blind (resolve platform : Run P C (Option C.EntryPoint)) := by
  unfold resolve
  refine Blind.get (fun system ↦ ?_) fun first second halike ↦ ?_
  · split
    · exact Blind.pure _
    · refine Blind.bind (blind_note _) fun _ ↦ Blind.bind (blind_askCompute _) fun found ↦
        Blind.bind ?_ fun _ ↦ Blind.pure _
      intro first second halike
      exact ⟨rfl, halike.change
        (fun system ↦ { system with entryPoints := system.entryPoints ++ [(platform, found)] })
        (fun system ↦ { system with entryPoints := system.entryPoints ++ [(platform, found)] })
        fun _ ↦ rfl⟩
  · rw [halike.entryPoints]

theorem blind_activateLive : Blind (activateLive : Run P C (Except Error UInt32)) := by
  have hactivate : ∀ active : Active P,
      Blind (activate active : Run P C (Except Error UInt32)) := by
    intro active
    unfold activate
    refine Blind.bind (blind_note _) fun _ ↦ Blind.bind (blind_askDriver _) fun result ↦ ?_
    cases result with
    | error cause => exact Blind.pure _
    | ok _ =>
      refine Blind.get (fun _ ↦ Blind.pure _) fun first second halike ↦ ?_
      rw [halike.driver]
  unfold activateLive
  refine Blind.bind (blind_withDriver hactivate) fun result ↦ ?_
  dsimp only
  cases result.getD (.error .uninitialized) with
  | error cause => exact Blind.bind (blind_log _) fun _ ↦ Blind.pure _
  | ok _ => exact Blind.bind (Blind.pure _) fun _ ↦ Blind.pure _

theorem blind_call (entry : C.EntryPoint) (context : Context) (device : Device) (bits : Bits)
    (configuration : UInt32) :
    Blind (call entry context device bits configuration :
      Run P C (Except Error CounterQueue)) := by
  unfold call
  refine Blind.bind (blind_log _) fun _ ↦ Blind.bind (blind_askCompute _) fun result ↦
    Blind.bind (blind_note _) fun _ ↦ ?_
  cases result <;> exact Blind.bind (blind_log _) fun _ ↦ Blind.pure _

theorem blind_createOn (platform : Platform) (context : Context) (device : Device) (bits : Bits) :
    Blind (createOn platform context device bits : Run P C (Except Error CounterQueue)) := by
  unfold createOn
  refine Blind.bind (blind_resolve platform) fun point? ↦ ?_
  cases point? with
  | none => exact Blind.bind (blind_log _) fun _ ↦ Blind.pure _
  | some entry =>
    refine Blind.bind blind_activateLive fun result ↦ ?_
    cases result with
    | error cause => exact Blind.pure _
    | ok configuration => exact blind_call entry context device bits configuration

theorem blind_create (context : Context) (device : Device) (bits : Bits) :
    Blind (create context device bits : Run P C (Except Error CounterQueue)) := by
  have hplatform : Blind (platformOf device : Run P C (Except Status Platform)) :=
    Blind.bind (blind_note _) fun _ ↦ blind_askCompute _
  have hcount : ∀ result, Blind (do
      Run.count fun counts ↦ countOutcome counts result
      return result : Run P C (Except Error CounterQueue)) := by
    intro result
    refine Blind.bind (blind_count _ fun counts ↦ ?_) fun _ ↦ Blind.pure _
    unfold countOutcome
    split <;> rfl
  unfold create
  refine Blind.bind hplatform fun result ↦ ?_
  cases result with
  | error status => exact Blind.bind (Blind.pure _) fun _ ↦ hcount _
  | ok platform =>
    exact Blind.bind (blind_createOn platform context device bits) fun result ↦ hcount result

theorem blind_createWithProperties (context : Context) (device : Device)
    (properties : Option (List UInt64)) :
    Blind (createWithProperties context device properties :
      Run P C (Except Error CounterQueue)) := by
  unfold createWithProperties
  cases bitsOf properties with
  | error refusal =>
    exact Blind.bind (blind_log _) fun _ ↦ Blind.bind (blind_count _ fun _ ↦ rfl) fun _ ↦
      Blind.pure _
  | ok bits => exact blind_create context device bits

end Queue

/-! ## Engines -/

namespace Engine

open GpuCounters.System GpuCounters.Run

theorem blind_prepareQueue (settings : Settings) :
    Blind (prepareQueue settings : Run P C Unit) := by
  unfold prepareQueue
  refine Blind.bind (Session.blind_ensureInitialized settings.request) fun result ↦ ?_
  cases result with
  | ok _ => exact Blind.pure _
  | error cause => exact blind_log _

theorem blind_completeWork (settings : Settings) (operation : String) (event : Event) :
    Blind (completeWork settings operation event : Run P C Unit) := by
  unfold completeWork
  cases settings.sampling with
  | event => exact Blind.bind (Session.blind_sampleEvent operation event) fun _ ↦ Blind.pure _
  | time => exact Blind.bind Session.blind_drainStream fun _ ↦ Blind.pure _

theorem blind_report? (settings : Settings) :
    Blind (report? settings : Run P C (Option String)) :=
  Blind.session (fun _ ↦ Blind.pure _) fun _ ↦ rfl

theorem blind_finalDrain : Blind (finalDrain : Run P C Unit) := by
  unfold finalDrain
  refine Blind.get (fun system ↦ ?_) fun first second halike ↦ ?_
  · split
    · exact Blind.bind Session.blind_drainStream fun _ ↦ blind_log _
    · exact Blind.pure _
  · have hmode : first.mode? = second.mode? :=
      congrArg (Option.map fun active : Active P ↦ active.mode) halike.active
    rw [hmode]

/-- The path of the dump is only there to be logged. -/
theorem blind_shutdown (settings : Settings) :
    Blind (shutdown settings : Run P C (Option String)) := by
  have hsaid : ∀ system : System P C,
      Alike (Session.close (finalDrain system).2).2 (shutdown settings system).2 := by
    intro system
    unfold shutdown
    rw [bind_apply, bind_apply, get_apply, bind_apply]
    dsimp only
    cases (finalDrain system).2.dumpPath? with
    | none => exact refl_of Alike _
    | some path => exact alike_take_of_dump _ rfl
  intro first second halike
  have hdrained := (blind_finalDrain first second halike).2
  have hclosed := (Session.blind_close _ _ hdrained).2
  have hafter : Alike (shutdown settings first).2 (shutdown settings second).2 := by
    calc (shutdown settings first).2.withoutDumps
      _ = (Session.close (finalDrain first).2).2.withoutDumps := (hsaid first).symm
      _ = (Session.close (finalDrain second).2).2.withoutDumps := hclosed
      _ = (shutdown settings second).2.withoutDumps := hsaid second
  refine ⟨?_, hafter⟩
  rw [(shutdown_spec settings first).2, (shutdown_spec settings second).2, hafter.aggregator]

end Engine

/-! ## Hosts -/

namespace Host

open GpuCounters.System GpuCounters.Run

theorem blind_askSession (op : Session.Op P C) : Blind (askSession op) := by
  cases op with
  | start request =>
    exact Blind.bind (Session.blind_ensureInitialized request) fun _ ↦ Blind.pure _
  | write label report => exact Blind.bind (Session.blind_write label report) fun _ ↦ Blind.pure _
  | sample operation event =>
    exact Blind.bind (Session.blind_sampleEvent operation event) fun _ ↦ Blind.pure _
  | drain => exact Blind.bind Session.blind_drainStream fun _ ↦ Blind.pure _
  | close => exact Blind.bind Session.blind_close fun _ ↦ Blind.pure _
  | outside driver compute =>
    refine Blind.bind (fun first second halike ↦ ⟨rfl, ?_⟩) fun _ ↦ Blind.pure _
    exact halike.change
      (fun system ↦
        { system with driver := driver system.driver, compute := compute system.compute })
      (fun system ↦
        { system with driver := driver system.driver, compute := compute system.compute })
      fun _ ↦ rfl

theorem blind_askEngine (settings : Settings) (op : Engine.Op P C) :
    Blind (askEngine settings op) := by
  have hprepare := Engine.blind_prepareQueue (P := P) (C := C) settings
  cases op with
  | start =>
    exact Blind.bind (Session.blind_ensureInitialized settings.request) fun _ ↦ Blind.pure _
  | createQueue context device bits =>
    exact Blind.bind (Blind.bind hprepare fun _ ↦ Queue.blind_create context device bits) fun _ ↦
      Blind.pure _
  | createQueueWithProperties context device properties =>
    exact Blind.bind
      (Blind.bind hprepare fun _ ↦ Queue.blind_createWithProperties context device properties)
      fun _ ↦ Blind.pure _
  | sample operation event => exact blind_askSession (.sample operation event)
  | completeWork operation event =>
    exact Blind.bind (Engine.blind_completeWork settings operation event) fun _ ↦ Blind.pure _
  | drain => exact blind_askSession .drain
  | report => exact Blind.bind (Engine.blind_report? settings) fun _ ↦ Blind.pure _
  | shutdown => exact Blind.bind (Engine.blind_shutdown settings) fun _ ↦ Blind.pure _
  | outside driver compute => exact blind_askSession (.outside driver compute)

/-- No operation sees dumps. -/
theorem blind_ask (settings : Settings) (op : Op P C) : Blind (op.ask settings) := by
  cases op with
  | session op => exact blind_askSession op
  | createQueue context device bits =>
    exact Blind.bind (Queue.blind_create context device bits) fun _ ↦ Blind.pure _
  | createQueueWithProperties context device properties =>
    exact Blind.bind (Queue.blind_createWithProperties context device properties) fun _ ↦
      Blind.pure _
  | engine op => exact blind_askEngine settings op

/-- What is seen of a run: the answer of each operation, and the system behind it apart from its
disk and dumps. Before each operation something may happen to the disk. -/
def trace (settings : Settings) : List ((Disk → Disk) × Op P C) → System P C →
    List (Answer × System P C)
  | [], _ => []
  | (change, op) :: steps, system =>
    let done := op.ask settings { system with disk := change system.disk }
    (done.1, done.2.withoutDumps) :: trace settings steps done.2

/-- Two runs of the same operations that start out alike cannot be told apart, whatever happens to
their disks before and between the operations. The induction is on the steps of one of them. -/
theorem trace_eq_of_alike (settings : Settings) (steps others : List ((Disk → Disk) × Op P C))
    (hops : steps.map Prod.snd = others.map Prod.snd) {system other : System P C}
    (halike : system.withoutDumps = other.withoutDumps) :
    trace settings steps system = trace settings others other := by
  induction steps generalizing others system other with
  | nil =>
    obtain rfl := List.map_eq_nil_iff.1 hops.symm
    rfl
  | cons step steps ih =>
    cases others with
    | nil => simp at hops
    | cons another others =>
      obtain ⟨change, op⟩ := step
      obtain ⟨changed, same⟩ := another
      obtain ⟨hop, hrest⟩ := List.cons.inj hops
      obtain rfl : op = same := hop
      have hchanged : Alike { system with disk := change system.disk }
          { other with disk := changed other.disk } := halike
      obtain ⟨hanswer, hafter⟩ := blind_ask settings op _ _ hchanged
      have hrun := ih others hrest hafter
      unfold Alike at hafter
      rw [trace, trace, hanswer, hafter, hrun]

/-- Two lives of kernels, with a dump root that is a directory. -/
def kernelSteps :
    List ((Disk → Disk) × Op (Driver.scripted (some Engine.kernelScript)) Compute.simulated) :=
  Engine.twoKernels.map fun op ↦ (id, .engine op)

/-- The same system, but its dump root is a plain file. -/
def rootless : System (Driver.scripted (some Engine.kernelScript)) Compute.simulated :=
  { Session.scripted Engine.kernelScript with
    disk := ⟨[(["tmp"], .target (.file 0))], #[.empty], []⟩ }

/-- One run writes three rows and the other none, and nothing else tells them apart. -/
theorem trace_eq_of_alike_rootless :
    (Session.scripted Engine.kernelScript).withoutDumps = rootless.withoutDumps ∧
      (runAll {} (kernelSteps.map Prod.snd)
        (Session.scripted Engine.kernelScript)).telemetry.dumpRows = 3 ∧
      (runAll {} (kernelSteps.map Prod.snd) rootless).telemetry.dumpRows = 0 ∧
      trace {} kernelSteps (Session.scripted Engine.kernelScript) =
        trace {} kernelSteps rootless := by
  have halike : (Session.scripted Engine.kernelScript).withoutDumps = rootless.withoutDumps := rfl
  have hrows : (runAll {} (kernelSteps.map Prod.snd)
      (Session.scripted Engine.kernelScript)).telemetry.dumpRows = 3 := by decide +kernel
  have hnone : (runAll {} (kernelSteps.map Prod.snd) rootless).telemetry.dumpRows = 0 := by
    decide +kernel
  exact ⟨halike, hrows, hnone, trace_eq_of_alike {} kernelSteps kernelSteps rfl halike⟩

end Host

end GpuCounters
