import GpuCounters.Proofs.Driver.Tracking
import GpuCounters.Proofs.Session.Activities

/-!
# Sessions over tracked libraries

Work over a tracked library is compared with the same work over the library itself. While a handle
is held, work that neither connects nor disconnects comes to the same in both, and all it does with
handles is to use that one. Since a tracked library answers whatever it likes about handles that are
not open, such work does not ask about them either.
-/

namespace GpuCounters

open Driver Storage GpuCounters.Run

variable {refusal : String → Option String} {library : Library} {C : Compute} {α β : Type}

/-! ## Tracking and not tracking -/

section Through

variable {P Q : Provider}

/-- A session of another provider with what a change makes of the live driver. -/
def Session.through (change : Active P → Active Q) (session : Session P) : Session Q where
  active? := session.active?.map change
  dump? := session.dump?
  missingReported := session.missingReported
  connectFailures := session.connectFailures
  openedDumps := session.openedDumps
  uninitializedReported := session.uninitializedReported
  aggregator := session.aggregator

/-- A system of another provider, which is in a given state. -/
def System.through (driver : Q.State) (change : Active P → Active Q) (system : System P C) :
    System Q C where
  driver
  compute := system.compute
  disk := system.disk
  dumpRoot := system.dumpRoot
  process := system.process
  session := system.session.through change
  entryPoints := system.entryPoints
  telemetry := system.telemetry
  log := system.log
  calls := system.calls
  activities := system.activities

end Through

def Active.tracked (active : Active (loaded refusal library)) :
    Active (loaded refusal library.tracked) :=
  ⟨active.mode, active.metricSet, active.connection⟩

/-- A system, with the library tracked from now on. -/
def System.tracked (stale : Answers library.State) (system : System (loaded refusal library) C) :
    System (loaded refusal library.tracked) C :=
  system.through ({ inner := system.driver, stale } : Tracked library) Active.tracked

def Active.handle (active : Active (loaded refusal library)) : Nat :=
  Loaded.Connection.handle active.connection

def Active.untracked (active : Active (loaded refusal library.tracked)) :
    Active (loaded refusal library) :=
  ⟨active.mode, active.metricSet, active.connection⟩

theorem Active.mode_untracked (active : Active (loaded refusal library.tracked)) :
    active.untracked.mode = active.mode := rfl

def Session.untracked (session : Session (loaded refusal library.tracked)) :
    Session (loaded refusal library) :=
  session.through Active.untracked

namespace Session

theorem active?_untracked (session : Session (loaded refusal library.tracked)) :
    session.untracked.active? = session.active?.map Active.untracked := rfl

theorem dump?_untracked (session : Session (loaded refusal library.tracked)) :
    session.untracked.dump? = session.dump? := rfl

end Session

namespace System

def untracked (system : System (loaded refusal library.tracked) C) :
    System (loaded refusal library) C :=
  system.through (Tracked.inner system.driver) Active.untracked

theorem untracked_tracked (stale : Answers library.State)
    (system : System (loaded refusal library) C) : (system.tracked stale).untracked = system := by
  have hsession : (system.session.through Active.tracked).untracked = system.session := by
    obtain ⟨active?⟩ := system.session
    cases active? <;> rfl
  exact congrArg (fun session ↦ { system with session }) hsession

theorem session_untracked (system : System (loaded refusal library.tracked) C) :
    system.untracked.session = system.session.untracked := rfl

def uses (system : System (loaded refusal library.tracked) C) : List HandleUse :=
  Tracked.uses system.driver

def handle? (system : System (loaded refusal library) C) : Option Nat :=
  system.session.active?.map Active.handle

theorem handle?_untracked (system : System (loaded refusal library.tracked) C) :
    system.untracked.handle? = system.handle? := by
  rw [handle?, session_untracked, Session.active?_untracked, Option.map_map]
  rfl

/-- Whether a handle is held, and no other one is the live driver's. -/
structure HoldsOnly (held? : Option Nat) (system : System (loaded refusal library.tracked) C) :
    Prop where
  follows : Follows none system.uses held?
  live : ∀ active ∈ system.session.active?, held? = some active.handle

/-- Whether a system is one with the same live driver in which all that was done with handles is to
use the one that is held. -/
structure Calls (held? : Option Nat) (before after : System (loaded refusal library.tracked) C) :
    Prop where
  active : after.session.active? = before.session.active?
  uses : ∃ calls, after.uses = before.uses ++ calls ∧ ∀ use ∈ calls, use.IsCall held?

instance (held? : Option Nat) :
    IsPreorder (System (loaded refusal library.tracked) C) (Calls held?) where
  refl _ := ⟨rfl, [], (List.append_nil _).symm, by simp⟩
  trans _ _ _ h hlast := by
    obtain ⟨calls, huses, hcalls⟩ := h.uses
    obtain ⟨more, hmore, hall⟩ := hlast.uses
    refine ⟨hlast.active.trans h.active, calls ++ more, ?_, ?_⟩
    · rw [hmore, huses, List.append_assoc]
    · exact List.forall_mem_append.2 ⟨hcalls, hall⟩

/-- Work that leaves the driver alone does nothing with handles. -/
theorem Calls.of_sameDriver {held? : Option Nat}
    {before after : System (loaded refusal library.tracked) C}
    (hactive : after.session.active? = before.session.active?) (hdriver : SameDriver before after) :
    Calls held? before after :=
  ⟨hactive, [], by rw [System.uses, hdriver, List.append_nil, System.uses], by simp⟩

theorem HoldsOnly.of_calls {held? : Option Nat}
    {before after : System (loaded refusal library.tracked) C} (h : HoldsOnly held? before)
    (hcalls : Calls held? before after) : HoldsOnly held? after where
  follows := by
    obtain ⟨calls, huses, hall⟩ := hcalls.uses
    rw [huses]
    exact h.follows.trans (.of_calls hall)
  live active hactive := h.live active (hcalls.active ▸ hactive)

theorem untracked_take (system : System (loaded refusal library.tracked) C) (note : Note) :
    system.untracked.take note = (system.take note).untracked := by
  cases note <;> rfl

theorem untracked_foldl_take (system : System (loaded refusal library.tracked) C)
    (notes : List Note) :
    notes.foldl System.take system.untracked = (notes.foldl System.take system).untracked := by
  induction notes generalizing system with
  | nil => rfl
  | cons note notes ih => rw [List.foldl_cons, untracked_take, ih, List.foldl_cons]

end System

open GpuCounters.System GpuCounters.Session

/-! ## The same work with and without tracking -/

section Mirrors

variable {pre : System (loaded refusal library.tracked) C → Prop}
  {post : α → System (loaded refusal library.tracked) C →
    System (loaded refusal library.tracked) C → Prop}
  {run : Run (loaded refusal library.tracked) C α} {plain : Run (loaded refusal library) C α}

/-- Whether work over a tracked library comes to the same as work over the library itself, from all
systems that something is true of, and to systems that are related to these. -/
def Mirrors (pre : System (loaded refusal library.tracked) C → Prop)
    (post : α → System (loaded refusal library.tracked) C →
      System (loaded refusal library.tracked) C → Prop)
    (run : Run (loaded refusal library.tracked) C α) (plain : Run (loaded refusal library) C α) :
    Prop :=
  ∀ system, pre system →
    plain system.untracked = ((run system).1, (run system).2.untracked) ∧
      post (run system).1 system (run system).2

theorem Mirrors.mono {stronger : System (loaded refusal library.tracked) C → Prop}
    {weaker : α → System (loaded refusal library.tracked) C →
      System (loaded refusal library.tracked) C → Prop} (h : Mirrors pre post run plain)
    (hpre : ∀ system, stronger system → pre system)
    (hpost : ∀ value before after, stronger before → post value before after →
      weaker value before after) : Mirrors stronger weaker run plain := by
  intro system hsystem
  obtain ⟨hplain, hafter⟩ := h system (hpre system hsystem)
  exact ⟨hplain, hpost _ _ _ hsystem hafter⟩

theorem Mirrors.bind {next : α → Run (loaded refusal library.tracked) C β}
    {plainNext : α → Run (loaded refusal library) C β}
    {last : β → System (loaded refusal library.tracked) C →
      System (loaded refusal library.tracked) C → Prop} (h : Mirrors pre post run plain)
    (hnext : ∀ before, pre before → ∀ value, Mirrors (post value before)
      (fun result _ after ↦ last result before after) (next value) (plainNext value)) :
    Mirrors pre last (run >>= next) (plain >>= plainNext) := by
  intro system hsystem
  obtain ⟨hplain, hbetween⟩ := h system hsystem
  obtain ⟨hplainNext, hlast⟩ := hnext system hsystem (run system).1 (run system).2 hbetween
  rw [bind_apply, bind_apply, hplain]
  exact ⟨hplainNext, hlast⟩

/-- What is asked of a tracked library is noted like what is asked of the library itself. -/
theorem askDriver_untracked {ask : Tracked library → Exchange (Tracked library) α}
    {plainAsk : library.State → Exchange library.State α}
    {system : System (loaded refusal library.tracked) C}
    (h : plainAsk (Tracked.inner system.driver) = (ask system.driver).untracked) :
    askDriver (P := loaded refusal library) plainAsk system.untracked =
      ((askDriver (P := loaded refusal library.tracked) ask system).1,
        (askDriver (P := loaded refusal library.tracked) ask system).2.untracked) := by
  let asked : System (loaded refusal library.tracked) C :=
    { system with driver := (ask system.driver).state }
  have hanswer : askDriver (P := loaded refusal library) plainAsk system.untracked =
      ((ask system.driver).result, (ask system.driver).notes.foldl System.take asked.untracked) :=
    congrArg (fun exchange : Exchange library.State α ↦
      (exchange.result, exchange.notes.foldl System.take
        { system.untracked with driver := exchange.state })) h
  exact hanswer.trans (congrArg _ (untracked_foldl_take asked _))

end Mirrors

/-! ## Quiet work -/

/-- Whether work over a tracked library comes to the same as work over the library itself, and does
nothing with handles but to use the one that is held. -/
def Quiet (held? : Option Nat) (run : Run (loaded refusal library.tracked) C α)
    (plain : Run (loaded refusal library) C α) : Prop :=
  Mirrors (HoldsOnly held?) (fun _ ↦ Calls held?) run plain

namespace Quiet

variable {held? : Option Nat} {run : Run (loaded refusal library.tracked) C α}
  {plain : Run (loaded refusal library) C α}

theorem pure (value : α) :
    Quiet held? (pure value : Run (loaded refusal library.tracked) C α)
      (pure value : Run (loaded refusal library) C α) :=
  fun system _ ↦ ⟨rfl, refl_of (Calls held?) system⟩

theorem bind {next : α → Run (loaded refusal library.tracked) C β}
    {plainNext : α → Run (loaded refusal library) C β} (h : Quiet held? run plain)
    (hnext : ∀ value, Quiet held? (next value) (plainNext value)) :
    Quiet held? (run >>= next) (plain >>= plainNext) :=
  Mirrors.bind h fun _ hholds value ↦ (hnext value).mono (fun _ hcalls ↦ hholds.of_calls hcalls)
    fun _ _ _ hcalls hmore ↦ trans_of (Calls held?) hcalls hmore

theorem bind_get {next : System (loaded refusal library.tracked) C →
      Run (loaded refusal library.tracked) C α}
    {plainNext : System (loaded refusal library) C → Run (loaded refusal library) C α}
    (hnext : ∀ system, HoldsOnly held? system →
      Quiet held? (next system) (plainNext system.untracked)) :
    Quiet held? (get >>= next) (get >>= plainNext) :=
  fun system hholds ↦ hnext system hholds system hholds

theorem bind_session {next : Session (loaded refusal library.tracked) →
      Run (loaded refusal library.tracked) C α}
    {plainNext : Session (loaded refusal library) → Run (loaded refusal library) C α}
    (hnext : ∀ session, Quiet held? (next session) (plainNext session.untracked)) :
    Quiet held? (session >>= next) (session >>= plainNext) :=
  fun system hholds ↦ hnext system.session system hholds

theorem log (event : Log.Event) :
    Quiet held? (log event : Run (loaded refusal library.tracked) C Unit) (log event) :=
  fun _ _ ↦ ⟨rfl, .of_sameDriver rfl rfl⟩

theorem note (activity : Activity) :
    Quiet held? (note activity : Run (loaded refusal library.tracked) C Unit) (note activity) :=
  fun _ _ ↦ ⟨rfl, .of_sameDriver rfl rfl⟩

theorem count (change : Telemetry → Telemetry) :
    Quiet held? (count change : Run (loaded refusal library.tracked) C Unit) (count change) :=
  fun _ _ ↦ ⟨rfl, .of_sameDriver rfl rfl⟩

theorem onDisk (act : Disk → α × Disk) :
    Quiet held? (onDisk act : Run (loaded refusal library.tracked) C α) (onDisk act) :=
  fun _ _ ↦ ⟨rfl, .of_sameDriver rfl rfl⟩

theorem modifySession {change : Session (loaded refusal library.tracked) →
      Session (loaded refusal library.tracked)}
    {plainChange : Session (loaded refusal library) → Session (loaded refusal library)}
    (hactive : ∀ session, (change session).active? = session.active?)
    (hplain : ∀ session, plainChange session.untracked = (change session).untracked) :
    Quiet held? (modifySession change : Run (loaded refusal library.tracked) C Unit)
      (modifySession plainChange) := by
  intro system _
  refine ⟨?_, .of_sameDriver (hactive system.session) rfl⟩
  rw [modifySession_apply, modifySession_apply]
  exact congrArg (fun session ↦ ((), { system.untracked with session })) (hplain system.session)

theorem askCompute (ask : C.State → Exchange C.State α) :
    Quiet held? (askCompute ask : Run (loaded refusal library.tracked) C α) (askCompute ask) := by
  intro system _
  let asked := { system with compute := (ask system.compute).state }
  exact ⟨congrArg ((ask system.compute).result, ·) (untracked_foldl_take asked _),
    .of_sameDriver (idle_askCompute ask system).active (sameDriver_askCompute ask system)⟩

theorem askDriver {ask : Tracked library → Exchange (Tracked library) α}
    {plainAsk : library.State → Exchange library.State α} (h : QuietAsk held? ask plainAsk) :
    Quiet held?
      (askDriver (P := loaded refusal library.tracked) ask :
        Run (loaded refusal library.tracked) C α)
      (askDriver (P := loaded refusal library) plainAsk) := by
  intro system hholds
  obtain ⟨hplain, calls, huses, hcalls⟩ := h system.driver hholds.follows
  have hdriver := driver_askDriver (P := loaded refusal library.tracked) ask system
  exact ⟨askDriver_untracked hplain,
    (idle_askDriver (P := loaded refusal library.tracked) ask system).active,
    calls, (congrArg Tracked.uses hdriver).trans huses, hcalls⟩

/-- Without a driver the same is said of it, and with one its handle is the one that is held. -/
theorem withDriver {act : Active (loaded refusal library.tracked) →
      Run (loaded refusal library.tracked) C α}
    {plainAct : Active (loaded refusal library) → Run (loaded refusal library) C α}
    (h : ∀ active, held? = some active.handle →
      Quiet held? (act active) (plainAct active.untracked)) :
    Quiet held? (Run.withDriver act) (Run.withDriver plainAct) := by
  intro system hholds
  cases hactive : system.session.active? with
  | some active =>
    have hplain : system.untracked.session.active? = some active.untracked := by
      rw [session_untracked, active?_untracked, hactive, Option.map_some]
    obtain ⟨hanswer, hcalls⟩ := h active (hholds.live active hactive) system hholds
    rw [withDriver_of_active hactive, withDriver_of_active hplain, hanswer]
    exact ⟨rfl, hcalls⟩
  | none =>
    have hplain : system.untracked.session.active? = none := by
      rw [session_untracked, active?_untracked, hactive, Option.map_none]
    have hsaid : Quiet held?
        (do
          Run.modifySession fun session ↦ { session with uninitializedReported := true }
          Run.log .uninitialized
          return none : Run (loaded refusal library.tracked) C (Option α))
        (do
          Run.modifySession fun session ↦ { session with uninitializedReported := true }
          Run.log .uninitialized
          return none) :=
      bind (modifySession (fun _ ↦ rfl) fun _ ↦ rfl) fun _ ↦ bind (log _) fun _ ↦ pure _
    unfold Run.withDriver
    rw [bind_apply, bind_apply, session_apply, session_apply, hactive, hplain]
    dsimp only
    have hflag : system.untracked.session.uninitializedReported =
        system.session.uninitializedReported := rfl
    rw [hflag]
    split
    · exact hsaid system hholds
    · exact pure none system hholds

end Quiet

variable {held? : Option Nat}

/-! ## Work of a session -/

namespace Session

theorem quiet_writeRow (label : String) (report : Report) :
    Quiet held? (writeRow label report : Run (loaded refusal library.tracked) C Unit)
      (writeRow label report) := by
  unfold writeRow
  refine Quiet.bind_session fun session ↦ ?_
  have hflag : session.untracked.missingReported = session.missingReported := rfl
  rw [dump?_untracked, hflag]
  cases session.dump? with
  | some writer =>
    refine Quiet.bind (Quiet.onDisk _) fun written ↦
      Quiet.bind (Quiet.modifySession (fun _ ↦ rfl) fun _ ↦ rfl) fun _ ↦ ?_
    cases written.1 with
    | ok _ => exact Quiet.count _
    | error cause => exact Quiet.log _
  | none =>
    dsimp only
    split
    · exact Quiet.bind (Quiet.log _) fun _ ↦ Quiet.modifySession (fun _ ↦ rfl) fun _ ↦ rfl
    · exact Quiet.pure _

theorem quiet_openDump (mode : Mode) (metricSet : String) (connection : Loaded.Connection) :
    Quiet held?
      (openDump (P := loaded refusal library.tracked) (C := C) mode metricSet connection)
      (openDump (P := loaded refusal library) mode metricSet connection) := by
  unfold openDump
  refine Quiet.bind_get fun system _ ↦ Quiet.bind (Quiet.onDisk _) fun opened ↦ ?_
  have hreopen : hasOpened system.untracked.session (system.untracked.dumpFile metricSet) =
      hasOpened system.session (system.dumpFile metricSet) := rfl
  rw [hreopen]
  cases opened with
  | ok writer =>
    dsimp only
    split
    · exact Quiet.bind (Quiet.log _) fun _ ↦ Quiet.modifySession (fun _ ↦ rfl) fun _ ↦ rfl
    · exact Quiet.bind (Quiet.log _) fun _ ↦ Quiet.modifySession (fun _ ↦ rfl) fun _ ↦ rfl
  | error cause => exact Quiet.log _

theorem quiet_closeDump :
    Quiet held? (closeDump : Run (loaded refusal library.tracked) C Unit) closeDump := by
  unfold closeDump
  refine Quiet.bind_session fun session ↦ ?_
  rw [dump?_untracked]
  cases session.dump? with
  | none => exact Quiet.pure _
  | some writer =>
    refine Quiet.bind (Quiet.modifySession (fun _ ↦ rfl) fun _ ↦ rfl) fun _ ↦
      Quiet.bind (Quiet.onDisk _) fun flushed ↦ ?_
    dsimp only
    cases flushed.1 with
    | ok _ => exact Quiet.bind (Quiet.log _) fun _ ↦ Quiet.onDisk _
    | error cause => exact Quiet.bind (Quiet.log _) fun _ ↦ Quiet.onDisk _

theorem quiet_query (operation : String) (event : Event) (size : Nat) :
    Quiet held?
      (query operation event size :
        Run (loaded refusal library.tracked) C (Except Status ProfilingInfo))
      (query operation event size) := by
  unfold query
  refine Quiet.bind (Quiet.note _) fun _ ↦ Quiet.bind (Quiet.askCompute _) fun result ↦ ?_
  cases result with
  | error status =>
    exact Quiet.bind (Quiet.log _) fun _ ↦ Quiet.bind (Quiet.count _) fun _ ↦ Quiet.pure _
  | ok info =>
    dsimp only
    split
    · exact Quiet.bind (Quiet.log _) fun _ ↦ Quiet.pure _
    · exact Quiet.pure _

theorem quiet_write (label : String) (report : Report) :
    Quiet held? (write label report : Run (loaded refusal library.tracked) C Bool)
      (write label report) :=
  Quiet.bind (Quiet.withDriver fun _ _ ↦ quiet_writeRow label report) fun _ ↦ Quiet.pure _

section Connection

variable {connection : Loaded.Connection} (hheld : held? = some connection.handle)

include hheld

theorem quiet_openStream :
    Quiet held? (openStream (P := loaded refusal library.tracked) (C := C) connection)
      (openStream (P := loaded refusal library) connection) := by
  unfold openStream
  refine Quiet.bind (Quiet.note _) fun _ ↦
    Quiet.bind (Quiet.askDriver (quietAsk_openStream hheld _)) fun result ↦ ?_
  cases result with
  | ok _ => exact Quiet.pure _
  | error cause => exact Quiet.log _

theorem quiet_takeReports :
    Quiet held? (takeReports (P := loaded refusal library.tracked) (C := C) connection)
      (takeReports (P := loaded refusal library) connection) := by
  have hwrite (information : List Value) (reports : List Report) :
      Quiet held? (writeReports information reports : Run (loaded refusal library.tracked) C Unit)
        (writeReports information reports) := by
    induction reports with
    | nil => exact Quiet.pure _
    | cons report reports ih => exact Quiet.bind (quiet_writeRow _ _) fun _ ↦ ih
  unfold takeReports
  exact Quiet.bind (Quiet.askDriver (quietAsk_savedReports hheld)) fun reports ↦
    Quiet.bind (Quiet.askDriver (quietAsk_informationValues hheld)) fun information ↦
    Quiet.bind (Quiet.log _) fun _ ↦ Quiet.bind (hwrite information reports) fun _ ↦
    Quiet.bind (Quiet.note _) fun _ ↦
    Quiet.bind (Quiet.askDriver (quietAsk_reset hheld)) fun _ ↦ Quiet.pure _

/-- The induction is on the fuel: each round polls, and takes what was found. -/
theorem quiet_drainLoop (fuel : Nat) :
    Quiet held? (drainLoop (P := loaded refusal library.tracked) (C := C) connection fuel)
      (drainLoop (P := loaded refusal library) connection fuel) := by
  induction fuel with
  | zero => exact Quiet.pure _
  | succ fuel ih =>
    refine Quiet.bind (Quiet.note .poll) fun _ ↦
      Quiet.bind (Quiet.askDriver (quietAsk_poll hheld)) fun found ↦ ?_
    split
    · exact Quiet.bind (quiet_takeReports hheld) fun _ ↦ Quiet.bind ih fun _ ↦ Quiet.pure _
    · exact Quiet.pure _

theorem quiet_decode (bytes : ByteArray) :
    Quiet held? (decode (P := loaded refusal library.tracked) (C := C) connection bytes)
      (decode (P := loaded refusal library) connection bytes) :=
  Quiet.bind (Quiet.note _) fun _ ↦ Quiet.askDriver (quietAsk_decode hheld bytes)

end Connection

section Active

variable {active : Active (loaded refusal library.tracked)} (hheld : held? = some active.handle)

include hheld

theorem quiet_drainActive :
    Quiet held? (drainActive active : Run (loaded refusal library.tracked) C Nat)
      (drainActive active.untracked) := by
  unfold drainActive
  rw [Active.mode_untracked]
  split
  · exact Quiet.bind (Quiet.log _) fun _ ↦ Quiet.pure _
  · refine Quiet.bind_get fun system _ ↦ Quiet.bind (quiet_drainLoop hheld _) fun drained ↦ ?_
    dsimp only
    split
    · exact Quiet.bind (Quiet.count _) fun _ ↦ Quiet.pure _
    · exact Quiet.pure _

theorem quiet_readEvent (operation : String) (event : Event) :
    Quiet held?
      (readEvent operation event active :
        Run (loaded refusal library.tracked) C (Except SampleOutcome Report))
      (readEvent operation event active.untracked) := by
  unfold readEvent
  rw [Active.mode_untracked]
  split
  · exact Quiet.bind (Quiet.log _) fun _ ↦ Quiet.pure _
  · refine Quiet.bind_get fun system hholds ↦ ?_
    have hsize : (loaded refusal library).reportSize active.untracked.connection
        system.untracked.driver =
        (loaded refusal library.tracked).reportSize active.connection system.driver :=
      reportSize_tracked hheld hholds.follows
    rw [hsize]
    refine Quiet.bind (quiet_query operation event _) fun queried ↦ ?_
    cases queried with
    | error status => exact Quiet.pure _
    | ok info =>
      refine Quiet.bind (quiet_decode hheld _) fun report ↦ ?_
      split
      · exact Quiet.bind (Quiet.count _) fun _ ↦ Quiet.pure _
      · exact Quiet.bind (quiet_writeRow operation report) fun _ ↦ Quiet.pure _

end Active

theorem quiet_drainStream :
    Quiet held? (drainStream : Run (loaded refusal library.tracked) C Nat) drainStream :=
  Quiet.bind (Quiet.withDriver fun _ hheld ↦ quiet_drainActive hheld) fun _ ↦ Quiet.pure _

theorem quiet_sampleEvent (operation : String) (event : Event) :
    Quiet held?
      (sampleEvent operation event : Run (loaded refusal library.tracked) C SampleOutcome)
      (sampleEvent operation event) := by
  unfold sampleEvent
  refine Quiet.bind (Quiet.withDriver fun _ hheld ↦ quiet_readEvent hheld operation event)
    fun outcome? ↦ ?_
  match outcome? with
  | none => exact Quiet.pure _
  | some (.error outcome) => exact Quiet.pure _
  | some (.ok report) =>
    exact Quiet.bind (Quiet.modifySession (fun _ ↦ rfl) fun _ ↦ rfl) fun _ ↦
      Quiet.bind (Quiet.count _) fun _ ↦ Quiet.pure _

end Session

/-! ## Creating queues -/

namespace Queue

theorem quiet_resolve (platform : Platform) :
    Quiet held?
      (resolve platform : Run (loaded refusal library.tracked) C (Option C.EntryPoint))
      (resolve platform) := by
  unfold resolve
  refine Quiet.bind_get fun system _ ↦ ?_
  have hknown : system.untracked.entryPoints = system.entryPoints := rfl
  rw [hknown]
  cases system.entryPoints.lookup platform with
  | some found => exact Quiet.pure _
  | none =>
    exact Quiet.bind (Quiet.note _) fun _ ↦ Quiet.bind (Quiet.askCompute _) fun found ↦
      Quiet.bind (fun _ _ ↦ ⟨rfl, .of_sameDriver rfl rfl⟩) fun _ ↦ Quiet.pure _

theorem quiet_activate {active : Active (loaded refusal library.tracked)}
    (hheld : held? = some active.handle) :
    Quiet held?
      (activate active : Run (loaded refusal library.tracked) C (Except Error UInt32))
      (activate active.untracked) := by
  unfold activate
  refine Quiet.bind (Quiet.note _) fun _ ↦
    Quiet.bind (Quiet.askDriver (quietAsk_activate hheld)) fun result ↦ ?_
  cases result with
  | error cause => exact Quiet.pure _
  | ok _ =>
    refine Quiet.bind_get fun system hholds ↦ ?_
    have hconfiguration : (loaded refusal library).configuration active.untracked.connection
        system.untracked.driver =
        (loaded refusal library.tracked).configuration active.connection system.driver :=
      configuration_tracked hheld hholds.follows
    rw [hconfiguration]
    exact Quiet.pure _

theorem quiet_activateLive :
    Quiet held?
      (activateLive : Run (loaded refusal library.tracked) C (Except Error UInt32))
      activateLive := by
  unfold activateLive
  refine Quiet.bind (Quiet.withDriver fun _ hheld ↦ quiet_activate hheld) fun result? ↦ ?_
  dsimp only
  cases result?.getD (.error .uninitialized) with
  | error cause => exact Quiet.bind (Quiet.log _) fun _ ↦ Quiet.pure _
  | ok configuration => exact Quiet.pure _

theorem quiet_call (entry : C.EntryPoint) (context : Context) (device : Device) (bits : Bits)
    (configuration : UInt32) :
    Quiet held?
      (call entry context device bits configuration :
        Run (loaded refusal library.tracked) C (Except Error CounterQueue))
      (call entry context device bits configuration) := by
  unfold call
  refine Quiet.bind (Quiet.log _) fun _ ↦ Quiet.bind (Quiet.askCompute _) fun result ↦
    Quiet.bind (Quiet.note _) fun _ ↦ ?_
  cases result with
  | ok handle => exact Quiet.bind (Quiet.log _) fun _ ↦ Quiet.pure _
  | error status => exact Quiet.bind (Quiet.log _) fun _ ↦ Quiet.pure _

theorem quiet_create (context : Context) (device : Device) (bits : Bits) :
    Quiet held?
      (create context device bits :
        Run (loaded refusal library.tracked) C (Except Error CounterQueue))
      (create context device bits) := by
  have hplatform : Quiet held?
      (platformOf device : Run (loaded refusal library.tracked) C (Except Status Platform))
      (platformOf device) :=
    Quiet.bind (Quiet.note _) fun _ ↦ Quiet.askCompute _
  have hon (platform : Platform) : Quiet held?
      (createOn platform context device bits :
        Run (loaded refusal library.tracked) C (Except Error CounterQueue))
      (createOn platform context device bits) := by
    unfold createOn
    refine Quiet.bind (quiet_resolve platform) fun entry? ↦ ?_
    cases entry? with
    | none => exact Quiet.bind (Quiet.log _) fun _ ↦ Quiet.pure _
    | some entry =>
      refine Quiet.bind quiet_activateLive fun activated ↦ ?_
      cases activated with
      | error cause => exact Quiet.pure _
      | ok configuration => exact quiet_call entry context device bits configuration
  unfold create
  refine Quiet.bind hplatform fun platform ↦ ?_
  cases platform with
  | error status =>
    exact Quiet.bind (Quiet.pure _) fun _ ↦ Quiet.bind (Quiet.count _) fun _ ↦ Quiet.pure _
  | ok platform =>
    exact Quiet.bind (hon platform) fun _ ↦ Quiet.bind (Quiet.count _) fun _ ↦ Quiet.pure _

theorem quiet_createWithProperties (context : Context) (device : Device)
    (properties : Option (List UInt64)) :
    Quiet held?
      (createWithProperties context device properties :
        Run (loaded refusal library.tracked) C (Except Error CounterQueue))
      (createWithProperties context device properties) := by
  unfold createWithProperties
  cases bitsOf properties with
  | error refusal =>
    exact Quiet.bind (Quiet.log _) fun _ ↦ Quiet.bind (Quiet.count _) fun _ ↦ Quiet.pure _
  | ok bits => exact quiet_create context device bits

end Queue

end GpuCounters
