import GpuCounters.Driver.ScriptedLibrary
import GpuCounters.Proofs.Host.Operations
import GpuCounters.Proofs.Session.Handles

/-!
# Handles of hosts

Whatever a host asks for, and whatever the library answers, every handle that the library hands out
is closed once: where its driver could not be described, or where the session is closed or given up.
Nothing is asked about a handle from then on. As many handles were opened as were closed, and one
more while the session is live.
-/

namespace GpuCounters

open Driver GpuCounters.Run GpuCounters.System

variable {refusal : String → Option String} {library : Library} {C : Compute}
  {held? : Option Nat}

/-! ## Engines -/

namespace Engine

theorem turns_prepareQueue (settings : Settings) :
    Turns true false (prepareQueue settings : Run (loaded refusal library.tracked) C Unit)
      (prepareQueue settings) := by
  refine Turns.bind (Session.turns_ensureInitialized settings.request) fun result _ ↦ ?_
  cases result with
  | ok _ => exact Quiet.pure _
  | error cause => exact Quiet.log _

theorem quiet_completeWork (settings : Settings) (operation : String) (event : Event) :
    Quiet held?
      (completeWork settings operation event : Run (loaded refusal library.tracked) C Unit)
      (completeWork settings operation event) := by
  unfold completeWork
  cases settings.sampling with
  | event => exact Quiet.bind (Session.quiet_sampleEvent operation event) fun _ ↦ Quiet.pure _
  | time => exact Quiet.bind Session.quiet_drainStream fun _ ↦ Quiet.pure _

theorem quiet_report? (settings : Settings) :
    Quiet held?
      (report? settings : Run (loaded refusal library.tracked) C (Option String))
      (report? settings) :=
  Quiet.bind_session fun _ ↦ Quiet.pure _

theorem quiet_finalDrain :
    Quiet held? (finalDrain : Run (loaded refusal library.tracked) C Unit) finalDrain := by
  unfold finalDrain
  refine Quiet.bind_get fun system _ ↦ ?_
  have hmode : system.untracked.mode? = system.mode? := by
    rw [mode?, session_untracked, Session.active?_untracked, Option.map_map]
    rfl
  rw [hmode]
  split
  · exact Quiet.bind Session.quiet_drainStream fun _ ↦ Quiet.log _
  · exact Quiet.pure _

theorem turns_shutdown (settings : Settings) :
    Turns false true
      (shutdown settings : Run (loaded refusal library.tracked) C (Option String))
      (shutdown settings) := by
  unfold shutdown
  refine Quiet.bind_turns (fun _ ↦ quiet_finalDrain) fun _ ↦ Turns.bind_get fun system ↦
    Turns.bind Session.turns_close fun _ _ ↦ ?_
  have hdump : system.untracked.dumpPath? = system.dumpPath? := rfl
  rw [hdump]
  cases system.dumpPath? with
  | none => exact quiet_report? settings
  | some path => exact Quiet.bind (Quiet.log _) fun _ ↦ quiet_report? settings

end Engine

/-! ## Hosts -/

/-- An operation of a session, over the tracked library. -/
def Session.Op.tracked : Session.Op (loaded refusal library) C →
    Session.Op (loaded refusal library.tracked) C
  | .start request => .start request
  | .write label report => .write label report
  | .sample operation event => .sample operation event
  | .drain => .drain
  | .close => .close
  | .outside driver compute =>
    .outside (fun state : Tracked library ↦ { state with inner := driver state.inner }) compute

/-- An operation of an engine, over the tracked library. -/
def Engine.Op.tracked : Engine.Op (loaded refusal library) C →
    Engine.Op (loaded refusal library.tracked) C
  | .start => .start
  | .createQueue context device bits => .createQueue context device bits
  | .createQueueWithProperties context device properties =>
    .createQueueWithProperties context device properties
  | .sample operation event => .sample operation event
  | .completeWork operation event => .completeWork operation event
  | .drain => .drain
  | .report => .report
  | .shutdown => .shutdown
  | .outside driver compute =>
    .outside (fun state : Tracked library ↦ { state with inner := driver state.inner }) compute

namespace Host

/-- An operation of a host, over the tracked library. -/
def Op.tracked : Op (loaded refusal library) C → Op (loaded refusal library.tracked) C
  | .session op => .session op.tracked
  | .createQueue context device bits => .createQueue context device bits
  | .createQueueWithProperties context device properties =>
    .createQueueWithProperties context device properties
  | .engine op => .engine op.tracked

def Op.closes {P : Driver.Provider} : Op P C → Bool
  | .session .close => true
  | .engine .shutdown => true
  | _ => false

/-- What others do to the library is no use of a handle. -/
theorem quiet_outside (driver : library.State → library.State) (compute : C.State → C.State) :
    Quiet held?
      (askSession (Session.Op.outside driver compute).tracked :
        Run (loaded refusal library.tracked) C Answer)
      (askSession (.outside (P := loaded refusal library) driver compute)) :=
  fun _ _ ↦ ⟨rfl, rfl, [], (List.append_nil _).symm, by simp⟩

theorem turns_askSession (settings : Settings) (op : Session.Op (loaded refusal library) C) :
    Turns ((Op.session op).request? settings).isSome (Op.session op).closes (askSession op.tracked)
      (askSession op) := by
  cases op with
  | start request =>
    exact Turns.bind (Session.turns_ensureInitialized request) fun _ _ ↦ Quiet.pure _
  | write label report =>
    exact Quiet.turns fun _ ↦ Quiet.bind (Session.quiet_write label report) fun _ ↦ Quiet.pure _
  | sample operation event =>
    exact Quiet.turns fun _ ↦
      Quiet.bind (Session.quiet_sampleEvent operation event) fun _ ↦ Quiet.pure _
  | drain => exact Quiet.turns fun _ ↦ Quiet.bind Session.quiet_drainStream fun _ ↦ Quiet.pure _
  | close => exact Turns.bind Session.turns_close fun _ _ ↦ Quiet.pure _
  | outside driver compute => exact Quiet.turns fun _ ↦ quiet_outside driver compute

theorem turns_ask (settings : Settings) (op : Op (loaded refusal library) C) :
    Turns (op.request? settings).isSome op.closes (op.tracked.ask settings)
      (op.ask settings) := by
  cases op with
  | session op => exact turns_askSession settings op
  | createQueue context device bits =>
    exact Quiet.turns fun _ ↦
      Quiet.bind (Queue.quiet_create context device bits) fun _ ↦ Quiet.pure _
  | createQueueWithProperties context device properties =>
    exact Quiet.turns fun _ ↦
      Quiet.bind (Queue.quiet_createWithProperties context device properties) fun _ ↦ Quiet.pure _
  | engine op =>
    cases op with
    | start =>
      exact Turns.bind (Session.turns_ensureInitialized settings.request) fun _ _ ↦ Quiet.pure _
    | createQueue context device bits =>
      exact Turns.bind (Turns.bind (Engine.turns_prepareQueue settings) fun _ _ ↦
        Queue.quiet_create context device bits) fun _ _ ↦ Quiet.pure _
    | createQueueWithProperties context device properties =>
      exact Turns.bind (Turns.bind (Engine.turns_prepareQueue settings) fun _ _ ↦
        Queue.quiet_createWithProperties context device properties) fun _ _ ↦ Quiet.pure _
    | sample operation event => exact turns_askSession settings (.sample operation event)
    | completeWork operation event =>
      exact Quiet.turns fun _ ↦
        Quiet.bind (Engine.quiet_completeWork settings operation event) fun _ ↦ Quiet.pure _
    | drain => exact turns_askSession settings .drain
    | report =>
      exact Quiet.turns fun _ ↦ Quiet.bind (Engine.quiet_report? settings) fun _ ↦ Quiet.pure _
    | shutdown => exact Turns.bind (Engine.turns_shutdown settings) fun _ _ ↦ Quiet.pure _
    | outside driver compute => exact Quiet.turns fun _ ↦ quiet_outside driver compute

/-! ## Runs -/

/-- The system after some operations over the tracked library. -/
def runTracked (stale : Answers library.State) (settings : Settings)
    (ops : List (Op (loaded refusal library) C)) (system : System (loaded refusal library) C) :
    System (loaded refusal library.tracked) C :=
  runAll settings (ops.map Op.tracked) (system.tracked stale)

theorem runTracked_append_singleton (stale : Answers library.State) (settings : Settings)
    (ops : List (Op (loaded refusal library) C)) (op : Op (loaded refusal library) C)
    (system : System (loaded refusal library) C) :
    runTracked stale settings (ops ++ [op]) system =
      (op.tracked.ask settings (runTracked stale settings ops system)).2 := by
  rw [runTracked, List.map_append, runAll_append]
  rfl

/-- The induction is on the operations: each of them is an episode. -/
theorem settled_runAll (settings : Settings) (ops : List (Op (loaded refusal library) C))
    {system : System (loaded refusal library.tracked) C} (h : Settled system) :
    (runAll settings (ops.map Op.tracked) system).untracked =
        runAll settings ops system.untracked ∧
      Settled (runAll settings (ops.map Op.tracked) system) := by
  induction ops generalizing system with
  | nil => exact ⟨rfl, h⟩
  | cons op ops ih =>
    obtain ⟨hplain, hpasses⟩ := turns_ask settings op system h
    obtain ⟨hrest, hsettled⟩ := ih (h.of_passes hpasses)
    rw [List.map_cons, runAll_cons, runAll_cons, hplain]
    exact ⟨hrest, hsettled⟩

/-- Tracking a library changes nothing, whatever it answers about handles that are not open; and
every handle that it hands out is closed once, in an operation that fails to connect or that closes
the session, or in giving the session up. -/
theorem closesOnce_runAll {system : System (loaded refusal library) C}
    (hactive : system.session.active? = none) (settings : Settings)
    (ops : List (Op (loaded refusal library) C)) (stale : Answers library.State) :
    (runTracked stale settings ops system).untracked = runAll settings ops system ∧
      ClosesOnce (runTracked stale settings ops system).uses
        (runAll settings ops system).handle? ∧
      (∀ earlier op later, ops = earlier ++ op :: later →
        (op.tracked.ask settings (runTracked stale settings earlier system)).1 =
            (op.ask settings (runAll settings earlier system)).1 ∧
          Passes (op.request? settings).isSome op.closes
            (runTracked stale settings earlier system)
            (runTracked stale settings (earlier ++ [op]) system)) ∧
      (Session.drop (runTracked stale settings ops system)).2.untracked =
        (Session.drop (runAll settings ops system)).2 ∧
      ClosesOnce (Session.drop (runTracked stale settings ops system)).2.uses none := by
  have hfresh : Settled (system.tracked stale) := by
    have hhandle : (system.tracked stale).handle? = none := by
      rw [← handle?_untracked, untracked_tracked, handle?, hactive, Option.map_none]
    rw [Settled, hhandle]
    exact .done none
  have hrun (ops : List (Op (loaded refusal library) C)) :
      (runTracked stale settings ops system).untracked = runAll settings ops system ∧
        Settled (runTracked stale settings ops system) := by
    have hsettled := settled_runAll settings ops hfresh
    rwa [untracked_tracked] at hsettled
  obtain ⟨hplain, hsettled⟩ := hrun ops
  obtain ⟨hdropped, hpasses⟩ := Session.turns_drop _ hsettled
  rw [hplain] at hdropped
  refine ⟨hplain, ?_, fun earlier op later _ ↦ ?_, congrArg Prod.snd hdropped.symm, ?_⟩
  · rw [← hplain, handle?_untracked]
    exact hsettled.closesOnce
  · obtain ⟨hbefore, hearlier⟩ := hrun earlier
    obtain ⟨hanswer, hpasses⟩ := turns_ask settings op _ hearlier
    rw [hbefore] at hanswer
    refine ⟨congrArg Prod.fst hanswer.symm, ?_⟩
    rw [runTracked_append_singleton]
    exact hpasses
  · have hgiven := hsettled.of_passes hpasses
    obtain ⟨uses, -, hepisode⟩ := hpasses
    rw [Settled, hepisode.eq_none_of_gives] at hgiven
    exact hgiven.closesOnce

/-- A library that refuses to open a driver once, and cannot describe the first that it opens. -/
def hesitantLibrary : Library :=
  { scriptedLibrary { opening := [4] } with
    metrics := fun handle _ ↦
      [(if handle = 0 then 1 else .success, ⟨some "Time".toUTF8, some "ns".toUTF8⟩)] }

/-- A system that has done nothing yet, with the driver of that library. -/
def hesitantSystem : System (loaded (fun _ ↦ none) hesitantLibrary) Compute.simulated where
  driver := ({} : LibraryScript.State)
  compute := ({ events := [(⟨1⟩, .ok .empty)] } : Compute.Simulated.State)
  disk := .empty
  dumpRoot := ⟨"/tmp"⟩
  process := "1"

/-- Two failures, a life of a stream, and a life of events that is not closed. -/
def hesitantOps : List (Op (loaded (fun _ ↦ none) hesitantLibrary) Compute.simulated) :=
  [.session .drain, .engine .start, .engine .start,
    .session (.start (Session.scriptedRequest .time "B" false)), .engine .drain,
    .engine .shutdown, .session .close, .engine .start, .session (.sample "copy" ⟨1⟩)]

def noAnswers : Answers hesitantLibrary.State where
  metrics _ _ := []
  information _ _ := []
  configuration _ _ := 0
  reportSize _ _ := 0
  saved _ _ := []
  informationValues _ _ := (.success, [])

/-- The first handle is closed at once, the second when the engine is shut down, and the third is
that of the live driver. -/
theorem closesOnce_runAll_hesitant :
    hesitantSystem.session.active? = none ∧
      (runTracked noAnswers {} hesitantOps hesitantSystem).uses =
        [.opened 0, .closed 0, .opened 1, .used 1, .used 1, .used 1, .closed 1, .opened 2,
          .used 2] ∧
      ClosesOnce (runTracked noAnswers {} hesitantOps hesitantSystem).uses (some 2) ∧
      ClosesOnce (Session.drop (runTracked noAnswers {} hesitantOps hesitantSystem)).2.uses
        none := by
  have hactive : hesitantSystem.session.active? = none := rfl
  have huses : (runTracked noAnswers {} hesitantOps hesitantSystem).uses =
      [.opened 0, .closed 0, .opened 1, .used 1, .used 1, .used 1, .closed 1, .opened 2,
        .used 2] := by
    decide +kernel
  have hlive : (runAll {} hesitantOps hesitantSystem).handle? = some 2 := by decide +kernel
  obtain ⟨-, honce, -, -, hdropped⟩ := closesOnce_runAll hactive {} hesitantOps noAnswers
  rw [hlive] at honce
  exact ⟨hactive, huses, honce, hdropped⟩

end Host

end GpuCounters
