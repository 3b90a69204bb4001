import GpuCounters.Proofs.Engine.Steps
import GpuCounters.Proofs.Session.Lifecycle
import GpuCounters.Proofs.Session.Talk

/-!
# Rejected properties

A property list that no bit field expresses creates no queue, and the compute API does not hear of
it. The session is another matter: an engine makes its session live before it looks at the list, so
that a rejection leaves everything as it was exactly if the session was live before.
-/

namespace GpuCounters

open Storage

variable {P : Driver.Provider} {C : Compute}

namespace System

/-- Whether neither the compute API nor the counts have changed. -/
structure Detached (before after : System P C) : Prop where
  compute : after.compute = before.compute
  telemetry : after.telemetry = before.telemetry

instance : IsPreorder (System P C) Detached where
  refl _ := ⟨rfl, rfl⟩
  trans _ _ _ h hlast :=
    ⟨hlast.compute.trans h.compute, hlast.telemetry.trans h.telemetry⟩

end System

namespace Session

open GpuCounters.System GpuCounters.Run

/-! ## The life of a session -/

theorem talk_detached : Talk (Detached (P := P) (C := C)) where
  log _ _ := ⟨rfl, rfl⟩
  note _ _ _ := ⟨rfl, rfl⟩
  askDriver ask system := by
    obtain ⟨log, calls, h⟩ := askDriver_apply ask system
    rw [h]
    exact ⟨rfl, rfl⟩
  session _ _ _ _ := ⟨rfl, rfl⟩

theorem detached_openDump (mode : Mode) (metricSet : String) (connection : P.Connection) :
    Keeps Detached (openDump mode metricSet connection : Run P C Unit) := by
  intro before
  rcases hstart : Dump.Writer.start (before.dumpFile metricSet) (layout mode connection)
    (accessOf before.session (before.dumpFile metricSet)) before.disk with ⟨result, later⟩
  rw [openDump_eq hstart]
  cases result with
  | error cause => exact ⟨rfl, rfl⟩
  | ok writer =>
    dsimp only
    split <;> exact ⟨rfl, rfl⟩

/-- To make a session live is between the session, the driver and the disk. -/
theorem detached_ensureInitialized (request : Driver.Request) :
    Keeps Detached (ensureInitialized request : Run P C (Except Error Unit)) :=
  talk_detached.ensureInitialized fun mode metricSet connection system _ ↦
    detached_openDump mode metricSet connection system

section Attempts

variable {request : Driver.Request} {system : System P C}

theorem ensureInitialized_of_live (hlive : system.session.active?.isSome) :
    (ensureInitialized request system).2 = system := by
  obtain ⟨active, hactive⟩ := Option.isSome_iff_exists.1 hlive
  rw [ensureInitialized, bind_apply, session_apply, hactive]
  dsimp only
  split <;> rfl

/-- A session that is not live asks the driver to connect, whatever comes of it. -/
theorem ensureInitialized_of_idle (hidle : system.session.active? = none) :
    ∃ more, Asks (.connect request :: more) system (ensureInitialized request system).2 := by
  rw [ensureInitialized, bind_apply, session_apply, hidle]
  dsimp only
  cases hconnect : (P.connect request system.driver).result with
  | error cause =>
    obtain ⟨log, calls, hstart⟩ := start_of_error (C := C) hconnect
    rw [hstart]
    exact ⟨[], Array.toList_push⟩
  | ok connection => exact ⟨_, (start_of_ok hconnect).2⟩

end Attempts

end Session

/-! ## Rejections -/

namespace Engine

open GpuCounters.System GpuCounters.Run Session

variable {settings : Settings} {properties : Option (List UInt64)} {refusal : Queue.Refusal}

/-- What a rejection comes to: the session was made live, and then the rejection is logged and
counted. -/
theorem createQueueWithProperties_of_rejected (settings : Settings) (context : Context)
    (device : Device) (h : Queue.bitsOf properties = .error refusal) (system : System P C) :
    ∃ log, createQueueWithProperties settings context device properties system =
      (.error (.rejected refusal),
        { (Engine.start settings system).2 with
          log
          telemetry :=
            { (Engine.start settings system).2.telemetry with
              rejected := (Engine.start settings system).2.telemetry.rejected + 1 } }) := by
  rw [createQueueWithProperties, bind_apply, prepareQueue, bind_apply, Queue.createWithProperties,
    h]
  cases (Engine.start settings system).1 with
  | ok _ => exact ⟨_, rfl⟩
  | error cause => exact ⟨_, rfl⟩

/-- A list that is refused creates no queue: the compute API stays as it is, nothing is asked but
about connections, and the rejection is counted once. Everything else stays as it was exactly if
the session was live; one that was not asks the driver to connect. -/
theorem rejection_spec (settings : Settings) (context : Context) (device : Device)
    (h : Queue.bitsOf properties = .error refusal) (system : System P C) :
    let done := createQueueWithProperties settings context device properties system
    done.1 = .error (.rejected refusal) ∧
      done.2.compute = system.compute ∧
      done.2.telemetry = { system.telemetry with rejected := system.telemetry.rejected + 1 } ∧
      Spares (fun concern ↦ concern ≠ .life) system done.2 ∧
      ((∃ log telemetry, done.2 = { system with log, telemetry }) ↔
        system.session.active?.isSome) ∧
      (system.session.active? = none →
        ∃ more, Asks (.connect settings.request :: more) system done.2) := by
  obtain ⟨log, hdone⟩ := createQueueWithProperties_of_rejected settings context device h system
  rw [hdone]
  have hstart : Detached system (Engine.start settings system).2 :=
    detached_ensureInitialized settings.request system
  have hspares : Spares (fun concern ↦ concern ≠ .life) system (Engine.start settings system).2 :=
    spares_ensureInitialized rfl settings.request system
  have hasks : system.session.active? = none →
      ∃ more, Asks (.connect settings.request :: more) system (Engine.start settings system).2 :=
    ensureInitialized_of_idle
  refine ⟨rfl, hstart.compute, ?_, ⟨hspares.asked, hspares.entryPoints⟩, ⟨?_, ?_⟩, hasks⟩
  · dsimp only
    rw [hstart.telemetry]
  · rintro ⟨said, telemetry, hsame⟩
    rw [Option.isSome_iff_ne_none]
    intro hidle
    -- The request to connect is one activity too many.
    obtain ⟨more, hmore⟩ := hasks hidle
    have hactivities := congrArg System.activities hsame
    dsimp only at hactivities
    rw [Asks, hactivities] at hmore
    have hlength := congrArg List.length hmore
    rw [List.length_append, List.length_cons] at hlength
    omega
  · intro hlive
    have hkept : (Engine.start settings system).2 = system := ensureInitialized_of_live hlive
    rw [hkept]
    exact ⟨_, _, rfl⟩

def strangeKey : Option (List UInt64) := some [0x1234, 1, 0]

/-- An engine that has done nothing yet starts its session for a list that it refuses, and a live
one refuses it without a trace but a count. -/
theorem rejection_spec_strangeKey :
    Queue.bitsOf strangeKey = .error (.unrecognizedKey 0x1234) ∧
      (∃ more, Asks (.connect ({} : Settings).request :: more) (scripted kernelScript)
        (createQueueWithProperties {} ⟨1⟩ ⟨2⟩ strangeKey (scripted kernelScript)).2) ∧
      (Engine.start {} (scripted kernelScript)).2.mode? = some .event ∧
      (createQueueWithProperties {} ⟨1⟩ ⟨2⟩ strangeKey
        (Engine.start {} (scripted kernelScript)).2).1 =
          .error (.rejected (.unrecognizedKey 0x1234)) ∧
      ∃ log telemetry, (createQueueWithProperties {} ⟨1⟩ ⟨2⟩ strangeKey
        (Engine.start {} (scripted kernelScript)).2).2 =
          { (Engine.start {} (scripted kernelScript)).2 with log, telemetry } := by
  have hrefused : Queue.bitsOf strangeKey = .error (.unrecognizedKey 0x1234) := by decide +kernel
  have hidle : (scripted kernelScript).session.active? = none := rfl
  have hmode : (Engine.start {} (scripted kernelScript)).2.mode? = some .event := by
    decide +kernel
  have hlive : (Engine.start {} (scripted kernelScript)).2.session.active?.isSome := by
    decide +kernel
  obtain ⟨-, -, -, -, -, hconnects⟩ :=
    rejection_spec {} ⟨1⟩ ⟨2⟩ hrefused (scripted kernelScript)
  obtain ⟨hanswer, -, -, -, hsame, -⟩ :=
    rejection_spec {} ⟨1⟩ ⟨2⟩ hrefused (Engine.start {} (scripted kernelScript)).2
  exact ⟨hrefused, hconnects hidle, hmode, hanswer, hsame.2 hlive⟩

/-- What a list that is refused has done to an engine that had done nothing before: it is connected,
and its dump is open. -/
theorem strangeKey_starts :
    Queue.bitsOf strangeKey = .error (.unrecognizedKey 0x1234) ∧
      (createQueueWithProperties {} ⟨1⟩ ⟨2⟩ strangeKey
        (scripted kernelScript)).2.activities.toList.filterMap Activity.request? =
          [({} : Settings).request] ∧
      (createQueueWithProperties {} ⟨1⟩ ⟨2⟩ strangeKey (scripted kernelScript)).2.dumpPath? =
        some ((scripted kernelScript).dumpFile "ComputeBasic") ∧
      ¬ ∃ log telemetry, (createQueueWithProperties {} ⟨1⟩ ⟨2⟩ strangeKey
        (scripted kernelScript)).2 = { scripted kernelScript with log, telemetry } := by
  have hmode : (createQueueWithProperties {} ⟨1⟩ ⟨2⟩ strangeKey
      (scripted kernelScript)).2.mode? = some .event := by
    decide +kernel
  refine ⟨by decide +kernel, by decide +kernel, by decide +kernel, ?_⟩
  rintro ⟨log, telemetry, hsame⟩
  rw [hsame] at hmode
  cases hmode

end Engine

end GpuCounters
