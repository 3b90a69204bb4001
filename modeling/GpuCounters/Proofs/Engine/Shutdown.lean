import GpuCounters.Proofs.Engine.OfflineSummary
import GpuCounters.Proofs.Session.Lifecycle

/-!
# Shutting an engine down

A shutdown drains the stream if there is one, closes the session and says so. Nothing is left to be
done after it: another shutdown changes nothing.
-/

namespace GpuCounters.Engine

open GpuCounters.System GpuCounters.Run Session

variable {P : Driver.Provider} {C : Compute} {settings : Settings} {system : System P C}

/-- Nothing but the log changes in a shutdown once the session is closed. -/
theorem exists_shutdown (settings : Settings) (system : System P C) :
    ∃ log, (Engine.shutdown settings system).2 =
      { (Session.close (Engine.finalDrain system).2).2 with log } := by
  unfold Engine.shutdown
  rw [bind_apply, bind_apply, get_apply, bind_apply]
  dsimp only
  cases (Engine.finalDrain system).2.dumpPath? with
  | none => exact ⟨_, rfl⟩
  | some path => exact ⟨_, rfl⟩

theorem later_shutdown (settings : Settings) :
    Keeps Later (Engine.shutdown settings : Run P C (Option String)) := by
  have hdrain : Keeps Later (Engine.finalDrain : Run P C Unit) := by
    unfold Engine.finalDrain
    refine Keeps.bind Keeps.get fun system ↦ ?_
    split
    · have hdrains : Keeps Later (drainStream : Run P C Nat) :=
        fun system ↦ (drainStream_spec system).2.toLater
      exact Keeps.bind hdrains fun _ ↦ (idle_log _).steady.later
    · exact Keeps.pure _
  intro system
  obtain ⟨hidle, -⟩ := shutdown_spec settings system
  obtain ⟨hclosed, -, -⟩ := close_spec (Engine.finalDrain system).2
  exact trans_of Later (hdrain system) (trans_of Later hclosed.toLater hidle.toLater)

theorem close_of_closed (hactive : system.session.active? = none)
    (hdump : system.session.dump? = none) (hmissing : system.session.missingReported = false) :
    (Session.close system).2 = system := by
  have hclosed : (closeDump system).2 = system := closeDump_of_none hdump
  have hleft : (disconnect system).2 = system := by
    rw [disconnect, bind_apply, session_apply, hactive]
    rfl
  have hsession : { system.session with missingReported := false } = system.session := by
    rw [← hmissing]
  calc (Session.close system).2
    _ = { (disconnect (closeDump system).2).2 with
          session :=
            { (disconnect (closeDump system).2).2.session with missingReported := false } } := rfl
    _ = system := by rw [hclosed, hleft, hsession]

/-- Without a driver there is no stream to drain. -/
theorem finalDrain_of_none (hactive : system.session.active? = none) :
    (Engine.finalDrain system).2 = system := by
  have hmode : system.mode? ≠ some .time := by simp [System.mode?, hactive]
  rw [Engine.finalDrain, bind_apply, get_apply]
  dsimp only
  rw [if_neg hmode]
  rfl

/-- A shutdown of an engine that has nothing open only answers. -/
theorem shutdown_of_closed (hactive : system.session.active? = none)
    (hdump : system.session.dump? = none) (hmissing : system.session.missingReported = false) :
    Engine.shutdown settings system = (settings.summary? system.session.aggregator, system) := by
  have hdrain : (Engine.finalDrain system).2 = system := finalDrain_of_none hactive
  have hpath : system.dumpPath? = none := by
    rw [System.dumpPath?, hdump]
    rfl
  unfold Engine.shutdown
  rw [bind_apply, hdrain, bind_apply, get_apply, bind_apply]
  dsimp only
  rw [hpath, close_of_closed hactive hdump hmissing]
  rfl

/-- A shutdown of an engine that was just shut down changes nothing and answers the same. -/
theorem shutdown_shutdown (settings : Settings) (system : System P C) :
    Engine.shutdown settings (Engine.shutdown settings system).2 =
      Engine.shutdown settings system := by
  obtain ⟨-, hanswer⟩ := shutdown_spec settings system
  obtain ⟨-, hactive, -⟩ := close_spec (Engine.finalDrain system).2
  obtain ⟨-, hdump⟩ := close_asks (Engine.finalDrain system).2
  obtain ⟨log, hlog⟩ := exists_shutdown settings system
  have hsession : (Engine.shutdown settings system).2.session =
      (Session.close (Engine.finalDrain system).2).2.session := by
    rw [hlog]
  calc Engine.shutdown settings (Engine.shutdown settings system).2
    _ = (settings.summary? (Engine.shutdown settings system).2.session.aggregator,
        (Engine.shutdown settings system).2) := by
      apply shutdown_of_closed
      · rw [hsession, hactive]
      · rw [hsession, hdump]
      · rw [hsession]
        rfl
    _ = Engine.shutdown settings system := Prod.ext hanswer.symm rfl

end GpuCounters.Engine
