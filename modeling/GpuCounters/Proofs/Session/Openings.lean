import GpuCounters.Proofs.Session.Lifecycle
import GpuCounters.Proofs.Session.Talk

/-!
# Openings of dumps

A session opens a dump only when it is made live and has none open, and gives one up only when it is
closed. So the dumps that were opened in a run are those that were given up and the one that is
open, in that order.
-/

namespace GpuCounters

variable {P : Driver.Provider} {C : Compute}

namespace Session

open GpuCounters.System GpuCounters.Run

/-! ## Open dumps -/

/-- Whether an open dump stays open as it is. -/
def Holds (before after : System P C) : Prop :=
  ∀ writer, before.session.dump? = some writer → after.session.dump? = some writer

instance : IsPreorder (System P C) Holds where
  refl _ _ h := h
  trans _ _ _ h hlast writer hwriter := hlast writer (h writer hwriter)

theorem talk_holds : Talk (Holds (P := P) (C := C)) where
  log _ _ _ h := h
  note _ _ _ _ h := h
  askDriver ask system writer h := by
    obtain ⟨log, calls, hask⟩ := askDriver_apply ask system
    rw [hask]
    exact h
  session change hdump _ system writer h := (hdump system.session).trans h

/-! ## Dumps that are opened -/

/-- The dump that is opened if a session is made live: one where none is open, unless it fails. -/
def openedDump? (request : Driver.Request) (system : System P C) : Option Dump.Writer :=
  match system.session.active?, system.session.dump?, (P.connect request system.driver).result with
  | none, none, .ok connection =>
    (Dump.Writer.start (system.dumpFile request.metricSet) (layout request.mode connection)
      (accessOf system.session (system.dumpFile request.metricSet)) system.disk).1.toOption
  | _, _, _ => none

/-- Whether these dumps were given up and those were opened, by their paths: the dumps that were
open or were opened are those that were given up or are open. -/
def Exchanges (closed opened : List Dump.Writer) (before after : System P C) : Prop :=
  before.dumpPath?.toList ++ opened.map (·.path) = closed.map (·.path) ++ after.dumpPath?.toList

section Exchanges

variable {closed opened others more : List Dump.Writer} {first second third : System P C}

theorem Exchanges.trans (h : Exchanges closed opened first second)
    (hmore : Exchanges others more second third) :
    Exchanges (closed ++ others) (opened ++ more) first third := by
  unfold Exchanges at h hmore ⊢
  calc first.dumpPath?.toList ++ (opened ++ more).map (·.path)
    _ = (first.dumpPath?.toList ++ opened.map (·.path)) ++ more.map (·.path) := by
      rw [List.map_append, List.append_assoc]
    _ = closed.map (·.path) ++ (second.dumpPath?.toList ++ more.map (·.path)) := by
      rw [h, List.append_assoc]
    _ = (closed ++ others).map (·.path) ++ third.dumpPath?.toList := by
      rw [hmore, List.map_append, List.append_assoc]

theorem exchanges_of_eq (h : second.dumpPath? = first.dumpPath?) :
    Exchanges [] [] first second := by
  rw [Exchanges, h]
  exact List.append_nil _

/-- What is started is open from then on. -/
theorem dumpPath?_openDump (hdump : first.session.dump? = none) (mode : Mode) (metricSet : String)
    (connection : P.Connection) :
    (openDump mode metricSet connection first).2.dumpPath? =
      (Dump.Writer.start (first.dumpFile metricSet) (layout mode connection)
        (accessOf first.session (first.dumpFile metricSet)) first.disk).1.toOption.map
          (·.path) := by
  rcases hstart : Dump.Writer.start (first.dumpFile metricSet) (layout mode connection)
    (accessOf first.session (first.dumpFile metricSet)) first.disk with ⟨result, later⟩
  rw [openDump_eq hstart]
  cases result with
  | error cause => exact congrArg (Option.map fun writer : Dump.Writer ↦ writer.path) hdump
  | ok writer =>
    dsimp only
    split <;> rfl

/-- A session that connects with no dump open starts one, whatever is said in between. -/
theorem dumpPath?_start (hdump : first.session.dump? = none) {request : Driver.Request}
    {connection : P.Connection}
    (hconnect : (P.connect request first.driver).result = .ok connection) :
    (start request first).2.dumpPath? =
      (Dump.Writer.start (first.dumpFile request.metricSet) (layout request.mode connection)
        (accessOf first.session (first.dumpFile request.metricSet)) first.disk).1.toOption.map
          (·.path) := by
  obtain ⟨streamed, hidle, hopened⟩ := start_of_connected hdump hconnect
  have haccess : accessOf streamed.session (first.dumpFile request.metricSet) =
      accessOf first.session (first.dumpFile request.metricSet) := by
    rw [accessOf, accessOf, hasOpened, hasOpened, hidle.opened]
  have hpath := dumpPath?_openDump (hidle.dump.trans hdump) request.mode request.metricSet
    connection
  rw [dumpFile_eq hidle.toLater, haccess, hidle.disk] at hpath
  obtain ⟨hlive, -⟩ := modifySession_activated request connection
    (openDump request.mode request.metricSet connection streamed).2
  calc (start request first).2.dumpPath?
    _ = (opened request connection streamed).dumpPath? := by rw [hopened]
    _ = (openDump request.mode request.metricSet connection streamed).2.dumpPath? :=
      congrArg (Option.map fun writer : Dump.Writer ↦ writer.path) hlive.dump
    _ = _ := hpath

/-- To make a session live opens at most one dump, and gives none up. -/
theorem exchanges_ensureInitialized (request : Driver.Request) (system : System P C) :
    Exchanges [] (openedDump? request system).toList system
      (ensureInitialized request system).2 := by
  cases hdump : system.session.dump? with
  | some writer =>
    have hheld : Holds system (ensureInitialized request system).2 :=
      talk_holds.ensureInitialized
        (fun _ _ _ before hnone writer h ↦ absurd (hnone.symm.trans h) (by simp)) system
    have hnone : openedDump? request system = none := by
      unfold openedDump?
      rw [hdump]
      split <;> simp_all
    rw [hnone]
    exact exchanges_of_eq (by rw [dumpPath?, hheld writer hdump, dumpPath?, hdump])
  | none =>
    cases hactive : system.session.active? with
    | some active =>
      rw [openedDump?, hactive, ensureInitialized, bind_apply, session_apply, hactive]
      dsimp only
      split <;> exact exchanges_of_eq rfl
    | none =>
      have hstart : ensureInitialized request system = start request system := by
        rw [ensureInitialized, bind_apply, session_apply, hactive]
      rw [hstart, openedDump?, hactive, hdump]
      cases hconnect : (P.connect request system.driver).result with
      | error cause =>
        obtain ⟨log, calls, hfailed⟩ := start_of_error (C := C) hconnect
        rw [hfailed]
        exact exchanges_of_eq rfl
      | ok connection =>
        rw [Exchanges, dumpPath?_start hdump hconnect, dumpPath?, hdump, Option.map_none,
          Option.toList_none, List.map_nil, List.nil_append, List.nil_append, Option.toList_map]

/-- Closing a session gives its dump up. -/
theorem exchanges_close (system : System P C) :
    Exchanges system.session.dump?.toList [] system (Session.close system).2 := by
  obtain ⟨-, hclosed⟩ := close_asks system
  unfold Exchanges
  rw [dumpPath?, dumpPath?, hclosed, Option.toList_map]
  rfl

end Exchanges

end Session

end GpuCounters
