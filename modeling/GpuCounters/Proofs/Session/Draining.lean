import GpuCounters.Proofs.Session.Activities

/-!
# Draining a stream

A stream is drained round by round, for as long as a poll finds something. The rounds come to an
end for every provider, and what bounds them in advance never cuts them short. The stream of a
scripted driver is left empty, so that draining it again finds nothing.
-/

namespace GpuCounters.Session

variable {P : Driver.Provider} {C : Compute}

section Rounds

open GpuCounters.System GpuCounters.Run

/-! ## Rounds -/

def polled (connection : P.Connection) (system : System P C) : System P C :=
  (askDriver (P.poll connection) (note .poll system).2).2

/-- The system once the reports that a poll has found are written out. -/
def emptied (connection : P.Connection) (system : System P C) : System P C :=
  (takeReports connection (polled connection system)).2

/-- The system with more reports of a stream counted. -/
def counted (reports : Nat) (system : System P C) : System P C :=
  { system with
    telemetry :=
      { system.telemetry with streamReports := system.telemetry.streamReports + reports } }

/-- The rounds of a drain, each with the reports it finds: polls until one finds nothing. -/
inductive Drains (connection : P.Connection) :
    System P C → List (List Report) → System P C → Prop
  /-- The poll finds nothing. -/
  | empty (system : System P C)
      (nothing : (P.poll connection system.driver).result = false) :
      Drains connection system [] (polled connection system)
  /-- What the poll finds is written out, and the stream is polled again. -/
  | round (system after : System P C) (batches : List (List Report))
      (found : (P.poll connection system.driver).result = true)
      (rest : Drains connection (emptied connection system) batches after) :
      Drains connection system
        ((P.savedReports connection (P.poll connection system.driver).state).result :: batches)
        after

variable {connection : P.Connection} {system after : System P C} {batches : List (List Report)}

theorem driver_polled (connection : P.Connection) (system : System P C) :
    (polled connection system).driver = (P.poll connection system.driver).state :=
  driver_askDriver _ _

/-- The state of the driver after a round in which something was found. -/
theorem driver_emptied (connection : P.Connection) (system : System P C) :
    let saved := P.savedReports connection (P.poll connection system.driver).state
    (emptied connection system).driver =
      (P.reset connection (P.informationValues connection saved.state).state).state := by
  obtain ⟨-, hdriver⟩ := takeReports_spec connection (polled connection system)
  rw [driver_polled] at hdriver
  exact hdriver

theorem takeReports_result (connection : P.Connection) (system : System P C) :
    (takeReports connection system).1 =
      (P.savedReports connection system.driver).result.length := by
  unfold takeReports
  rw [bind_apply, bind_apply, bind_apply, bind_apply, bind_apply, bind_apply, pure_apply]
  rfl

/-- One step of the loop polls, and goes on if that has found something. -/
theorem drainLoop_succ (connection : P.Connection) (fuel : Nat) (system : System P C) :
    drainLoop connection (fuel + 1) system =
      if (P.poll connection system.driver).result then
        ((P.savedReports connection (P.poll connection system.driver).state).result.length +
            (drainLoop connection fuel (emptied connection system)).1,
          (drainLoop connection fuel (emptied connection system)).2)
      else (0, polled connection system) := by
  have hanswer : (askDriver (P.poll connection) (note .poll system).2).1 =
      (P.poll connection system.driver).result := rfl
  have htaken := takeReports_result connection (polled connection system)
  rw [driver_polled] at htaken
  rw [drainLoop, bind_apply, bind_apply, hanswer, ← htaken]
  cases (P.poll connection system.driver).result with
  | false => rfl
  | true => rfl

theorem idle_counted (reports : Nat) (system : System P C) :
    Idle system (counted reports system) :=
  ⟨⟨⟨rfl, rfl, List.prefix_refl _⟩, rfl, rfl, rfl⟩, rfl, rfl⟩

/-- The rounds of a drain come to an end, after no more of them than the provider's bound says. The
induction is on that bound. -/
theorem exists_drains (connection : P.Connection) (system : System P C) :
    ∃ batches after, Drains connection system batches after ∧
      batches.length ≤ P.backlog connection system.driver := by
  induction hbound : P.backlog connection system.driver using Nat.strong_induction_on
    generalizing system with
  | _ bound ih =>
    cases hfound : (P.poll connection system.driver).result with
    | false => exact ⟨[], _, .empty system hfound, Nat.zero_le _⟩
    | true =>
      have hless := P.backlog_round connection system.driver hfound
      rw [← driver_emptied (C := C), hbound] at hless
      obtain ⟨batches, after, hrest, hlength⟩ := ih _ hless (emptied connection system) rfl
      exact ⟨_, after, .round system after batches hfound hrest, Nat.succ_le_of_lt
        (Nat.lt_of_le_of_lt hlength hless)⟩

/-- The loop does the rounds of the drain, whatever fuel it has beyond them. -/
theorem Drains.drainLoop (h : Drains connection system batches after) {fuel : Nat}
    (hfuel : batches.length < fuel) :
    Session.drainLoop connection fuel system = (batches.flatten.length, after) := by
  induction h generalizing fuel with
  | empty system nothing =>
    obtain ⟨fuel, rfl⟩ := Nat.exists_eq_succ_of_ne_zero (Nat.ne_zero_of_lt hfuel)
    rw [drainLoop_succ, nothing]
    rfl
  | round system after batches found rest ih =>
    obtain ⟨fuel, rfl⟩ := Nat.exists_eq_succ_of_ne_zero (Nat.ne_zero_of_lt hfuel)
    rw [drainLoop_succ, found, if_pos rfl, ih (Nat.lt_of_succ_lt_succ hfuel)]
    simp

theorem asks_takeReports (connection : P.Connection) (system : System P C) :
    Asks [.reset] system (takeReports connection system).2 := by
  have hbefore : Keeps (Spares fun _ ↦ true) (do
      let reports ← Run.askDriver (P.savedReports connection)
      let values ← Run.askDriver (P.informationValues connection)
      Run.log (.drained reports.length)
      writeReports values reports : Run P C Unit) :=
    Keeps.bind (sameLife_askDriver _).spares fun reports ↦
      Keeps.bind (sameLife_askDriver _).spares fun values ↦
      Keeps.bind (sameLife_log _).spares fun _ ↦ (sameLife_writeReports values reports).spares
  have hwritten := Asks.of_spares (hbefore system)
  exact (hwritten.trans (asks_note .reset _)).then_spares (sameLife_askDriver _ _).toSpares

/-- The activities of a drain: a poll and a reset for each batch, and a last poll. -/
def roundActivities (batches : List (List Report)) : List Activity :=
  (batches.flatMap fun _ ↦ [.poll, .reset]) ++ [.poll]

/-- What is asked in the rounds of a drain. -/
theorem Drains.asks (h : Drains connection system batches after) :
    Asks (roundActivities batches) system after := by
  have hpoll : ∀ before : System P C, Asks [.poll] before (polled connection before) :=
    fun before ↦ (asks_note .poll before).then_spares (sameLife_askDriver _ _).toSpares
  induction h with
  | empty system nothing => exact hpoll system
  | round system after batches found rest ih =>
    have hround := (hpoll system).trans (asks_takeReports connection (polled connection system))
    exact hround.trans ih

/-- Whatever a time-based session is drained of, the rounds of the drain are all that happens, and
their reports are counted. -/
theorem drainStream_of_drains {active : Active P} (hactive : system.session.active? = some active)
    (hmode : active.mode = .time) (h : Drains active.connection system batches after)
    (hbound : batches.length ≤ P.backlog active.connection system.driver) :
    drainStream system =
      (batches.flatten.length, counted batches.flatten.length after) := by
  have hloop := h.drainLoop (Nat.lt_succ_of_le hbound)
  rw [drainStream, bind_apply, withDriver_of_active hactive, drainActive,
    if_neg (not_not.2 hmode), bind_apply, get_apply, bind_apply, hloop]
  dsimp only
  by_cases hnone : batches.flatten.length ≠ 0
  · rw [if_pos hnone]
    rfl
  · rw [if_neg hnone, not_not.1 hnone]
    rfl

/-- Without a live session there is nothing to drain. -/
theorem drainStream_of_none (hactive : system.session.active? = none) :
    (drainStream system).1 = 0 ∧ Idle system (drainStream system).2 ∧
      SameDriver system (drainStream system).2 := by
  obtain ⟨hanswer, hidle, hdriver⟩ := withDriver_of_none hactive (drainActive (P := P) (C := C))
  rw [drainStream, bind_apply, hanswer]
  exact ⟨rfl, hidle, hdriver⟩

/-- A session that samples events has no stream to drain. -/
theorem drainStream_of_event {active : Active P} (hactive : system.session.active? = some active)
    (hmode : active.mode ≠ .time) :
    (drainStream system).1 = 0 ∧ Idle system (drainStream system).2 := by
  rw [drainStream, bind_apply, withDriver_of_active hactive, drainActive, if_pos hmode]
  exact ⟨rfl, idle_log (.drainInMode active.mode) system⟩

end Rounds

/-! ## Scripted streams -/

section Scripted

open GpuCounters.System GpuCounters.Run

variable {script? : Option Driver.Script} {connection : (Driver.scripted script?).Connection}
  {system after : System (Driver.scripted script?) C} {batches : List (List Report)}

def streamOf (system : System (Driver.scripted script?) C) : Driver.Scripted.State :=
  system.driver

theorem poll_result_eq_false_iff (system : System (Driver.scripted script?) C) :
    ((Driver.scripted script?).poll connection system.driver).result = false ↔
      (streamOf system).pending = [] := by
  show (Driver.Scripted.poll (streamOf system)).result = false ↔ _
  unfold Driver.Scripted.poll
  split <;> simp_all

/-- A poll that finds nothing changes nothing. -/
theorem streamOf_polled (h : (streamOf system).pending = []) :
    streamOf (polled connection system) = streamOf system := by
  have hpoll : streamOf (polled connection system) =
      (Driver.Scripted.poll (streamOf system)).state := driver_polled connection system
  rw [hpoll, Driver.Scripted.poll, h]

/-- A round takes one batch off the stream and leaves nothing in the driver's store. -/
theorem streamOf_emptied {batch : List Report} {rest : List (List Report)}
    (h : (streamOf system).pending = batch :: rest) :
    streamOf (emptied connection system) = ⟨rest, []⟩ := by
  have hround : streamOf (emptied connection system) =
      { (Driver.Scripted.poll (streamOf system)).state with saved := [] } :=
    driver_emptied connection system
  rw [hround, Driver.Scripted.poll, h]

/-- What a round finds: what was in the store, and the next batch behind it. -/
theorem savedReports_poll {batch : List Report} {rest : List (List Report)}
    (h : (streamOf system).pending = batch :: rest) :
    ((Driver.scripted script?).savedReports connection
      ((Driver.scripted script?).poll connection system.driver).state).result =
        (streamOf system).saved ++ batch := by
  show (Driver.Scripted.poll (streamOf system)).state.saved = _
  rw [Driver.Scripted.poll, h]

/-- A drain leaves nothing in the stream. -/
theorem Drains.pending_eq_nil (h : Drains connection system batches after) :
    (streamOf after).pending = [] := by
  induction h with
  | empty system nothing =>
    have hnone := (poll_result_eq_false_iff system).1 nothing
    rw [streamOf_polled hnone, hnone]
  | round system after batches found rest ih => exact ih

/-- The rounds of a drain find the batches of the stream one after the other, if nothing was saved
before, and nothing is saved behind them. -/
theorem Drains.batches_eq_pending (h : Drains connection system batches after)
    (hsaved : (streamOf system).saved = []) :
    batches = (streamOf system).pending ∧ (streamOf after).saved = [] := by
  induction h with
  | empty system nothing =>
    have hnone := (poll_result_eq_false_iff system).1 nothing
    rw [streamOf_polled hnone, hnone]
    exact ⟨rfl, hsaved⟩
  | round system after batches found rest ih =>
    cases hpending : (streamOf system).pending with
    | nil =>
      rw [(poll_result_eq_false_iff system).2 hpending] at found
      simp at found
    | cons batch others =>
      have hleft : streamOf (emptied connection system) = ⟨others, []⟩ :=
        streamOf_emptied hpending
      obtain ⟨hbatches, hlast⟩ := ih (by rw [hleft])
      rw [savedReports_poll hpending, hsaved, List.nil_append, hbatches, hleft]
      exact ⟨rfl, hlast⟩

/-- Draining a time-based session goes through the batches of its stream, if nothing was saved
before, and counts their reports. -/
theorem drainStream_of_scripted {active : Active (Driver.scripted script?)}
    (hactive : system.session.active? = some active) (hmode : active.mode = .time)
    (hsaved : (streamOf system).saved = []) :
    ∃ after, Drains active.connection system (streamOf system).pending after ∧
      drainStream system = ((streamOf system).pending.flatten.length,
        counted (streamOf system).pending.flatten.length after) := by
  obtain ⟨batches, after, hdrains, hbound⟩ := exists_drains active.connection system
  have hdrain := drainStream_of_drains hactive hmode hdrains hbound
  obtain ⟨hbatches, -⟩ := hdrains.batches_eq_pending hsaved
  rw [hbatches] at hdrains hdrain
  exact ⟨after, hdrains, hdrain⟩

/-- An empty stream is polled once, and that is all. -/
theorem drainStream_of_empty {active : Active (Driver.scripted script?)}
    (hactive : system.session.active? = some active) (hmode : active.mode = .time)
    (hpending : (streamOf system).pending = []) :
    (drainStream system).1 = 0 ∧ Idle system (drainStream system).2 := by
  have hdrains : Drains active.connection system [] (polled active.connection system) :=
    .empty system ((poll_result_eq_false_iff system).2 hpending)
  have hidle : Idle system (polled active.connection system) :=
    trans_of Idle (idle_note .poll system) (idle_askDriver _ _)
  rw [drainStream_of_drains hactive hmode hdrains (Nat.zero_le _)]
  exact ⟨rfl, trans_of Idle hidle (idle_counted 0 _)⟩

/-- Whatever a drain finds, another one right behind it finds nothing and writes nothing. -/
theorem drainStream_drainStream (system : System (Driver.scripted script?) C) :
    (drainStream (drainStream system).2).1 = 0 ∧
      Idle (drainStream system).2 (drainStream (drainStream system).2).2 := by
  have hactive := (drainStream_spec system).2.active
  cases hlive : system.session.active? with
  | none =>
    obtain ⟨hnone, hidle, -⟩ := drainStream_of_none (hactive.trans hlive)
    exact ⟨hnone, hidle⟩
  | some active =>
    by_cases hmode : active.mode = .time
    · obtain ⟨batches, after, hdrains, hbound⟩ := exists_drains active.connection system
      have hempty : (streamOf (drainStream system).2).pending = [] := by
        rw [drainStream_of_drains hlive hmode hdrains hbound]
        exact hdrains.pending_eq_nil
      exact drainStream_of_empty (hactive.trans hlive) hmode hempty
    · exact drainStream_of_event (hactive.trans hlive) hmode

end Scripted

end GpuCounters.Session
