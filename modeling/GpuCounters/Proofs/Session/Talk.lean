import GpuCounters.Proofs.Session.Activities

/-!
# Talk

Sessions are started and streams are drained by talk with the driver, apart from what is done to the
dump. So a relation that talk keeps to is kept to by a start if it is by the opening of a dump, and
by a drain if it is by the writing of a row.
-/

namespace GpuCounters.Session

open GpuCounters.System GpuCounters.Run

variable {P : Driver.Provider} {C : Compute} {α : Type}

/-- Whether talk keeps to a relation: what is logged, what is asked of the driver, and what a
session remembers besides its dump and its sums. -/
structure Talk (relation : System P C → System P C → Prop) : Prop where
  log : ∀ event : Log.Event, Keeps relation (Run.log event : Run P C Unit)
  note : ∀ activity : Activity, activity.concern ≠ .events →
    Keeps relation (Run.note activity : Run P C Unit)
  askDriver : ∀ {β : Type} (ask : P.State → Exchange P.State β),
    Keeps relation (Run.askDriver ask : Run P C β)
  session : ∀ change : Session P → Session P,
    (∀ session, (change session).dump? = session.dump?) →
    (∀ session, (change session).aggregator = session.aggregator) →
      Keeps relation (modifySession change : Run P C Unit)

namespace Talk

variable {relation : System P C → System P C → Prop} [IsPreorder (System P C) relation]

theorem withDriver_of_none (h : Talk relation) {system : System P C}
    (hactive : system.session.active? = none) (act : Active P → Run P C α) :
    relation system (Run.withDriver act system).2 := by
  have hsaid : Keeps relation (do
      modifySession fun session ↦ { session with uninitializedReported := true }
      Run.log .uninitialized
      return none : Run P C (Option α)) :=
    Keeps.bind (h.session _ (fun _ ↦ rfl) fun _ ↦ rfl) fun _ ↦
      Keeps.bind (h.log _) fun _ ↦ Keeps.pure _
  unfold Run.withDriver
  rw [bind_apply, session_apply, hactive]
  dsimp only
  split
  · exact hsaid system
  · exact refl_of relation system

theorem withDriver (h : Talk relation) {act : Active P → Run P C α}
    (hact : ∀ active, Keeps relation (act active)) : Keeps relation (Run.withDriver act) := by
  intro system
  cases hactive : system.session.active? with
  | none => exact h.withDriver_of_none hactive act
  | some active =>
    rw [Run.withDriver_of_active hactive]
    exact hact active system

/-- A connection is given up by talk alone. -/
theorem disconnect (h : Talk relation) : Keeps relation (Session.disconnect : Run P C Unit) := by
  unfold Session.disconnect
  refine Keeps.bind Keeps.session fun session ↦ ?_
  split
  · exact Keeps.pure _
  · exact Keeps.bind (h.session _ (fun _ ↦ rfl) fun _ ↦ rfl) fun _ ↦
      Keeps.bind (h.note _ (by simp [Activity.concern])) fun _ ↦ h.askDriver _

/-! ## Starting -/

theorem connect (h : Talk relation) (request : Driver.Request) :
    Keeps relation (Session.connect request : Run P C (Except Driver.Error P.Connection)) := by
  unfold Session.connect
  refine Keeps.bind (h.note _ (by simp [Activity.concern])) fun _ ↦
    Keeps.bind (h.askDriver _) fun result ↦ ?_
  cases result with
  | ok connection => exact Keeps.bind (h.log _) fun _ ↦ Keeps.pure _
  | error cause =>
    exact Keeps.bind Keeps.session fun session ↦ Keeps.bind (h.log _) fun _ ↦
      Keeps.bind (h.session _ (fun _ ↦ rfl) fun _ ↦ rfl) fun _ ↦ Keeps.pure _

theorem openStream (h : Talk relation) (connection : P.Connection) :
    Keeps relation (Session.openStream connection : Run P C Unit) := by
  unfold Session.openStream
  refine Keeps.bind (h.note _ (by simp [Activity.concern])) fun _ ↦
    Keeps.bind (h.askDriver _) fun result ↦ ?_
  cases result with
  | ok _ => exact Keeps.pure _
  | error cause => exact h.log _

section Opening

variable {request : Driver.Request}
  (hopen : ∀ (mode : Mode) (metricSet : String) (connection : P.Connection)
    (system : System P C), system.session.dump? = none →
      relation system (openDump mode metricSet connection system).2)

include hopen

/-- A dump is only opened where none is open. -/
theorem goLive (h : Talk relation) (connection : P.Connection) :
    Keeps relation (Session.goLive request connection : Run P C (Except Error Unit)) := by
  have hactivate : Keeps relation (modifySession (activated request connection) : Run P C Unit) :=
    h.session _ (fun _ ↦ rfl) fun _ ↦ rfl
  have hlive : Keeps relation (do
      modifySession (activated request connection)
      return .ok () : Run P C (Except Error Unit)) :=
    Keeps.bind hactivate fun _ ↦ Keeps.pure _
  intro system
  unfold Session.goLive
  rw [bind_apply, session_apply]
  by_cases hdump : system.session.dump?.isNone = true
  · have hopened := hopen request.mode request.metricSet connection system
      (Option.isNone_iff_eq_none.1 hdump)
    rw [if_pos hdump, bind_apply]
    exact trans_of relation hopened (hlive _)
  · rw [if_neg hdump]
    exact hlive system

theorem ensureInitialized (h : Talk relation) :
    Keeps relation (Session.ensureInitialized request : Run P C (Except Error Unit)) := by
  unfold Session.ensureInitialized
  refine Keeps.bind Keeps.session fun session ↦ ?_
  split
  · split <;> exact Keeps.pure _
  · unfold start
    refine Keeps.bind (h.connect request) fun result ↦ ?_
    cases result with
    | error cause => exact Keeps.pure _
    | ok connection =>
      dsimp only
      split
      · exact Keeps.bind (h.openStream connection) fun _ ↦ h.goLive hopen connection
      · exact h.goLive hopen connection

end Opening

/-! ## Draining -/

theorem writeReports (hrow : ∀ label report,
      Keeps relation (writeRow label report : Run P C Unit))
    (information : List Value) (reports : List Report) :
    Keeps relation (Session.writeReports information reports : Run P C Unit) := by
  induction reports with
  | nil => exact Keeps.pure _
  | cons report reports ih => exact Keeps.bind (hrow _ _) fun _ ↦ ih

/-- The induction is on the fuel: each round is talk and some rows. -/
theorem drainLoop (h : Talk relation)
    (hrow : ∀ label report, Keeps relation (writeRow label report : Run P C Unit))
    (connection : P.Connection) (fuel : Nat) :
    Keeps relation (Session.drainLoop connection fuel : Run P C Nat) := by
  have htake : Keeps relation (takeReports connection : Run P C Nat) := by
    unfold takeReports
    exact Keeps.bind (h.askDriver _) fun reports ↦ Keeps.bind (h.askDriver _) fun values ↦
      Keeps.bind (h.log _) fun _ ↦ Keeps.bind (writeReports hrow values reports) fun _ ↦
      Keeps.bind (h.note _ (by simp [Activity.concern])) fun _ ↦
      Keeps.bind (h.askDriver _) fun _ ↦ Keeps.pure _
  induction fuel with
  | zero => exact Keeps.pure _
  | succ fuel ih =>
    unfold Session.drainLoop
    refine Keeps.bind (h.note _ (by simp [Activity.concern])) fun _ ↦
      Keeps.bind (h.askDriver _) fun found ↦ ?_
    split
    · exact Keeps.bind htake fun _ ↦ Keeps.bind ih fun _ ↦ Keeps.pure _
    · exact Keeps.pure _

end Talk

end GpuCounters.Session
