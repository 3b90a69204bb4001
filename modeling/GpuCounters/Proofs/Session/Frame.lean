import GpuCounters.Session.EventSampling
import GpuCounters.Session.StreamSampling
import Mathlib.Order.Defs.Unbundled

/-!
# What work on a system leaves alone

Most work on a system only talks to other parties and keeps notes. It leaves the disk and the dump
as they are, or the live driver and the sums, or all of these; and whatever it does, the log only
grows. Such a frame is a preorder on systems, and a sequence of steps keeps to it if each of its
steps does.
-/

namespace GpuCounters

open Storage

variable {P : Driver.Provider} {C : Compute} {α β : Type}

/-! ## Frames -/

namespace System

/-- Whether a system is a later state of another one. -/
structure Later (before after : System P C) : Prop where
  root : after.dumpRoot = before.dumpRoot
  process : after.process = before.process
  log : before.log.toList <+: after.log.toList

/-- Whether a system is a later one that has neither touched its disk nor its dumps. -/
structure Untouched (before after : System P C) : Prop extends Later before after where
  disk : after.disk = before.disk
  dump : after.session.dump? = before.session.dump?
  opened : after.session.openedDumps = before.session.openedDumps

/-- Whether a system is a later one with the same live driver and the same sums. -/
structure Steady (before after : System P C) : Prop extends Later before after where
  active : after.session.active? = before.session.active?
  aggregator : after.session.aggregator = before.session.aggregator

/-- Whether a system is a later one in which nothing but talk has happened. -/
structure Idle (before after : System P C) : Prop extends
    Untouched before after, Steady before after

def SameDriver (before after : System P C) : Prop := after.driver = before.driver

instance : IsPreorder (System P C) Later where
  refl _ := ⟨rfl, rfl, List.prefix_refl _⟩
  trans _ _ _ h hlast :=
    ⟨hlast.root.trans h.root, hlast.process.trans h.process, h.log.trans hlast.log⟩

instance : IsPreorder (System P C) Untouched where
  refl system := ⟨refl_of Later system, rfl, rfl, rfl⟩
  trans _ _ _ h hlast :=
    ⟨trans_of Later h.toLater hlast.toLater, hlast.disk.trans h.disk, hlast.dump.trans h.dump,
      hlast.opened.trans h.opened⟩

instance : IsPreorder (System P C) Steady where
  refl system := ⟨refl_of Later system, rfl, rfl⟩
  trans _ _ _ h hlast :=
    ⟨trans_of Later h.toLater hlast.toLater, hlast.active.trans h.active,
      hlast.aggregator.trans h.aggregator⟩

instance : IsPreorder (System P C) Idle where
  refl system := ⟨refl_of Untouched system, rfl, rfl⟩
  trans _ _ _ h hlast :=
    ⟨trans_of Untouched h.toUntouched hlast.toUntouched, hlast.active.trans h.active,
      hlast.aggregator.trans h.aggregator⟩

instance : IsPreorder (System P C) SameDriver where
  refl _ := rfl
  trans _ _ _ h hlast := Eq.trans hlast h

theorem later_take (system : System P C) (note : Note) : Later system (system.take note) := by
  cases note with
  | call call => exact ⟨rfl, rfl, List.prefix_refl _⟩
  | log event => exact ⟨rfl, rfl, by simp [System.take]⟩

theorem idle_take (system : System P C) (note : Note) : Idle system (system.take note) := by
  have hlater := later_take system note
  cases note <;> exact ⟨⟨hlater, rfl, rfl, rfl⟩, rfl, rfl⟩

theorem idle_foldl_take (system : System P C) (notes : List Note) :
    Idle system (notes.foldl System.take system) := by
  induction notes generalizing system with
  | nil => exact refl_of Idle system
  | cons note notes ih => exact trans_of Idle (idle_take system note) (ih (system.take note))

theorem driver_foldl_take (system : System P C) (notes : List Note) :
    (notes.foldl System.take system).driver = system.driver := by
  induction notes generalizing system with
  | nil => rfl
  | cons note notes ih =>
    rw [List.foldl_cons, ih]
    cases note <;> rfl

end System

/-! ## Steps and their sequences -/

namespace Run

open GpuCounters.System

section Apply

variable (system : System P C)

theorem bind_apply (run : Run P C α) (next : α → Run P C β) :
    (run >>= next) system = next (run system).1 (run system).2 := (rfl)

theorem pure_apply (value : α) : (pure value : Run P C α) system = (value, system) := (rfl)

theorem get_apply : (get : Run P C (System P C)) system = (system, system) := (rfl)

theorem session_apply : (session : Run P C (Session P)) system = (system.session, system) := (rfl)

theorem modifySession_apply (change : Session P → Session P) :
    modifySession change system = ((), { system with session := change system.session }) := (rfl)

theorem onDisk_apply (act : Disk → α × Disk) :
    onDisk act system = ((act system.disk).1, { system with disk := (act system.disk).2 }) := (rfl)

end Apply

/-- Whether work leads from each system to one that is related to it. -/
def Keeps (relation : System P C → System P C → Prop) (run : Run P C α) : Prop :=
  ∀ system, relation system (run system).2

namespace Keeps

variable {relation : System P C → System P C → Prop} {run : Run P C α}

theorem mono {weaker : System P C → System P C → Prop}
    (h : ∀ before after, relation before after → weaker before after)
    (hrun : Keeps relation run) : Keeps weaker run :=
  fun system ↦ h _ _ (hrun system)

/-! Idle work is steady and leaves the dumps alone. -/

theorem steady (h : Keeps Idle run) : Keeps Steady run := h.mono fun _ _ h ↦ h.toSteady

theorem untouched (h : Keeps Idle run) : Keeps Untouched run := h.mono fun _ _ h ↦ h.toUntouched

theorem later (h : Keeps Steady run) : Keeps Later run := h.mono fun _ _ h ↦ h.toLater

variable [IsPreorder (System P C) relation]

theorem pure (value : α) : Keeps relation (pure value : Run P C α) :=
  fun system ↦ refl_of relation system

theorem bind {next : α → Run P C β} (h : Keeps relation run)
    (hnext : ∀ value, Keeps relation (next value)) : Keeps relation (run >>= next) :=
  fun system ↦ trans_of relation (h system) (hnext _ _)

theorem get : Keeps relation (get : Run P C (System P C)) :=
  fun system ↦ refl_of relation system

theorem session : Keeps relation (Run.session : Run P C (Session P)) :=
  fun system ↦ refl_of relation system

end Keeps

theorem idle_log (event : Log.Event) : Keeps Idle (log event : Run P C Unit) :=
  fun system ↦ idle_take system (.log event)

theorem idle_note (activity : Activity) : Keeps Idle (note activity : Run P C Unit) :=
  fun _ ↦ ⟨⟨⟨rfl, rfl, List.prefix_refl _⟩, rfl, rfl, rfl⟩, rfl, rfl⟩

theorem idle_count (change : Telemetry → Telemetry) : Keeps Idle (count change : Run P C Unit) :=
  fun _ ↦ ⟨⟨⟨rfl, rfl, List.prefix_refl _⟩, rfl, rfl, rfl⟩, rfl, rfl⟩

theorem idle_askDriver (ask : P.State → Exchange P.State α) :
    Keeps Idle (askDriver ask : Run P C α) := by
  intro system
  have hdriver : Idle system { system with driver := (ask system.driver).state } :=
    ⟨⟨⟨rfl, rfl, List.prefix_refl _⟩, rfl, rfl, rfl⟩, rfl, rfl⟩
  exact trans_of Idle hdriver (idle_foldl_take _ _)

theorem idle_askCompute (ask : C.State → Exchange C.State α) :
    Keeps Idle (askCompute ask : Run P C α) := by
  intro system
  have hcompute : Idle system { system with compute := (ask system.compute).state } :=
    ⟨⟨⟨rfl, rfl, List.prefix_refl _⟩, rfl, rfl, rfl⟩, rfl, rfl⟩
  exact trans_of Idle hcompute (idle_foldl_take _ _)

/-- What the driver is after it was asked. -/
theorem driver_askDriver (ask : P.State → Exchange P.State α) (system : System P C) :
    (askDriver ask system).2.driver = (ask system.driver).state :=
  driver_foldl_take _ _

theorem sameDriver_askCompute (ask : C.State → Exchange C.State α) :
    Keeps SameDriver (askCompute ask : Run P C α) :=
  fun _ ↦ driver_foldl_take _ _

theorem withDriver_of_active {system : System P C} {active : Active P}
    (h : system.session.active? = some active) (act : Active P → Run P C α) :
    withDriver act system = (some (act active system).1, (act active system).2) := by
  unfold withDriver
  simp only [bind_apply, session_apply, h]
  rfl

/-- Without a live driver nothing is done but to say so once. -/
theorem withDriver_of_none {system : System P C} (h : system.session.active? = none)
    (act : Active P → Run P C α) :
    (withDriver act system).1 = none ∧ Idle system (withDriver act system).2 ∧
      SameDriver system (withDriver act system).2 := by
  unfold withDriver
  simp only [bind_apply, session_apply, h]
  by_cases hreported : (!system.session.uninitializedReported) = true
  · rw [if_pos hreported]
    have hflag : Keeps Idle (modifySession fun session ↦
        { session with uninitializedReported := true } : Run P C Unit) :=
      fun _ ↦ ⟨⟨⟨rfl, rfl, List.prefix_refl _⟩, rfl, rfl, rfl⟩, rfl, rfl⟩
    have hsaid := Keeps.bind hflag fun _ ↦
      Keeps.bind (idle_log .uninitialized) fun _ ↦ Keeps.pure (none : Option α)
    exact ⟨rfl, hsaid system, rfl⟩
  · rw [if_neg hreported]
    exact ⟨rfl, refl_of Idle system, rfl⟩

theorem Keeps.withDriver {relation : System P C → System P C → Prop}
    (hidle : ∀ before after, Idle before after → relation before after)
    {act : Active P → Run P C α} (h : ∀ active, Keeps relation (act active)) :
    Keeps relation (withDriver act) := by
  intro system
  cases hactive : system.session.active? with
  | none => exact hidle _ _ (withDriver_of_none hactive act).2.1
  | some active =>
    rw [withDriver_of_active hactive]
    exact h active system

end Run

/-! ## Steps of a session -/

namespace Session

open Run GpuCounters.System

theorem idle_connect (request : Driver.Request) :
    Keeps Idle (connect request : Run P C (Except Driver.Error P.Connection)) := by
  unfold connect
  refine Keeps.bind (idle_note _) fun _ ↦ Keeps.bind (idle_askDriver _) fun result ↦ ?_
  cases result with
  | ok connection => exact Keeps.bind (idle_log _) fun _ ↦ Keeps.pure _
  | error cause =>
    refine Keeps.bind Keeps.session fun session ↦ Keeps.bind (idle_log _) fun _ ↦
      Keeps.bind ?_ fun _ ↦ Keeps.pure _
    exact fun _ ↦ ⟨⟨⟨rfl, rfl, List.prefix_refl _⟩, rfl, rfl, rfl⟩, rfl, rfl⟩

theorem idle_openStream (connection : P.Connection) :
    Keeps Idle (openStream connection : Run P C Unit) := by
  unfold openStream
  refine Keeps.bind (idle_note _) fun _ ↦ Keeps.bind (idle_askDriver _) fun result ↦ ?_
  cases result with
  | ok _ => exact Keeps.pure _
  | error cause => exact idle_log _

theorem untouched_disconnect : Keeps Untouched (disconnect : Run P C Unit) := by
  unfold disconnect
  refine Keeps.bind Keeps.session fun session ↦ ?_
  split
  · exact Keeps.pure _
  · refine Keeps.bind ?_ fun _ ↦ Keeps.bind ?_ fun _ ↦ ?_
    · exact fun _ ↦ ⟨⟨rfl, rfl, List.prefix_refl _⟩, rfl, rfl, rfl⟩
    · exact (idle_note _).untouched
    · exact (idle_askDriver _).untouched

theorem idle_decode (connection : P.Connection) (bytes : ByteArray) :
    Keeps Idle (decode connection bytes : Run P C Report) :=
  Keeps.bind (idle_note _) fun _ ↦ idle_askDriver _

theorem idle_query (operation : String) (event : Event) (size : Nat) :
    Keeps Idle (query operation event size : Run P C (Except Status ProfilingInfo)) := by
  unfold query
  refine Keeps.bind (idle_note _) fun _ ↦ Keeps.bind (idle_askCompute _) fun result ↦ ?_
  cases result with
  | error status =>
    exact Keeps.bind (idle_log _) fun _ ↦ Keeps.bind (idle_count _) fun _ ↦ Keeps.pure _
  | ok info =>
    dsimp only
    split
    · exact Keeps.bind (idle_log _) fun _ ↦ Keeps.pure _
    · exact Keeps.pure _

end Session

end GpuCounters
