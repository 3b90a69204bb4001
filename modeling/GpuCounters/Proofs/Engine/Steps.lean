import GpuCounters.Proofs.Engine.OfflineSummary

/-!
# Steps of an engine

Whatever an engine is asked for, it starts its session, creates queues, samples, drains, closes and
logs. A relation that each of these keeps to is kept to by every operation, and by every run, even
if others change the disk between two operations.
-/

namespace GpuCounters

open Storage

variable {P : Driver.Provider} {C : Compute} {α κ : Type}

/-! ## Invariants -/

namespace System

/-- Whether an invariant of one system is one of another. -/
def Preserves (invariant : System P C → Prop) (before after : System P C) : Prop :=
  invariant before → invariant after

instance (invariant : System P C → Prop) : IsPreorder (System P C) (Preserves invariant) where
  refl _ h := h
  trans _ _ _ h hlast := hlast ∘ h

end System

/-! ## Runs on a changing disk -/

namespace Run

/-- The system after some operations. Before each of them something may happen to the disk. -/
def amid (run : κ → Run P C α) (steps : List ((Disk → Disk) × κ)) (system : System P C) :
    System P C :=
  steps.foldl
    (fun system (change, op) ↦ (run op { system with disk := change system.disk }).2) system

section Amid

variable (run : κ → Run P C α)

@[simp] theorem amid_nil (system : System P C) : amid run [] system = system := rfl

@[simp] theorem amid_cons (change : Disk → Disk) (op : κ) (steps : List ((Disk → Disk) × κ))
    (system : System P C) :
    amid run ((change, op) :: steps) system =
      amid run steps (run op { system with disk := change system.disk }).2 := rfl

end Amid

/-- The induction is on the steps: what one operation keeps to, and the disk does not matter for,
a run keeps to. -/
theorem Keeps.amid {relation : System P C → System P C → Prop} [IsPreorder (System P C) relation]
    {run : κ → Run P C α} (hdisk : ∀ (system : System P C) (disk : Disk),
      relation system { system with disk })
    (hrun : ∀ op, Keeps relation (run op)) (steps : List ((Disk → Disk) × κ))
    (system : System P C) : relation system (Run.amid run steps system) := by
  induction steps generalizing system with
  | nil => exact refl_of relation system
  | cons step steps ih =>
    obtain ⟨change, op⟩ := step
    have hchanged := hdisk system (change system.disk)
    have hstep := hrun op { system with disk := change system.disk }
    exact trans_of relation hchanged (trans_of relation hstep (ih _))

end Run

/-! ## Operations -/

namespace Engine

open GpuCounters.System GpuCounters.Run

/-- Whether all that the operations of an engine are made of keeps to a relation. -/
structure KeepsParts (settings : Settings) (relation : System P C → System P C → Prop) :
    Prop where
  start : Keeps relation (Engine.start settings : Run P C (Except Session.Error Unit))
  create : ∀ (context : Context) (device : Device) (bits : Queue.Bits),
    Keeps relation (Queue.create context device bits :
      Run P C (Except Queue.Error CounterQueue))
  createWithProperties : ∀ (context : Context) (device : Device)
      (properties : Option (List UInt64)),
    Keeps relation (Queue.createWithProperties context device properties :
      Run P C (Except Queue.Error CounterQueue))
  sample : ∀ (operation : String) (event : Event),
    Keeps relation (Session.sampleEvent operation event : Run P C Session.SampleOutcome)
  drain : Keeps relation (Session.drainStream : Run P C Nat)
  close : Keeps relation (Session.close : Run P C Unit)
  log : ∀ event : Log.Event, Keeps relation (Run.log event : Run P C Unit)
  outside : ∀ (driver : P.State → P.State) (compute : C.State → C.State),
    Keeps relation (Op.run settings (.outside driver compute))

section KeepsParts

variable {settings : Settings} {relation : System P C → System P C → Prop}
  [IsPreorder (System P C) relation]

theorem KeepsParts.prepareQueue (h : KeepsParts settings relation) :
    Keeps relation (Engine.prepareQueue settings : Run P C Unit) := by
  unfold Engine.prepareQueue
  refine Keeps.bind h.start fun result ↦ ?_
  cases result with
  | ok _ => exact Keeps.pure _
  | error cause => exact h.log _

theorem KeepsParts.completeWork (h : KeepsParts settings relation) (operation : String)
    (event : Event) :
    Keeps relation (Engine.completeWork settings operation event : Run P C Unit) := by
  unfold Engine.completeWork
  split
  · exact Keeps.bind (h.sample operation event) fun _ ↦ Keeps.pure _
  · exact Keeps.bind h.drain fun _ ↦ Keeps.pure _

theorem KeepsParts.finalDrain (h : KeepsParts settings relation) :
    Keeps relation (Engine.finalDrain : Run P C Unit) := by
  unfold Engine.finalDrain
  refine Keeps.bind Keeps.get fun system ↦ ?_
  split
  · exact Keeps.bind h.drain fun _ ↦ h.log _
  · exact Keeps.pure _

theorem KeepsParts.shutdown (h : KeepsParts settings relation) :
    Keeps relation (Engine.shutdown settings : Run P C (Option String)) := by
  have hreport : Keeps relation (report? settings : Run P C (Option String)) :=
    Keeps.bind Keeps.session fun _ ↦ Keeps.pure _
  unfold Engine.shutdown
  refine Keeps.bind h.finalDrain fun _ ↦ Keeps.bind Keeps.get fun system ↦
    Keeps.bind h.close fun _ ↦ ?_
  dsimp only
  split
  · exact Keeps.bind (h.log _) fun _ ↦ hreport
  · exact hreport

/-- What the parts of an engine keep to, each of its operations keeps to. -/
theorem KeepsParts.run (h : KeepsParts settings relation) (op : Op P C) :
    Keeps relation (op.run settings) := by
  cases op with
  | start => exact h.start
  | createQueue context device bits =>
    exact Keeps.bind (Keeps.bind h.prepareQueue fun _ ↦ h.create context device bits) fun _ ↦
      Keeps.pure _
  | createQueueWithProperties context device properties =>
    exact Keeps.bind (Keeps.bind h.prepareQueue fun _ ↦
      h.createWithProperties context device properties) fun _ ↦ Keeps.pure _
  | sample operation event => exact h.sample operation event
  | completeWork operation event => exact h.completeWork operation event
  | drain => exact h.drain
  | report => exact fun system ↦ refl_of relation system
  | shutdown => exact h.shutdown
  | outside driver compute => exact h.outside driver compute

end KeepsParts

end Engine

end GpuCounters
