import GpuCounters.Proofs.Engine.Steps

/-!
# Runs of a host

A host may use an engine, the session behind it and the creation of queues side by side. Every
operation has an answer, and a run goes on whatever the answers are.
-/

namespace GpuCounters.Host

variable {P : Driver.Provider} {C : Compute}

/-- What a host may ask for, or what is done around it by others. -/
inductive Op (P : Driver.Provider) (C : Compute)
  | session (op : Session.Op P C)
  | createQueue (context : Context) (device : Device) (bits : Queue.Bits)
  | createQueueWithProperties (context : Context) (device : Device)
      (properties : Option (List UInt64))
  | engine (op : Engine.Op P C)

/-- The request by which an operation starts the session if it is not live. -/
def Op.request? (settings : Settings) : Op P C → Option Driver.Request
  | .session (.start request) => some request
  | .engine .start | .engine (.createQueue _ _ _)
  | .engine (.createQueueWithProperties _ _ _) => some settings.request
  | _ => none

/-- What a host is answered. -/
inductive Answer
  | started (result : Except Session.Error Unit)
  /-- Whether the session was live -/
  | written (live : Bool)
  | sampled (outcome : Session.SampleOutcome)
  /-- The number of reports -/
  | drained (reports : Nat)
  | created (result : Except Queue.Error CounterQueue)
  | summary (text : Option String)
  | silent

def askSession : Session.Op P C → Run P C Answer
  | .start request => do return .started (← Session.ensureInitialized request)
  | .write label report => do return .written (← Session.write label report)
  | .sample operation event => do return .sampled (← Session.sampleEvent operation event)
  | .drain => do return .drained (← Session.drainStream)
  | .close => do
    Session.close
    return .silent
  | .outside driver compute => do
    Session.Op.run (.outside driver compute)
    return .silent

def askEngine (settings : Settings) : Engine.Op P C → Run P C Answer
  | .start => do return .started (← Engine.start settings)
  | .createQueue context device bits => do
    return .created (← Engine.createQueue settings context device bits)
  | .createQueueWithProperties context device properties => do
    return .created (← Engine.createQueueWithProperties settings context device properties)
  | .sample operation event => askSession (.sample operation event)
  | .completeWork operation event => do
    Engine.completeWork settings operation event
    return .silent
  | .drain => askSession .drain
  | .report => do return .summary (← Engine.report? settings)
  | .shutdown => do return .summary (← Engine.shutdown settings)
  | .outside driver compute => askSession (.outside driver compute)

/-- Do an operation under the settings of the engine. -/
def Op.ask (settings : Settings) : Op P C → Run P C Answer
  | .session op => askSession op
  | .createQueue context device bits => do return .created (← Queue.create context device bits)
  | .createQueueWithProperties context device properties => do
    return .created (← Queue.createWithProperties context device properties)
  | .engine op => askEngine settings op

def runAll (settings : Settings) (ops : List (Op P C)) (system : System P C) : System P C :=
  ops.foldl (fun system op ↦ (op.ask settings system).2) system

@[simp] theorem runAll_cons (settings : Settings) (op : Op P C) (ops : List (Op P C))
    (system : System P C) :
    runAll settings (op :: ops) system = runAll settings ops (op.ask settings system).2 := rfl

theorem runAll_append (settings : Settings) (ops more : List (Op P C)) (system : System P C) :
    runAll settings (ops ++ more) system = runAll settings more (runAll settings ops system) :=
  List.foldl_append

/-! ## Relations that operations keep to -/

open GpuCounters.Run

/-- Whether all that the operations of a host are made of keeps to a relation. -/
structure KeepsParts (settings : Settings) (relation : System P C → System P C → Prop) : Prop
    extends Engine.KeepsParts settings relation where
  ensureInitialized : ∀ request : Driver.Request,
    Keeps relation (Session.ensureInitialized request : Run P C (Except Session.Error Unit))
  write : ∀ (label : String) (report : Report),
    Keeps relation (Session.write label report : Run P C Bool)

section KeepsParts

variable {settings : Settings} {relation : System P C → System P C → Prop}
  [IsPreorder (System P C) relation]

theorem KeepsParts.askSession (h : KeepsParts settings relation) (op : Session.Op P C) :
    Keeps relation (askSession op) := by
  cases op with
  | start request => exact Keeps.bind (h.ensureInitialized request) fun _ ↦ Keeps.pure _
  | write label report => exact Keeps.bind (h.write label report) fun _ ↦ Keeps.pure _
  | sample operation event => exact Keeps.bind (h.sample operation event) fun _ ↦ Keeps.pure _
  | drain => exact Keeps.bind h.drain fun _ ↦ Keeps.pure _
  | close => exact Keeps.bind h.close fun _ ↦ Keeps.pure _
  | outside driver compute => exact Keeps.bind (h.outside driver compute) fun _ ↦ Keeps.pure _

/-- What the parts of a host keep to, each of its operations keeps to. -/
theorem KeepsParts.ask (h : KeepsParts settings relation) (op : Op P C) :
    Keeps relation (op.ask settings) := by
  cases op with
  | session op => exact h.askSession op
  | createQueue context device bits =>
    exact Keeps.bind (h.create context device bits) fun _ ↦ Keeps.pure _
  | createQueueWithProperties context device properties =>
    exact Keeps.bind (h.createWithProperties context device properties) fun _ ↦ Keeps.pure _
  | engine op =>
    cases op with
    | start => exact Keeps.bind h.start fun _ ↦ Keeps.pure _
    | createQueue context device bits =>
      exact Keeps.bind (Keeps.bind h.prepareQueue fun _ ↦ h.create context device bits) fun _ ↦
        Keeps.pure _
    | createQueueWithProperties context device properties =>
      exact Keeps.bind (Keeps.bind h.prepareQueue fun _ ↦
        h.createWithProperties context device properties) fun _ ↦ Keeps.pure _
    | sample operation event => exact h.askSession (.sample operation event)
    | completeWork operation event =>
      exact Keeps.bind (h.completeWork operation event) fun _ ↦ Keeps.pure _
    | drain => exact h.askSession .drain
    | report => exact fun system ↦ refl_of relation system
    | shutdown => exact Keeps.bind h.shutdown fun _ ↦ Keeps.pure _
    | outside driver compute => exact h.askSession (.outside driver compute)

end KeepsParts

end GpuCounters.Host
