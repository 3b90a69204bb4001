import GpuCounters.Engine
import GpuCounters.Proofs.Session.EventSampling

/-!
# Summaries made offline

What an engine sums up of the events that it samples can be summed up again from its dump alone,
once it is shut down: the rows that are read back give the same sums in the same order, whatever the
engine was asked for in between and however often it was started again.
-/

namespace GpuCounters

open Storage

variable {P : Driver.Provider} {C : Compute}

/-! ## Creating queues -/

namespace Queue

open GpuCounters.System GpuCounters.Run

theorem idle_resolve (platform : Platform) :
    Keeps Idle (resolve platform : Run P C (Option C.EntryPoint)) := by
  unfold resolve
  refine Keeps.bind Keeps.get fun system ↦ ?_
  split
  · exact Keeps.pure _
  · refine Keeps.bind (idle_note _) fun _ ↦ Keeps.bind (idle_askCompute _) fun found ↦
      Keeps.bind ?_ fun _ ↦ Keeps.pure _
    exact fun _ ↦ ⟨⟨⟨rfl, rfl, List.prefix_refl _⟩, rfl, rfl, rfl⟩, rfl, rfl⟩

theorem idle_activateLive : Keeps Idle (activateLive : Run P C (Except Error UInt32)) := by
  have hactivate : ∀ active : Active P,
      Keeps Idle (activate active : Run P C (Except Error UInt32)) := by
    intro active
    unfold activate
    refine Keeps.bind (idle_note _) fun _ ↦ Keeps.bind (idle_askDriver _) fun result ↦ ?_
    cases result with
    | error cause => exact Keeps.pure _
    | ok _ => exact Keeps.bind Keeps.get fun _ ↦ Keeps.pure _
  unfold activateLive
  refine Keeps.bind (Keeps.withDriver (fun _ _ h ↦ h) hactivate) fun result ↦ ?_
  dsimp only
  cases result.getD (.error .uninitialized) with
  | error cause => exact Keeps.bind (idle_log _) fun _ ↦ Keeps.pure _
  | ok _ => exact Keeps.bind (Keeps.pure _) fun _ ↦ Keeps.pure _

theorem idle_call (entry : C.EntryPoint) (context : Context) (device : Device) (bits : Bits)
    (configuration : UInt32) :
    Keeps Idle (call entry context device bits configuration :
      Run P C (Except Error CounterQueue)) := by
  unfold call
  refine Keeps.bind (idle_log _) fun _ ↦ Keeps.bind (idle_askCompute _) fun result ↦
    Keeps.bind (idle_note _) fun _ ↦ ?_
  cases result <;> exact Keeps.bind (idle_log _) fun _ ↦ Keeps.pure _

theorem idle_createOn (platform : Platform) (context : Context) (device : Device) (bits : Bits) :
    Keeps Idle (createOn platform context device bits :
      Run P C (Except Error CounterQueue)) := by
  unfold createOn
  refine Keeps.bind (idle_resolve platform) fun entry? ↦ ?_
  cases entry? with
  | none => exact Keeps.bind (idle_log _) fun _ ↦ Keeps.pure _
  | some entry =>
    refine Keeps.bind idle_activateLive fun result ↦ ?_
    cases result with
    | error cause => exact Keeps.pure _
    | ok configuration => exact idle_call entry context device bits configuration

/-- Creating a queue only talks to the driver and to the compute API. -/
theorem idle_create (context : Context) (device : Device) (bits : Bits) :
    Keeps Idle (create context device bits : Run P C (Except Error CounterQueue)) := by
  have hplatform : Keeps Idle (platformOf device : Run P C (Except Status Platform)) :=
    Keeps.bind (idle_note _) fun _ ↦ idle_askCompute _
  unfold create
  refine Keeps.bind hplatform fun result ↦ ?_
  cases result with
  | error status =>
    exact Keeps.bind (Keeps.pure _) fun _ ↦ Keeps.bind (idle_count _) fun _ ↦ Keeps.pure _
  | ok platform =>
    exact Keeps.bind (idle_createOn platform context device bits) fun _ ↦
      Keeps.bind (idle_count _) fun _ ↦ Keeps.pure _

theorem idle_createWithProperties (context : Context) (device : Device)
    (properties : Option (List UInt64)) :
    Keeps Idle (createWithProperties context device properties :
      Run P C (Except Error CounterQueue)) := by
  unfold createWithProperties
  cases bitsOf properties with
  | error refusal =>
    exact Keeps.bind (idle_log _) fun _ ↦ Keeps.bind (idle_count _) fun _ ↦ Keeps.pure _
  | ok bits => exact idle_create context device bits

end Queue

namespace Engine

/-! ## Operations -/

/-- What is asked of an engine, or done around it by others. -/
inductive Op (P : Driver.Provider) (C : Compute)
  | start
  | createQueue (context : Context) (device : Device) (bits : Queue.Bits)
  | createQueueWithProperties (context : Context) (device : Device)
      (properties : Option (List UInt64))
  | sample (operation : String) (event : Event)
  | completeWork (operation : String) (event : Event)
  | drain
  | report
  | shutdown
  /-- The driver and the compute API go on with work of their own. -/
  | outside (driver : P.State → P.State) (compute : C.State → C.State)

/-- Do an operation, whatever it answers. -/
def Op.run (settings : Settings) : Op P C → Run P C Unit
  | .start => do let _ ← Engine.start settings
  | .createQueue context device bits => do
    let _ ← Engine.createQueue settings context device bits
  | .createQueueWithProperties context device properties => do
    let _ ← Engine.createQueueWithProperties settings context device properties
  | .sample operation event => do let _ ← Session.sampleEvent operation event
  | .completeWork operation event => Engine.completeWork settings operation event
  | .drain => do let _ ← Session.drainStream
  | .report => do let _ ← report? settings
  | .shutdown => do let _ ← Engine.shutdown settings
  | .outside driver compute => Session.Op.run (.outside driver compute)

def runAll (settings : Settings) (ops : List (Op P C)) (system : System P C) : System P C :=
  ops.foldl (fun system op ↦ (op.run settings system).2) system

/-- Whether an operation names no work by more than one line. -/
def Op.IsSingleLine : Op P C → Prop
  | .sample operation _ | .completeWork operation _ => '\n' ∉ operation.toList
  | .start | .createQueue _ _ _ | .createQueueWithProperties _ _ _ | .drain | .report | .shutdown
  | .outside _ _ => True

/-! ## Engines that sample events -/

section Samples

open GpuCounters.System GpuCounters.Run Session

/-- Whether work goes on with what was entered before it, as long as it is without fault. -/
structure GoesOn (request : Driver.Request) (metrics : List Descriptor) (includeMax : Bool)
    (base before after : System P C) : Prop extends System.Later before after where
  keeps : after.IsFaultless → ∀ entries,
    KeepsToEvents request metrics includeMax base entries before →
      ∃ more, KeepsToEvents request metrics includeMax base (entries ++ more) after

variable {request : Driver.Request} {metrics : List Descriptor} {includeMax : Bool}
  {base : System P C}

instance : IsPreorder (System P C) (GoesOn request metrics includeMax base) where
  refl system := ⟨refl_of Later system, fun _ entries h ↦ ⟨[], by rwa [List.append_nil]⟩⟩
  trans _ _ _ h hlast := by
    refine ⟨trans_of Later h.toLater hlast.toLater, fun hfaultless entries hentries ↦ ?_⟩
    obtain ⟨more, hmore⟩ := h.keeps (hlast.toLater.isFaultless hfaultless) entries hentries
    obtain ⟨rest, hrest⟩ := hlast.keeps hfaultless _ hmore
    rw [List.append_assoc] at hrest
    exact ⟨more ++ rest, hrest⟩

theorem goesOn_of_idle {before after : System P C} (h : Idle before after) :
    GoesOn request metrics includeMax base before after :=
  ⟨h.toLater, fun _ entries hentries ↦ ⟨[], by
    rw [List.append_nil]
    exact hentries.idle h⟩⟩

theorem goesOn_run (hserves : Driver.Serves P request metrics includeMax)
    (hevent : request.mode = .event) {op : Session.Op P C} (hop : op.IsOfEvents request) :
    Keeps (GoesOn request metrics includeMax base) op.run :=
  fun system ↦ ⟨later_run op system, fun hfaultless _ hentries ↦
    ⟨_, hentries.run hserves hevent hop hfaultless⟩⟩

variable {settings : Settings}

theorem goesOn_prepareQueue (hserves : Driver.Serves P settings.request metrics includeMax)
    (hevent : settings.sampling = .event) :
    Keeps (GoesOn settings.request metrics includeMax base)
      (prepareQueue settings : Run P C Unit) := by
  have hop : (Session.Op.start settings.request : Session.Op P C).IsOfEvents settings.request := rfl
  have hstart : Keeps (GoesOn settings.request metrics includeMax base)
      (Engine.start settings : Run P C (Except Session.Error Unit)) :=
    goesOn_run hserves hevent hop
  unfold prepareQueue
  refine Keeps.bind hstart fun result ↦ ?_
  cases result with
  | ok _ => exact Keeps.pure _
  | error cause => exact (idle_log _).mono fun _ _ h ↦ goesOn_of_idle h

/-- What is left after a shutdown: a closed session, and a summary of what it has summed up. -/
theorem shutdown_spec (settings : Settings) (system : System P C) :
    Idle (Session.close (finalDrain system).2).2 (Engine.shutdown settings system).2 ∧
      (Engine.shutdown settings system).1 =
        settings.summary? (Engine.shutdown settings system).2.session.aggregator := by
  unfold Engine.shutdown
  rw [bind_apply, bind_apply, get_apply, bind_apply]
  dsimp only
  cases (finalDrain system).2.dumpPath? with
  | none => exact ⟨refl_of Idle _, rfl⟩
  | some path => exact ⟨idle_log _ _, rfl⟩

theorem goesOn_shutdown (hserves : Driver.Serves P settings.request metrics includeMax)
    (hevent : settings.sampling = .event) :
    Keeps (GoesOn settings.request metrics includeMax base)
      (Engine.shutdown settings : Run P C (Option String)) := by
  have hdrain : Keeps (GoesOn settings.request metrics includeMax base)
      (finalDrain : Run P C Unit) := by
    unfold finalDrain
    refine Keeps.bind Keeps.get fun system ↦ ?_
    split
    · have hdrains : Keeps (GoesOn settings.request metrics includeMax base)
          (Session.drainStream : Run P C Nat) := by
        have hop : (Session.Op.drain : Session.Op P C).IsOfEvents settings.request := trivial
        exact goesOn_run hserves hevent hop
      exact Keeps.bind hdrains fun _ ↦ (idle_log _).mono fun _ _ h ↦ goesOn_of_idle h
    · exact Keeps.pure _
  have hcloses : Keeps (GoesOn settings.request metrics includeMax base)
      (Session.close : Run P C Unit) := by
    have hop : (Session.Op.close : Session.Op P C).IsOfEvents settings.request := trivial
    exact goesOn_run hserves hevent hop
  intro system
  have hclose := hcloses (finalDrain system).2
  have hclosed := trans_of (GoesOn settings.request metrics includeMax base) (hdrain system) hclose
  exact trans_of (GoesOn settings.request metrics includeMax base) hclosed
    (goesOn_of_idle (shutdown_spec settings system).1)

/-- Every operation of an engine goes on with what was entered before it. -/
theorem goesOn_op (hserves : Driver.Serves P settings.request metrics includeMax)
    (hevent : settings.sampling = .event) {op : Op P C} (hop : op.IsSingleLine) :
    Keeps (GoesOn settings.request metrics includeMax base) (op.run settings) := by
  cases op with
  | start =>
    have hstart : (Session.Op.start settings.request : Session.Op P C).IsOfEvents
        settings.request := rfl
    exact goesOn_run hserves hevent hstart
  | createQueue context device bits =>
    have hcreate : Keeps (GoesOn settings.request metrics includeMax base)
        (Engine.createQueue settings context device bits :
          Run P C (Except Queue.Error CounterQueue)) :=
      Keeps.bind (goesOn_prepareQueue hserves hevent) fun _ ↦
        (Queue.idle_create context device bits).mono fun _ _ h ↦ goesOn_of_idle h
    exact hcreate
  | createQueueWithProperties context device properties =>
    have hcreate : Keeps (GoesOn settings.request metrics includeMax base)
        (Engine.createQueueWithProperties settings context device properties :
          Run P C (Except Queue.Error CounterQueue)) :=
      Keeps.bind (goesOn_prepareQueue hserves hevent) fun _ ↦
        (Queue.idle_createWithProperties context device properties).mono fun _ _ h ↦
          goesOn_of_idle h
    exact hcreate
  | sample operation event =>
    have hsample : (Session.Op.sample operation event : Session.Op P C).IsOfEvents
        settings.request := hop
    exact goesOn_run hserves hevent hsample
  | completeWork operation event =>
    have hsample : (Session.Op.sample operation event : Session.Op P C).IsOfEvents
        settings.request := hop
    have hrun : Op.run settings (.completeWork operation event) =
        (Session.Op.run (.sample operation event) : Run P C Unit) := by
      unfold Op.run completeWork
      rw [hevent]
      rfl
    rw [hrun]
    exact goesOn_run hserves hevent hsample
  | drain =>
    have hdrain : (Session.Op.drain : Session.Op P C).IsOfEvents settings.request := trivial
    exact goesOn_run hserves hevent hdrain
  | report => exact fun system ↦ goesOn_of_idle (refl_of Idle system)
  | shutdown => exact goesOn_shutdown hserves hevent
  | outside driver compute =>
    have houtside : (Session.Op.outside driver compute : Session.Op P C).IsOfEvents
        settings.request := trivial
    exact goesOn_run hserves hevent houtside

/-- The induction is on the operations: what was entered by some of them, the others go on with. -/
theorem goesOn_runAll (hserves : Driver.Serves P settings.request metrics includeMax)
    (hevent : settings.sampling = .event) {ops : List (Op P C)}
    (hops : ∀ op ∈ ops, op.IsSingleLine) (system : System P C) :
    GoesOn settings.request metrics includeMax base system (runAll settings ops system) := by
  induction ops generalizing system with
  | nil => exact refl_of (GoesOn settings.request metrics includeMax base) system
  | cons op ops ih =>
    obtain ⟨hop, hrest⟩ := List.forall_mem_cons.1 hops
    exact trans_of (GoesOn settings.request metrics includeMax base)
      (goesOn_op hserves hevent hop system) (ih hrest _)

/-! ## Summaries -/

/-- The name of a valid metric set has no slash. -/
theorem slash_notMem_metricSet (hvalid : settings.IsValid) : '/' ∉ settings.metricSet.toList := by
  obtain ⟨-, hsafe, -⟩ := settings.isValid_iff.1 hvalid
  intro hslash
  have hunsafe := List.any_eq_false.1 hsafe '/' hslash
  exact hunsafe rfl

theorem isPlain_dumpFile (hvalid : settings.IsValid) (system : System P C) :
    Dump.IsPlain (Dump.directory system.dumpRoot system.process)
      (system.dumpFile settings.metricSet) :=
  ⟨settings.metricSet, slash_notMem_metricSet hvalid, rfl⟩

theorem runAll_append (settings : Settings) (ops more : List (Op P C)) (system : System P C) :
    runAll settings (ops ++ more) system = runAll settings more (runAll settings ops system) :=
  List.foldl_append

variable {system : System P C}

/-- An engine that was live once and is shut down leaves a dump that sums up to exactly what the
engine has summed up, and so to the table that it answers with. -/
theorem ofRows_read_shutdown (hsound : system.disk.Sound) (hfresh : system.session = {})
    (hvalid : settings.IsValid) (hevent : settings.sampling = .event)
    (hserves : Driver.Serves P settings.request metrics includeMax)
    (hlayout : (eventLayout metrics includeMax).IsSingleLine)
    (hlegible : (eventLayout metrics includeMax).Legible) (hnodup : (metrics.map (·.name)).Nodup)
    (ops : List (Op P C)) (hops : ∀ op ∈ ops, op.IsSingleLine)
    (hlive : ∃ early late, ops = early ++ late ∧
      (runAll settings early system).session.active?.isSome)
    (hfaultless : (Engine.shutdown settings (runAll settings ops system)).2.IsFaultless) :
    ∃ contents,
      Dump.read (system.dumpFile settings.metricSet)
          (Engine.shutdown settings (runAll settings ops system)).2.disk = .ok contents ∧
        Summary.Aggregator.ofRows contents.rows =
          (Engine.shutdown settings (runAll settings ops system)).2.session.aggregator ∧
        (settings.reportTiming = true →
          (Engine.shutdown settings (runAll settings ops system)).1 =
            Summary.table? (Summary.Aggregator.ofRows contents.rows)) := by
  obtain ⟨early, late, rfl, hactive⟩ := hlive
  obtain ⟨hearly, hlate⟩ := List.forall_mem_append.1 hops
  have hpath := isPlain_dumpFile hvalid system
  rw [runAll_append] at hfaultless ⊢
  have hstart := KeepsToEvents.of_fresh settings.request metrics includeMax hsound hfresh
  -- While it was live, the engine had opened its dump, and later entries do not change that.
  have hfirst : GoesOn settings.request metrics includeMax system system
      (runAll settings early system) := goesOn_runAll hserves hevent hearly system
  have hsecond := trans_of (GoesOn settings.request metrics includeMax system)
    (goesOn_runAll hserves hevent hlate (runAll settings early system))
    (goesOn_shutdown hserves hevent _)
  obtain ⟨entries, hentries⟩ :=
    hfirst.keeps (hsecond.toLater.isFaultless hfaultless) [] hstart
  obtain ⟨more, hmore⟩ := hsecond.keeps hfaultless _ hentries
  obtain ⟨layout, hlayoutFirst⟩ :=
    Option.isSome_iff_exists.1 (hentries.isSome_firstLayout? hpath hactive)
  have hopened := firstLayout?_append hlayoutFirst more
  obtain ⟨hidle, htext⟩ :=
    shutdown_spec settings (runAll settings late (runAll settings early system))
  have hclosed := hidle.active.trans (close_spec _).2.1
  obtain ⟨contents, hread, hsums⟩ :=
    hmore.ofRows_read hpath hlayout hlegible hnodup hclosed (by rw [hopened]; rfl)
  refine ⟨contents, hread, hsums, fun htiming ↦ ?_⟩
  rw [htext, hsums, Settings.summary?, if_pos]
  simp [Settings.reportsSummary, htiming, hevent]

def kernelScript : Driver.Script where
  metrics := [⟨"Time", "ns"⟩, ⟨"Busy", "%"⟩]

def kernelEvents : Compute.simulated.State where
  events := [(⟨1⟩, .ok (Driver.Script.encode [10, 40])), (⟨2⟩, .ok (Driver.Script.encode [5, 90]))]

/-- Two lives, with a sample before the first one and one of an event that nobody knows. -/
def twoKernels : List (Op (Driver.scripted (some kernelScript)) Compute.simulated) :=
  [.outside id fun _ ↦ kernelEvents, .sample "early" ⟨1⟩, .createQueue ⟨1⟩ ⟨2⟩ 0,
    .completeWork "a, b" ⟨1⟩, .sample "lost" ⟨3⟩, .drain, .shutdown, .report, .start,
    .completeWork "true" ⟨2⟩, .sample "a, b" ⟨2⟩]

/-- What the dump of the two lives holds. -/
def kernelRows : List (String × Report) :=
  [("a, b", ⟨[⟨"Time", .u32 10, none⟩, ⟨"Busy", .u32 40, none⟩], []⟩),
    ("true", ⟨[⟨"Time", .u32 5, none⟩, ⟨"Busy", .u32 90, none⟩], []⟩),
    ("a, b", ⟨[⟨"Time", .u32 5, none⟩, ⟨"Busy", .u32 90, none⟩], []⟩)]

/-- The rows of both lives are in one dump, and so are their sums in one summary. -/
theorem ofRows_read_shutdown_twoKernels :
    (scripted kernelScript).disk.Sound ∧ ({} : Settings).IsValid ∧
      (eventLayout kernelScript.metrics false).IsSingleLine ∧
      (eventLayout kernelScript.metrics false).Legible ∧
      (∀ op ∈ twoKernels, op.IsSingleLine) ∧
      (Engine.shutdown {} (runAll {} twoKernels (scripted kernelScript))).2.IsFaultless ∧
      Dump.read ((scripted kernelScript).dumpFile ({} : Settings).metricSet)
          (Engine.shutdown {} (runAll {} twoKernels (scripted kernelScript))).2.disk =
        .ok ⟨.event, kernelScript.metrics, [], kernelRows⟩ ∧
      Summary.Aggregator.ofRows kernelRows =
        (Engine.shutdown {} (runAll {} twoKernels (scripted kernelScript))).2.session.aggregator ∧
      (Engine.shutdown {} (runAll {} twoKernels (scripted kernelScript))).1 =
        Summary.table? (Summary.Aggregator.ofRows kernelRows) := by
  have hsound : (scripted kernelScript).disk.Sound := Disk.sound_empty
  have hfresh : (scripted kernelScript).session = {} := rfl
  have hvalid : ({} : Settings).IsValid := by decide +kernel
  have hevent : ({} : Settings).sampling = .event := rfl
  have hserves : Driver.Serves (Driver.scripted (some kernelScript)) ({} : Settings).request
      kernelScript.metrics false := Driver.serves_scripted _ _
  have hlayout : (eventLayout kernelScript.metrics false).IsSingleLine := by decide
  have hlegible : (eventLayout kernelScript.metrics false).Legible := by decide
  have hnodup : (kernelScript.metrics.map (·.name)).Nodup := by decide
  have hops : ∀ op ∈ twoKernels, op.IsSingleLine := by simp [twoKernels, Op.IsSingleLine]
  have hlive : ∃ early late, twoKernels = early ++ late ∧
      (runAll {} early (scripted kernelScript)).session.active?.isSome :=
    ⟨twoKernels.take 3, twoKernels.drop 3, (List.take_append_drop 3 twoKernels).symm,
      by decide +kernel⟩
  have hfaultless :
      (Engine.shutdown {} (runAll {} twoKernels (scripted kernelScript))).2.IsFaultless := by
    decide +kernel
  have hread : Dump.read ((scripted kernelScript).dumpFile ({} : Settings).metricSet)
      (Engine.shutdown {} (runAll {} twoKernels (scripted kernelScript))).2.disk =
        .ok ⟨.event, kernelScript.metrics, [], kernelRows⟩ := by
    decide +kernel
  have htiming : ({} : Settings).reportTiming = true := rfl
  obtain ⟨contents, hcontents, hsums, htext⟩ :=
    ofRows_read_shutdown hsound hfresh hvalid hevent hserves hlayout hlegible hnodup twoKernels
      hops hlive hfaultless
  rw [hread] at hcontents
  obtain rfl := Except.ok.inj hcontents
  exact ⟨hsound, hvalid, hlayout, hlegible, hops, hfaultless, hread, hsums, htext htiming⟩

end Samples

end Engine

end GpuCounters
