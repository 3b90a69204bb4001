import GpuCounters.Proofs.Engine.Shutdown
import GpuCounters.Proofs.Host.Conservation
import GpuCounters.Proofs.Queue.Protocol

/-!
# Hosts without a driver

While no driver is live, whatever a host asks for comes to nothing: no report is read, written or
summed up, no metric set is made current and no queue is created. All that the other parties are
asked is for a connection, for the platform of a device and for its entry point. No dump is open
then either, so that no file changes, and a run in which no connection is ever made leaves nothing
behind.
-/

namespace GpuCounters

open Storage

variable {P : Driver.Provider} {C : Compute} {α β : Type}

/-! ## Frames -/

/-- Whether an activity only looks for a driver, or for what a queue would be created on. -/
def Activity.isInquiry : Activity → Bool
  | .connect _ | .platformQuery _ | .resolve _ => true
  | _ => false

namespace System

/-- Whether a system is a later one in which nothing but talk has happened, and nothing was asked
but inquiries. -/
structure Fruitless (before after : System P C) : Prop extends Idle before after where
  asked : ∃ activities, Asks activities before after ∧ activities.all Activity.isInquiry

instance : IsPreorder (System P C) Fruitless where
  refl system := ⟨refl_of Idle system, [], by simp [Asks], rfl⟩
  trans _ _ _ h hlast := by
    obtain ⟨activities, hasks, hall⟩ := h.asked
    obtain ⟨more, hmore, hallMore⟩ := hlast.asked
    refine ⟨trans_of Idle h.toIdle hlast.toIdle, activities ++ more, hasks.trans hmore, ?_⟩
    rw [List.all_append, hall, hallMore]
    rfl

/-- Where nothing was asked at all, no work was fruitful. -/
theorem Fruitless.of_spares {before after : System P C} (hidle : Idle before after)
    (hspares : Spares (fun _ ↦ true) before after) : Fruitless before after :=
  ⟨hidle, [], Asks.of_spares hspares, rfl⟩

/-- Whether no dump is open while no driver is live. -/
def NoStrayDump (system : System P C) : Prop :=
  system.session.active? = none → system.session.dump? = none

theorem NoStrayDump.of_sameLife (watch : Concern → Bool) {before after : System P C}
    (h : SameLife watch before after) : Preserves NoStrayDump before after := by
  intro hbefore hactive
  have hnone : after.dumpPath? = none := by
    rw [h.dumpPath, dumpPath?, hbefore (h.active ▸ hactive)]
    rfl
  exact Option.map_eq_none_iff.1 hnone

end System

open GpuCounters.System GpuCounters.Run

/-! ## Work without a driver -/

section Idle

variable {system : System P C}

/-- Without a driver nothing is asked, and the driver stays what it is. -/
theorem Run.fruitless_withDriver (hactive : system.session.active? = none)
    (act : Active P → Run P C α) :
    (withDriver act system).1 = none ∧ Fruitless system (withDriver act system).2 ∧
      SameDriver system (withDriver act system).2 := by
  obtain ⟨hanswer, hidle, hdriver⟩ := withDriver_of_none hactive act
  exact ⟨hanswer, .of_spares hidle (sameLife_withDriver_of_none hactive act).toSpares, hdriver⟩

namespace Session

theorem fruitless_write (hactive : system.session.active? = none) (label : String)
    (report : Report) :
    (Session.write label report system).1 = false ∧
      Fruitless system (Session.write label report system).2 ∧
      SameDriver system (Session.write label report system).2 := by
  obtain ⟨hanswer, hfruitless⟩ :=
    fruitless_withDriver hactive fun _ ↦ (writeRow label report : Run P C Unit)
  rw [Session.write, bind_apply, hanswer]
  exact ⟨rfl, hfruitless⟩

theorem fruitless_sampleEvent (hactive : system.session.active? = none) (operation : String)
    (event : Event) :
    (sampleEvent operation event system).1 = .noSession ∧
      Fruitless system (sampleEvent operation event system).2 ∧
      SameDriver system (sampleEvent operation event system).2 := by
  obtain ⟨hanswer, hfruitless⟩ :=
    fruitless_withDriver (C := C) hactive (readEvent operation event)
  rw [sampleEvent, bind_apply, hanswer]
  exact ⟨rfl, hfruitless⟩

theorem fruitless_drainStream (hactive : system.session.active? = none) :
    (drainStream system).1 = 0 ∧ Fruitless system (drainStream system).2 ∧
      SameDriver system (drainStream system).2 := by
  obtain ⟨hanswer, hfruitless⟩ := fruitless_withDriver (C := C) hactive drainActive
  rw [drainStream, bind_apply, hanswer]
  exact ⟨rfl, hfruitless⟩

/-- A request that does not start a session has asked for a connection in vain. -/
theorem fruitless_ensureInitialized (hactive : system.session.active? = none)
    {request : Driver.Request} (hfailed : (ensureInitialized request system).1 ≠ .ok ()) :
    (∃ cause, (ensureInitialized request system).1 = .error (.driverUnavailable cause)) ∧
      Fruitless system (ensureInitialized request system).2 ∧
      (ensureInitialized request system).2.driver = (P.connect request system.driver).state := by
  have hstart : ensureInitialized request system = start request system := by
    rw [ensureInitialized, bind_apply, session_apply, hactive]
  rw [hstart] at hfailed ⊢
  cases hconnect : (P.connect request system.driver).result with
  | ok connection => exact absurd (start_of_ok hconnect).1 hfailed
  | error cause =>
    obtain ⟨log, calls, hfailure⟩ := start_of_error (C := C) hconnect
    have hlater := later_start (C := C) request system
    rw [hfailure] at hlater ⊢
    exact ⟨⟨cause, rfl⟩, ⟨⟨⟨hlater, rfl, rfl, rfl⟩, rfl, rfl⟩, [.connect request],
      Array.toList_push, rfl⟩, rfl⟩

/-- Without a driver and a dump there is nothing to close. -/
theorem fruitless_close (hactive : system.session.active? = none)
    (hdump : system.session.dump? = none) :
    Fruitless system (Session.close system).2 ∧ SameDriver system (Session.close system).2 := by
  have hclosed : (closeDump system).2 = system := closeDump_of_none hdump
  have hleft : (disconnect system).2 = system := by
    rw [disconnect, bind_apply, session_apply, hactive]
    rfl
  have hclose : (Session.close system).2 =
      { system with session := { system.session with missingReported := false } } := by
    rw [Session.close, bind_apply, hclosed, bind_apply, hleft]
    rfl
  rw [hclose]
  exact ⟨.of_spares ⟨⟨⟨rfl, rfl, List.prefix_refl _⟩, rfl, rfl, rfl⟩, rfl, rfl⟩
    ⟨rfl, fun _ ↦ rfl⟩, rfl⟩

end Session

/-! ## Queues -/

namespace Queue

/-- Whether a queue was not created because something was not there for it. -/
inductive Error.IsAbsence : Error → Prop
  | rejected (refusal : Refusal) : IsAbsence (.rejected refusal)
  | platformQuery (device : Device) (status : Status) : IsAbsence (.platformQuery device status)
  | entryPointMissing (platform : Platform) : IsAbsence (.entryPointMissing platform)
  | uninitialized : IsAbsence .uninitialized

theorem all_isInquiry_lookUp (platform : Platform)
    (known : List (Platform × Option C.EntryPoint)) (compute : C.State) :
    (lookUp platform known compute).asked.all Activity.isInquiry := by
  rw [lookUp]
  split <;> rfl

/-- Without a driver a creation ends before the activation, whatever its protocol has come to. -/
theorem fruitless_create (hactive : system.session.active? = none) (context : Context)
    (device : Device) (bits : Bits) :
    (∃ cause : Error, (create context device bits system).1 = .error cause ∧ cause.IsAbsence) ∧
      Fruitless system (create context device bits system).2 ∧
      SameDriver system (create context device bits system).2 := by
  obtain ⟨outcome, hprotocol, hresult, hasks, reported, activities, log, calls, hafter⟩ :=
    create_follows context device bits system
  have hidle := idle_create context device bits system
  have hdriver : (create context device bits system).2.driver = outcome.driver := by rw [hafter]
  have hinquiries : ∀ {platform : Platform} {found : Lookup C},
      LooksUp device system platform found →
        (Activity.platformQuery device :: found.asked).all Activity.isInquiry := by
    rintro platform found ⟨-, rfl⟩
    rw [List.all_cons, all_isInquiry_lookUp]
    rfl
  rw [hresult]
  cases hprotocol with
  | unknownPlatform status answer =>
    exact ⟨⟨_, rfl, .platformQuery device status⟩, ⟨hidle, _, hasks, rfl⟩, hdriver⟩
  | missing platform found looks lacks =>
    exact ⟨⟨_, rfl, .entryPointMissing platform⟩, ⟨hidle, _, hasks, hinquiries looks⟩, hdriver⟩
  | uninitialized platform found entry looks has idle =>
    exact ⟨⟨_, rfl, .uninitialized⟩, ⟨hidle, _, hasks, hinquiries looks⟩, hdriver⟩
  | notActivated platform found entry active cause looks has live answer =>
    rw [hactive] at live
    cases live
  | called platform found entry active configuration made looks has live answer current call =>
    rw [hactive] at live
    cases live

theorem fruitless_createWithProperties (hactive : system.session.active? = none)
    (context : Context) (device : Device) (properties : Option (List UInt64)) :
    (∃ cause : Error, (createWithProperties context device properties system).1 = .error cause ∧
        cause.IsAbsence) ∧
      Fruitless system (createWithProperties context device properties system).2 ∧
      SameDriver system (createWithProperties context device properties system).2 := by
  rw [createWithProperties]
  cases bitsOf properties with
  | ok bits => exact fruitless_create hactive context device bits
  | error refusal =>
    have hsaid : Keeps Idle (do
        Run.log (.propertiesRejected refusal)
        Run.count fun counts ↦ { counts with rejected := counts.rejected + 1 } : Run P C Unit) :=
      Keeps.bind (idle_log _) fun _ ↦ idle_count _
    exact ⟨⟨_, rfl, .rejected refusal⟩, .of_spares (hsaid system) ⟨rfl, fun _ ↦ rfl⟩, rfl⟩

end Queue

/-! ## Engines -/

namespace Engine

variable (settings : Settings)

theorem fruitless_prepareQueue (hactive : system.session.active? = none)
    (hfailed : (Session.ensureInitialized settings.request system).1 ≠ .ok ()) :
    Fruitless system (prepareQueue settings system).2 ∧
      (prepareQueue settings system).2.driver =
        (P.connect settings.request system.driver).state := by
  obtain ⟨⟨cause, hanswer⟩, hfruitless, hdriver⟩ :=
    Session.fruitless_ensureInitialized hactive hfailed
  have hlog : Fruitless (Session.ensureInitialized settings.request system).2
      (Run.log (.sessionNotStarted (.driverUnavailable cause))
        (Session.ensureInitialized settings.request system).2).2 :=
    .of_spares (idle_log _ _) (sameLife_log _ _).toSpares
  rw [prepareQueue, bind_apply, Engine.start, hanswer]
  exact ⟨trans_of Fruitless hfruitless hlog, hdriver⟩

theorem fruitless_completeWork (hactive : system.session.active? = none) (operation : String)
    (event : Event) :
    Fruitless system (completeWork settings operation event system).2 ∧
      SameDriver system (completeWork settings operation event system).2 := by
  unfold completeWork
  cases settings.sampling with
  | event => exact (Session.fruitless_sampleEvent hactive operation event).2
  | time => exact (Session.fruitless_drainStream hactive).2

theorem fruitless_shutdown (hactive : system.session.active? = none)
    (hdump : system.session.dump? = none) :
    (Engine.shutdown settings system).1 = settings.summary? system.session.aggregator ∧
      Fruitless system (Engine.shutdown settings system).2 ∧
      SameDriver system (Engine.shutdown settings system).2 := by
  obtain ⟨hidle, hanswer⟩ := shutdown_spec settings system
  obtain ⟨hclosed, hdriver⟩ := Session.fruitless_close hactive hdump
  obtain ⟨log, hlog⟩ := exists_shutdown settings system
  rw [finalDrain_of_none hactive] at hidle hlog
  have hlast : Fruitless (Session.close system).2 (Engine.shutdown settings system).2 := by
    refine .of_spares hidle ?_
    rw [hlog]
    exact ⟨rfl, fun _ ↦ rfl⟩
  have hfruitless := trans_of Fruitless hclosed hlast
  refine ⟨by rw [hanswer, hfruitless.aggregator], hfruitless, ?_⟩
  rw [hlog]
  exact hdriver

end Engine

end Idle

/-! ## Hosts -/

namespace Host

variable {settings : Settings} {system : System P C}

/-- What the driver is after an operation that is done without a live one: nothing but a connection
is asked of it. -/
def Op.driverAfter (settings : Settings) (op : Op P C) (driver : P.State) : P.State :=
  match op with
  | .session (.outside change _) | .engine (.outside change _) => change driver
  | op =>
    match op.request? settings with
    | some request => (P.connect request driver).state
    | none => driver

/-- Whether an answer is that of an operation without a driver; a summary is the given one. -/
def Answer.IsNothing (summary : Option String) : Answer → Prop
  | .started result => ∃ cause, result = .error (.driverUnavailable cause)
  | .written live => live = false
  | .sampled outcome => outcome = .noSession
  | .drained reports => reports = 0
  | .created result => ∃ cause : Queue.Error, result = .error cause ∧ cause.IsAbsence
  | .summary text => text = summary
  | .silent => True

/-- Whether an operation comes to nothing: by its answer, and by what it does. -/
structure Op.IsVain (settings : Settings) (op : Op P C) (system : System P C) : Prop where
  answer : (op.ask settings system).1.IsNothing
    (settings.summary? system.session.aggregator)
  fruitless : Fruitless system (op.ask settings system).2
  driver : (op.ask settings system).2.driver = op.driverAfter settings system.driver

section Vain

variable (settings) (hactive : system.session.active? = none)
  (hdump : system.session.dump? = none)

include hactive

theorem isVain_start {request : Driver.Request}
    (hfailed : (Session.ensureInitialized request system).1 ≠ .ok ()) :
    Op.IsVain settings (.session (.start request)) system := by
  obtain ⟨hanswer, hfruitless, hdriver⟩ := Session.fruitless_ensureInitialized hactive hfailed
  exact ⟨hanswer, hfruitless, hdriver⟩

theorem isVain_sample (operation : String) (event : Event) :
    Op.IsVain settings (.session (.sample operation event)) system := by
  obtain ⟨hanswer, hfruitless, hdriver⟩ :=
    Session.fruitless_sampleEvent hactive operation event
  exact ⟨hanswer, hfruitless, hdriver⟩

theorem isVain_drain : Op.IsVain settings (.session .drain) system := by
  obtain ⟨hanswer, hfruitless, hdriver⟩ := Session.fruitless_drainStream hactive
  exact ⟨hanswer, hfruitless, hdriver⟩

omit hactive in
theorem isVain_outside (driver : P.State → P.State) (compute : C.State → C.State) :
    Op.IsVain settings (.session (.outside driver compute)) system :=
  ⟨trivial, .of_spares ⟨⟨⟨rfl, rfl, List.prefix_refl _⟩, rfl, rfl, rfl⟩, rfl, rfl⟩
    ⟨rfl, fun _ ↦ rfl⟩, rfl⟩

/-- An engine that creates a queue has first tried to start its session, and is still without a
driver. -/
theorem isVain_createQueue
    (hfailed : (Session.ensureInitialized settings.request system).1 ≠ .ok ()) (context : Context)
    (device : Device) (bits : Queue.Bits) :
    Op.IsVain settings (.engine (.createQueue context device bits)) system := by
  obtain ⟨hprepared, hdriver⟩ := Engine.fruitless_prepareQueue settings hactive hfailed
  obtain ⟨hanswer, hcreated, hsame⟩ :=
    Queue.fruitless_create (hprepared.active.trans hactive) context device bits
  exact ⟨hanswer, trans_of Fruitless hprepared hcreated, hsame.trans hdriver⟩

theorem isVain_createQueueWithProperties
    (hfailed : (Session.ensureInitialized settings.request system).1 ≠ .ok ()) (context : Context)
    (device : Device) (properties : Option (List UInt64)) :
    Op.IsVain settings (.engine (.createQueueWithProperties context device properties)) system := by
  obtain ⟨hprepared, hdriver⟩ := Engine.fruitless_prepareQueue settings hactive hfailed
  obtain ⟨hanswer, hcreated, hsame⟩ :=
    Queue.fruitless_createWithProperties (hprepared.active.trans hactive) context device properties
  exact ⟨hanswer, trans_of Fruitless hprepared hcreated, hsame.trans hdriver⟩

include hdump

/-- Without a driver every operation comes to nothing, unless it makes the session live. -/
theorem isVain (op : Op P C) (hfailed : ∀ request ∈ op.request? settings,
      (Session.ensureInitialized request system).1 ≠ .ok ()) :
    op.IsVain settings system := by
  cases op with
  | session op =>
    cases op with
    | start request => exact isVain_start settings hactive (hfailed request rfl)
    | write label report =>
      obtain ⟨hanswer, hfruitless, hdriver⟩ := Session.fruitless_write hactive label report
      exact ⟨hanswer, hfruitless, hdriver⟩
    | sample operation event => exact isVain_sample settings hactive operation event
    | drain => exact isVain_drain settings hactive
    | close =>
      obtain ⟨hfruitless, hdriver⟩ := Session.fruitless_close hactive hdump
      exact ⟨trivial, hfruitless, hdriver⟩
    | outside driver compute => exact isVain_outside settings driver compute
  | createQueue context device bits =>
    obtain ⟨hanswer, hfruitless, hdriver⟩ := Queue.fruitless_create hactive context device bits
    exact ⟨hanswer, hfruitless, hdriver⟩
  | createQueueWithProperties context device properties =>
    obtain ⟨hanswer, hfruitless, hdriver⟩ :=
      Queue.fruitless_createWithProperties hactive context device properties
    exact ⟨hanswer, hfruitless, hdriver⟩
  | engine op =>
    cases op with
    | start =>
      obtain ⟨hanswer, hfruitless, hdriver⟩ :=
        isVain_start settings hactive (hfailed settings.request rfl)
      exact ⟨hanswer, hfruitless, hdriver⟩
    | createQueue context device bits =>
      exact isVain_createQueue settings hactive (hfailed settings.request rfl) context device bits
    | createQueueWithProperties context device properties =>
      exact isVain_createQueueWithProperties settings hactive (hfailed settings.request rfl) context
        device properties
    | sample operation event =>
      obtain ⟨hanswer, hfruitless, hdriver⟩ :=
        isVain_sample settings hactive operation event
      exact ⟨hanswer, hfruitless, hdriver⟩
    | completeWork operation event =>
      obtain ⟨hfruitless, hdriver⟩ :=
        Engine.fruitless_completeWork settings hactive operation event
      exact ⟨trivial, hfruitless, hdriver⟩
    | drain =>
      obtain ⟨hanswer, hfruitless, hdriver⟩ := isVain_drain settings hactive
      exact ⟨hanswer, hfruitless, hdriver⟩
    | report => exact ⟨rfl, refl_of Fruitless system, rfl⟩
    | shutdown =>
      obtain ⟨hanswer, hfruitless, hdriver⟩ :=
        Engine.fruitless_shutdown settings hactive hdump
      exact ⟨hanswer, hfruitless, hdriver⟩
    | outside driver compute =>
      have hvain : Op.IsVain settings (.session (.outside driver compute)) system :=
        isVain_outside settings driver compute
      exact ⟨hvain.answer, hvain.fruitless, hvain.driver⟩

end Vain

/-! ## Dumps and drivers -/

theorem noStrayDump_ensureInitialized (request : Driver.Request) :
    Keeps (Preserves NoStrayDump)
      (Session.ensureInitialized request : Run P C (Except Session.Error Unit)) := by
  intro system hsystem hactive
  have hstarted := Session.started_ensureInitialized hsystem request
  revert hstarted hactive
  generalize (Session.ensureInitialized request system).1 = result
  generalize (Session.ensureInitialized request system).2 = after
  intro hactive hstarted
  cases hstarted with
  | kept active live same => exact hsystem hactive
  | refused active live other => exact hsystem hactive
  | failed cause log calls idle answer => exact hsystem idle
  | live connection after idle answer active asks path =>
    rw [hactive] at active
    cases active

/-- An invariant of a life, of its start and of its end is kept to by all that a host asks for. -/
theorem keepsParts_of_sameLife (settings : Settings) {invariant : System P C → Prop}
    (hsame : ∀ before after, SameLife Session.ofLife before after →
      Preserves invariant before after)
    (hstart : ∀ request, Keeps (Preserves invariant)
      (Session.ensureInitialized request : Run P C (Except Session.Error Unit)))
    (hclose : Keeps (Preserves invariant) (Session.close : Run P C Unit)) :
    KeepsParts settings (Preserves invariant) where
  start := hstart settings.request
  ensureInitialized := hstart
  write label report system := hsame _ _ (Session.sameLife_write label report system)
  create context device bits system :=
    hsame _ _ (Queue.sameLife_create rfl context device bits system)
  createWithProperties context device properties system :=
    hsame _ _ (Queue.sameLife_createWithProperties rfl context device properties system)
  sample operation event system :=
    hsame _ _ (Session.sameLife_sampleEvent rfl operation event system)
  drain system := hsame _ _ (Session.sameLife_drainStream rfl system)
  close := hclose
  log event system := hsame _ _ (sameLife_log event system)
  outside _ _ _ := hsame _ _ (sameLife_of_eq rfl rfl rfl rfl)

/-- A dump is opened with a driver and given up with it. -/
theorem keepsParts_noStrayDump (settings : Settings) :
    KeepsParts settings (Preserves (NoStrayDump (P := P) (C := C))) :=
  keepsParts_of_sameLife settings (fun _ _ ↦ .of_sameLife Session.ofLife)
    noStrayDump_ensureInitialized fun system _ _ ↦ (Session.close_asks system).2

/-! ## Runs -/

/-- What the requests for a connection come to that an operation makes. -/
def Op.connects (settings : Settings) (op : Op P C) (system : System P C) :
    List (Except Driver.Error P.Connection) :=
  match op.request? settings, system.session.active? with
  | some request, none => [(P.connect request system.driver).result]
  | _, _ => []

/-- Whether a run has left nothing behind. The disk is what others have made of it. -/
structure LeavesNothing (settings : Settings) (steps : List ((Disk → Disk) × Op P C))
    (before after : System P C) : Prop where
  active : after.session.active? = none
  dump : after.session.dump? = none
  aggregator : after.session.aggregator = .empty
  disk : after.disk = steps.foldl (fun disk step ↦ step.1 disk) before.disk
  asked : ∃ activities, Asks activities before after ∧ activities.all Activity.isInquiry
  answers : ∀ answer ∈ gather settings (fun op system ↦ [(op.ask settings system).1]) steps before,
    answer.IsNothing none

theorem summary?_empty (settings : Settings) : settings.summary? .empty = none := by
  unfold Settings.summary?
  split
  · exact (Summary.table?_eq_none_iff _).2 rfl
  · rfl

theorem ne_ok_of_connects {op : Op P C} (hactive : system.session.active? = none)
    (hfailed : ∀ result ∈ op.connects settings system, ∀ connection, result ≠ .ok connection) :
    ∀ request ∈ op.request? settings,
      (Session.ensureInitialized request system).1 ≠ .ok () := by
  intro request hrequest hok
  have hstart : Session.ensureInitialized request system = Session.start request system := by
    rw [Session.ensureInitialized, bind_apply, session_apply, hactive]
  rw [hstart] at hok
  cases hconnect : (P.connect request system.driver).result with
  | error cause =>
    obtain ⟨log, calls, hfailure⟩ := Session.start_of_error (C := C) hconnect
    rw [hfailure] at hok
    cases hok
  | ok connection =>
    refine hfailed _ ?_ connection hconnect
    rw [Op.connects, Option.mem_def.1 hrequest, hactive]
    exact List.mem_singleton_self _

/-- The induction is on the steps: without a driver each of them is vain, and the next one finds no
driver either. -/
theorem leavesNothing_amid {steps : List ((Disk → Disk) × Op P C)}
    (hactive : system.session.active? = none) (hdump : system.session.dump? = none)
    (haggregator : system.session.aggregator = .empty)
    (hfailed : ∀ result ∈ gather settings (Op.connects settings) steps system,
      ∀ connection, result ≠ .ok connection) :
    LeavesNothing settings steps system (Run.amid (Op.ask settings) steps system) := by
  induction steps generalizing system with
  | nil =>
    exact ⟨hactive, hdump, haggregator, rfl, (refl_of Fruitless system).asked, by simp [gather]⟩
  | cons step steps ih =>
    obtain ⟨change, op⟩ := step
    let changed : System P C := { system with disk := change system.disk }
    obtain ⟨hhere, hlater⟩ := List.forall_mem_append.1 hfailed
    have hidle : changed.session.active? = none := hactive
    obtain ⟨hanswer, hfruitless, -⟩ :=
      isVain settings hidle hdump op (ne_ok_of_connects hidle hhere)
    have hsummary : settings.summary? changed.session.aggregator = none := by
      rw [show changed.session.aggregator = .empty from haggregator, summary?_empty]
    rw [hsummary] at hanswer
    have hrest := ih (hfruitless.active.trans hactive) (hfruitless.dump.trans hdump)
      (hfruitless.aggregator.trans haggregator) hlater
    obtain ⟨activities, hasks, hall⟩ := hfruitless.asked
    obtain ⟨more, hmore, hallMore⟩ := hrest.asked
    exact {
      active := hrest.active
      dump := hrest.dump
      aggregator := hrest.aggregator
      disk := by
        rw [amid_cons, hrest.disk, hfruitless.disk]
        rfl
      asked := by
        refine ⟨activities ++ more, Asks.trans hasks hmore, ?_⟩
        rw [List.all_append, hall, hallMore]
        rfl
      answers := by
        rw [gather]
        exact List.forall_mem_append.2 ⟨List.forall_mem_singleton.2 hanswer, hrest.answers⟩ }

/-- While no driver is live, after whatever lives and attempts and whatever has happened to the
disk, every operation that does not make the session live comes to nothing. So a run in which every
connection fails leaves nothing behind, and has no summary in the end. -/
theorem isVain_amid {system : System P C} (hsession : system.session = {}) (settings : Settings)
    (steps : List ((Disk → Disk) × Op P C)) :
    let now := Run.amid (Op.ask settings) steps system
    (now.session.active? = none → ∀ op : Op P C,
      (∀ request ∈ op.request? settings, (Session.ensureInitialized request now).1 ≠ .ok ()) →
        op.IsVain settings now) ∧
      ((∀ result ∈ gather settings (Op.connects settings) steps system,
          ∀ connection, result ≠ .ok connection) →
        LeavesNothing settings steps system now ∧ (Engine.shutdown settings now).1 = none) := by
  intro now
  have hfresh : system.session.active? = none ∧ system.session.dump? = none ∧
      system.session.aggregator = .empty := by
    rw [hsession]
    exact ⟨rfl, rfl, rfl⟩
  have hstray : NoStrayDump now :=
    Keeps.amid (fun _ _ ↦ id) (keepsParts_noStrayDump settings).ask steps system
      fun _ ↦ hfresh.2.1
  constructor
  · intro hactive op hfailed
    exact isVain settings hactive (hstray hactive) op hfailed
  · intro hfailed
    have hnothing := leavesNothing_amid hfresh.1 hfresh.2.1 hfresh.2.2 hfailed
    obtain ⟨hanswer, -, -⟩ :=
      Engine.fruitless_shutdown settings hnothing.active hnothing.dump
    refine ⟨hnothing, ?_⟩
    rw [hanswer, hnothing.aggregator, summary?_empty]

/-- A life in which one sample is dumped and summed up. -/
def pastLife :
    List ((Disk → Disk) × Op (Driver.scripted (some Engine.kernelScript)) Compute.simulated) :=
  [(id, .session (.outside id fun _ ↦ { twoPlatforms with events := Engine.kernelEvents.events })),
    (id, .engine .start), (id, .engine (.sample "copy" ⟨1⟩)), (id, .session .close)]

/-- A system without any driver, on an empty disk. -/
def driverless : System (Driver.scripted none) Compute.simulated where
  driver := ({} : Driver.Scripted.State)
  compute := twoPlatforms
  disk := .empty
  dumpRoot := ⟨"/tmp"⟩
  process := "1"

/-- An engine that creates a queue, completes work, closes, and tries once more. -/
def driverlessSteps : List ((Disk → Disk) × Op (Driver.scripted none) Compute.simulated) :=
  [(id, .engine (.createQueue ⟨1⟩ ⟨1⟩ 0)), (id, .engine (.completeWork "copy" ⟨1⟩)),
    (id, .session .close), (id, .engine .start), (id, .session .drain)]

/-- Behind a life there is one operation summed up and one dump on the disk, and a sample, a
drain and a creation add nothing to them. Without any driver two requests fail. -/
theorem isVain_amid_driverless :
    let past := Run.amid (Op.ask {}) pastLife (Session.scripted Engine.kernelScript)
    let now := Run.amid (Op.ask {}) driverlessSteps driverless
    past.session.active? = none ∧ past.session.aggregator.size = 1 ∧
      past.session.openedDumps.length = 1 ∧
      Op.IsVain {} (.session (.sample "copy" ⟨2⟩)) past ∧ Op.IsVain {} (.session .drain) past ∧
      Op.IsVain {} (.createQueue ⟨1⟩ ⟨1⟩ 0) past ∧
      (gather {} (Op.connects {}) driverlessSteps driverless).length = 2 ∧
      LeavesNothing {} driverlessSteps driverless now ∧ now.disk = .empty ∧
      (Engine.shutdown {} now).1 = none := by
  intro past now
  have hactive : past.session.active?.isNone = true := by decide +kernel
  have hpast : past.session.aggregator.size = 1 ∧ past.session.openedDumps.length = 1 := by
    decide +kernel
  have hrequests : (gather {} (Op.connects {}) driverlessSteps driverless).length = 2 := by
    decide +kernel
  have hrefused : (gather {} (Op.connects {}) driverlessSteps driverless).all (!·.isOk) := by
    decide +kernel
  have hfailed : ∀ result ∈ gather {} (Op.connects {}) driverlessSteps driverless,
      ∀ connection, result ≠ .ok connection := by
    rintro result hresult connection rfl
    exact absurd (List.all_eq_true.1 hrefused _ hresult) (by simp [Except.isOk, Except.toBool])
  have hnew : (Session.scripted Engine.kernelScript).session = {} := rfl
  have hnewDriverless : driverless.session = {} := rfl
  have hvain := (isVain_amid hnew {} pastLife).1 (Option.isNone_iff_eq_none.1 hactive)
  obtain ⟨hnothing, hsummary⟩ := (isVain_amid hnewDriverless {} driverlessSteps).2 hfailed
  have hnone : ∀ op : Op (Driver.scripted (some Engine.kernelScript)) Compute.simulated,
      op.request? {} = none → op.IsVain {} past := by
    intro op hop
    exact hvain op (by simp [hop])
  exact ⟨Option.isNone_iff_eq_none.1 hactive, hpast.1, hpast.2, hnone _ rfl, hnone _ rfl,
    hnone _ rfl, hrequests, hnothing, hnothing.disk, hsummary⟩

end Host

end GpuCounters
