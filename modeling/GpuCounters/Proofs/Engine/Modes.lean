import GpuCounters.Proofs.Engine.Steps
import GpuCounters.Proofs.Engine.StreamDump

/-!
# Sampling modes

An engine samples in the mode of its settings and in no other, whichever sampler it is asked for and
however often its session is started. While it samples a stream, no event is ever read and nothing
is summed up; while it samples events, no stream is ever opened, polled or reset.
-/

namespace GpuCounters

open Storage

variable {P : Driver.Provider} {C : Compute}

/-- What is never asked while a mode is sampled in. -/
def Mode.excludes : Mode → Activity → Bool
  | .event, .openStream _ | .event, .poll | .event, .reset => true
  | .time, .profilingQuery _ | .time, .decode => true
  | _, _ => false

namespace Mode

/-- What a mode excludes is not about queues. -/
theorem concern_ne_queues {mode : Mode} {activity : Activity} (h : mode.excludes activity = true) :
    activity.concern ≠ .queues := by
  cases mode <;> cases activity <;> simp_all [excludes, Activity.concern]

/-- The mode for streams does not exclude what is about streams. -/
theorem concern_ne_stream {activity : Activity} (h : Mode.time.excludes activity = true) :
    activity.concern ≠ .stream := by
  cases activity <;> simp_all [excludes, Activity.concern]

/-- The mode for events does not exclude what is about events. -/
theorem concern_ne_events {activity : Activity} (h : Mode.event.excludes activity = true) :
    activity.concern ≠ .events := by
  cases activity <;> simp_all [excludes, Activity.concern]

/-- What makes a session live in a mode is not excluded by it. -/
theorem excludes_of_mem_startActivities {request : Driver.Request} {activity : Activity}
    (h : activity ∈ Session.startActivities request) : request.mode.excludes activity = false := by
  unfold Session.startActivities at h
  cases hmode : request.mode <;> simp [hmode] at h
  · rw [h]
    rfl
  · rcases h with h | h <;> (rw [h]; rfl)

end Mode

/-! ## Work in the other mode -/

namespace Session

open GpuCounters.System GpuCounters.Run

variable {watch : Concern → Bool} {system : System P C}

/-- Nothing is asked for an event while no events are sampled. -/
theorem sameLife_sampleEvent_of_mode
    (hmode : ∀ active ∈ system.session.active?, active.mode ≠ .event) (operation : String)
    (event : Event) : SameLife watch system (sampleEvent operation event system).2 := by
  rw [sampleEvent, bind_apply]
  cases hactive : system.session.active? with
  | none =>
    obtain ⟨hanswer, -, -⟩ :=
      withDriver_of_none hactive (readEvent (P := P) (C := C) operation event)
    rw [hanswer]
    exact sameLife_withDriver_of_none hactive _
  | some active =>
    rw [withDriver_of_active hactive, readEvent, if_pos (hmode active hactive)]
    exact sameLife_log (.eventInMode active.mode) system

/-- Nothing is asked for a stream while no stream is sampled. -/
theorem sameLife_drainStream_of_mode
    (hmode : ∀ active ∈ system.session.active?, active.mode ≠ .time) :
    SameLife watch system (drainStream system).2 := by
  rw [drainStream, bind_apply]
  cases hactive : system.session.active? with
  | none => exact sameLife_withDriver_of_none hactive _
  | some active =>
    rw [withDriver_of_active hactive, drainActive, if_pos (hmode active hactive)]
    exact sameLife_log (.drainInMode active.mode) system

theorem drainStream_result_of_mode
    (hmode : ∀ active ∈ system.session.active?, active.mode ≠ .time) :
    (drainStream system).1 = 0 := by
  cases hactive : system.session.active? with
  | none => exact (drainStream_of_none hactive).1
  | some active => exact (drainStream_of_event hactive (hmode active hactive)).1

/-- To make a session live does not change its sums. -/
theorem aggregator_ensureInitialized
    (hdump : system.session.active? = none → system.session.dump? = none)
    (request : Driver.Request) :
    (ensureInitialized request system).2.session.aggregator = system.session.aggregator := by
  rw [ensureInitialized, bind_apply, session_apply]
  cases hactive : system.session.active? with
  | some active =>
    dsimp only
    split <;> rfl
  | none =>
    have hspec := start_spec (hdump hactive) request
    cases hconnect : (P.connect request system.driver).result with
    | error cause =>
      rw [hconnect] at hspec
      exact hspec.aggregator
    | ok connection =>
      rw [hconnect] at hspec
      exact hspec.2.2

end Session

/-! ## Engines -/

namespace Engine

open GpuCounters.System GpuCounters.Run Session

/-- Whether an engine has kept to the mode and the metric set of its settings. -/
structure Adheres (settings : Settings) (system : System P C) : Prop where
  live : ∀ active ∈ system.session.active?,
    active.mode = settings.sampling ∧ active.metricSet = settings.metricSet
  /-- A dump is only open while a driver is live -/
  idle : system.session.active? = none → system.dumpPath? = none
  asks : ∀ activity ∈ system.activities.toList, settings.sampling.excludes activity = false
  sums : settings.sampling = .time → system.session.aggregator = .empty

section Adheres

variable {settings : Settings} {watch : Concern → Bool} {before after system : System P C}

theorem Adheres.dump?_eq_none (h : Adheres settings system)
    (hactive : system.session.active? = none) : system.session.dump? = none :=
  Option.map_eq_none_iff.1 (h.idle hactive)

theorem adheres_of_fresh (hsession : system.session = {}) (hactivities : system.activities = #[]) :
    Adheres settings system := by
  constructor
  · rw [hsession]
    rintro active ⟨⟩
  · intro _
    rw [System.dumpPath?, hsession]
    rfl
  · rw [hactivities]
    rintro activity ⟨⟩
  · intro _
    rw [hsession]

/-- Work within a life goes on in the mode if it asks nothing in the concerns of what is
excluded. -/
theorem Adheres.sameLife (h : Adheres settings before) (hsame : SameLife watch before after)
    (hwatch : ∀ activity, settings.sampling.excludes activity = true →
      watch activity.concern = true)
    (hsums : settings.sampling = .time →
      after.session.aggregator = before.session.aggregator) : Adheres settings after := by
  refine ⟨?_, ?_, ?_, fun htime ↦ (hsums htime).trans (h.sums htime)⟩
  · rw [hsame.active]
    exact h.live
  · rw [hsame.active, hsame.dumpPath]
    exact h.idle
  · intro activity hmem
    by_contra hexcluded
    rw [Bool.not_eq_false] at hexcluded
    have hasked : activity ∈ after.asked watch :=
      List.mem_filter.2 ⟨hmem, hwatch activity hexcluded⟩
    rw [hsame.asked] at hasked
    have hnone := h.asks activity (List.mem_filter.1 hasked).1
    rw [hexcluded] at hnone
    cases hnone

theorem Adheres.ensureInitialized (h : Adheres settings before) :
    Adheres settings (Session.ensureInitialized settings.request before).2 := by
  have hstarted := started_ensureInitialized h.dump?_eq_none settings.request
  have hsums := aggregator_ensureInitialized h.dump?_eq_none settings.request
  revert hstarted hsums
  generalize (Session.ensureInitialized settings.request before).1 = answer
  generalize (Session.ensureInitialized settings.request before).2 = after
  intro hstarted hsums
  cases hstarted with
  | kept active live same => exact h
  | refused active live other => exact h
  | failed cause log calls idle answer =>
    refine ⟨h.live, h.idle, ?_, h.sums⟩
    intro activity hmem
    rw [Array.toList_push, List.mem_append, List.mem_singleton] at hmem
    rcases hmem with hmem | rfl
    · exact h.asks activity hmem
    · cases settings.sampling <;> rfl
  | live connection after idle answer active asks path =>
    refine ⟨?_, ?_, ?_, fun htime ↦ hsums.trans (h.sums htime)⟩
    · rw [active]
      rintro _ ⟨⟩
      exact ⟨rfl, rfl⟩
    · rw [active]
      rintro ⟨⟩
    · intro activity hmem
      rw [asks, List.mem_append] at hmem
      rcases hmem with hmem | hmem
      · exact h.asks activity hmem
      · exact Mode.excludes_of_mem_startActivities hmem

theorem Adheres.close (h : Adheres settings before) :
    Adheres settings (Session.close before).2 := by
  obtain ⟨hasks, hdump⟩ := close_asks before
  obtain ⟨-, hactive, haggregator⟩ := close_spec before
  refine ⟨?_, ?_, ?_, fun htime ↦ haggregator.trans (h.sums htime)⟩
  · rw [hactive]
    rintro active ⟨⟩
  · intro _
    rw [System.dumpPath?, hdump]
    rfl
  · intro activity hmem
    rw [hasks, List.mem_append] at hmem
    rcases hmem with hmem | hmem
    · exact h.asks activity hmem
    · unfold outstanding at hmem
      split at hmem
      · obtain rfl := List.mem_singleton.1 hmem
        cases settings.sampling <;> rfl
      · cases hmem

theorem Adheres.sampleEvent (h : Adheres settings before) (operation : String) (event : Event) :
    Adheres settings (Session.sampleEvent operation event before).2 := by
  cases hsampling : settings.sampling with
  | event =>
    have hsame : SameLife (fun concern ↦ concern ≠ .events) before
        (Session.sampleEvent operation event before).2 :=
      sameLife_sampleEvent rfl operation event before
    apply h.sameLife hsame
    · intro activity hexcluded
      rw [hsampling] at hexcluded
      simpa using Mode.concern_ne_events hexcluded
    · simp [hsampling]
  | time =>
    have hmode : ∀ active ∈ before.session.active?, active.mode ≠ .event := by
      intro active hactive
      rw [(h.live active hactive).1, hsampling]
      simp
    have hsame : SameLife (fun _ ↦ true) before (Session.sampleEvent operation event before).2 :=
      sameLife_sampleEvent_of_mode hmode operation event
    apply h.sameLife hsame
    · exact fun _ _ ↦ rfl
    · exact fun _ ↦ (aside_sampleEvent hmode operation event).aggregator

theorem Adheres.drainStream (h : Adheres settings before) :
    Adheres settings (Session.drainStream before).2 := by
  have hsums := (drainStream_spec before).2.aggregator
  cases hsampling : settings.sampling with
  | event =>
    have hmode : ∀ active ∈ before.session.active?, active.mode ≠ .time := by
      intro active hactive
      rw [(h.live active hactive).1, hsampling]
      simp
    have hsame : SameLife (fun _ ↦ true) before (Session.drainStream before).2 :=
      sameLife_drainStream_of_mode hmode
    exact h.sameLife hsame (fun _ _ ↦ rfl) fun _ ↦ hsums
  | time =>
    have hsame : SameLife (fun concern ↦ concern ≠ .stream) before
        (Session.drainStream before).2 := sameLife_drainStream rfl before
    apply h.sameLife hsame
    · intro activity hexcluded
      rw [hsampling] at hexcluded
      simpa using Mode.concern_ne_stream hexcluded
    · exact fun _ ↦ hsums

/-- Creating a queue asks in no concern of what a mode excludes. -/
theorem Adheres.queues (h : Adheres settings before) (hidle : Idle before after)
    (hsame : SameLife (fun concern ↦ concern ≠ .queues) before after) :
    Adheres settings after := by
  apply h.sameLife hsame
  · intro activity hexcluded
    simpa using Mode.concern_ne_queues hexcluded
  · exact fun _ ↦ hidle.aggregator

theorem Adheres.of_eq (h : Adheres settings before)
    (hsession : after.session = before.session)
    (hactivities : after.activities = before.activities) : Adheres settings after := by
  refine ⟨?_, ?_, ?_, ?_⟩
  · rw [hsession]
    exact h.live
  · rw [hsession, System.dumpPath?, hsession]
    exact h.idle
  · rw [hactivities]
    exact h.asks
  · rw [hsession]
    exact h.sums

/-- All that an engine does keeps to its mode. -/
theorem keepsParts_adheres :
    KeepsParts settings (Preserves (Adheres (P := P) (C := C) settings)) where
  start _ h := h.ensureInitialized
  create context device bits system h :=
    h.queues (Queue.idle_create context device bits system)
      (Queue.sameLife_create rfl context device bits system)
  createWithProperties context device properties system h :=
    h.queues (Queue.idle_createWithProperties context device properties system)
      (Queue.sameLife_createWithProperties rfl context device properties system)
  sample operation event _ h := h.sampleEvent operation event
  drain _ h := h.drainStream
  close _ h := h.close
  log _ _ h := h.of_eq rfl rfl
  outside _ _ _ h := h.of_eq rfl rfl

theorem Adheres.amid (h : Adheres settings system) (steps : List ((Disk → Disk) × Op P C)) :
    Adheres settings (Run.amid (Op.run settings) steps system) := by
  have hdisk : ∀ (system : System P C) (disk : Disk),
      Preserves (Adheres settings) system { system with disk } :=
    fun _ _ h ↦ h.of_eq rfl rfl
  exact Keeps.amid hdisk keepsParts_adheres.run steps system h

/-- An engine never asks its session for another mode or metric set. -/
theorem Adheres.start_ne_reconfigured (h : Adheres settings system) (activeMode : Mode)
    (activeSet : String) (requestedMode : Mode) (requestedSet : String) :
    (Engine.start settings system).1 ≠
      .error (.reconfigured activeMode activeSet requestedMode requestedSet) := by
  have hstarted : Started settings.request system (Engine.start settings system).1
      (Engine.start settings system).2 :=
    started_ensureInitialized h.dump?_eq_none settings.request
  revert hstarted
  generalize (Engine.start settings system).1 = answer
  generalize (Engine.start settings system).2 = after
  intro hstarted hanswer
  cases hstarted with
  | refused active live other =>
    obtain ⟨hmode, hset⟩ := h.live active live
    rcases other with hother | hother
    · exact hother hmode
    · exact hother hset
  | kept active live same => cases hanswer
  | failed cause log calls idle answer => cases hanswer
  | live connection after idle answer active asks path => cases hanswer

theorem summary?_of_time (htime : settings.sampling = .time) (aggregator : Summary.Aggregator) :
    settings.summary? aggregator = none := by
  rw [Settings.summary?, Settings.reportsSummary, htime, if_neg (by simp)]

theorem Adheres.notMem_of_excludes (h : Adheres settings system) {activity : Activity}
    (hexcluded : settings.sampling.excludes activity = true) : activity ∉ system.activities := by
  intro hmem
  have hnone := h.asks activity (Array.mem_toList_iff.2 hmem)
  rw [hexcluded] at hnone
  cases hnone

end Adheres

/-- Sampling modes never mix. Whatever an engine was asked for, and whatever has happened to the
disk in between, its live session is that of its settings and its start is never refused. One that
samples a stream has read no event and has nothing summed up; one that samples events has opened,
polled and reset no stream, and has nothing to drain. -/
theorem sampling_is_exclusive (settings : Settings) {system : System P C}
    (hsession : system.session = {}) (hactivities : system.activities = #[])
    (steps : List ((Disk → Disk) × Op P C)) :
    let now := Run.amid (Op.run settings) steps system
    (∀ active ∈ now.session.active?,
        active.mode = settings.sampling ∧ active.metricSet = settings.metricSet) ∧
      (∀ activeMode activeSet requestedMode requestedSet, (Engine.start settings now).1 ≠
        .error (.reconfigured activeMode activeSet requestedMode requestedSet)) ∧
      (settings.sampling = .time →
        now.session.aggregator = .empty ∧
          (∀ event, .profilingQuery event ∉ now.activities) ∧
          .decode ∉ now.activities ∧
          (report? settings now).1 = none ∧
          (Engine.shutdown settings now).1 = none) ∧
      (settings.sampling = .event →
        (∀ parameters, .openStream parameters ∉ now.activities) ∧
          .poll ∉ now.activities ∧
          .reset ∉ now.activities ∧
          (drainStream now).1 = 0) := by
  intro now
  have h : Adheres settings now := (adheres_of_fresh hsession hactivities).amid steps
  refine ⟨h.live, h.start_ne_reconfigured, ?_, ?_⟩
  · intro htime
    have hexcluded : ∀ activity, Mode.time.excludes activity = true →
        activity ∉ now.activities := by
      intro activity hactivity
      rw [← htime] at hactivity
      exact h.notMem_of_excludes hactivity
    refine ⟨h.sums htime, fun event ↦ hexcluded _ rfl, hexcluded _ rfl, ?_, ?_⟩
    · exact summary?_of_time htime now.session.aggregator
    · rw [(shutdown_spec settings now).2]
      exact summary?_of_time htime _
  · intro hevent
    have hexcluded : ∀ activity, Mode.event.excludes activity = true →
        activity ∉ now.activities := by
      intro activity hactivity
      rw [← hevent] at hactivity
      exact h.notMem_of_excludes hactivity
    refine ⟨fun parameters ↦ hexcluded _ rfl, hexcluded _ rfl, hexcluded _ rfl, ?_⟩
    apply drainStream_result_of_mode
    intro active hactive
    rw [(h.live active hactive).1, hevent]
    simp

/-- An engine after two streams. Its disk is emptied before each operation. -/
def pulsed : System (Driver.scripted (some pulseScript)) Compute.simulated :=
  Run.amid (Op.run { sampling := .time }) (pulseOps.map fun op ↦ (fun _ ↦ .empty, op))
    (scripted pulseScript)

/-- An engine after the events of two lives. Its disk is emptied before each operation. -/
def kernelsSampled : System (Driver.scripted (some kernelScript)) Compute.simulated :=
  Run.amid (Op.run {}) (twoKernels.map fun op ↦ (fun _ ↦ .empty, op)) (scripted kernelScript)

/-- Three reports of a stream leave nothing summed up although an event was to be sampled, and three
reports of events leave no stream although one was to be drained. -/
theorem sampling_is_exclusive_pulse :
    (scripted pulseScript).session = {} ∧ (scripted pulseScript).activities = #[] ∧
      (scripted kernelScript).session = {} ∧ (scripted kernelScript).activities = #[] ∧
      pulsed.mode? = some .time ∧ pulsed.telemetry.streamReports = 3 ∧
      pulsed.session.aggregator = .empty ∧ .decode ∉ pulsed.activities ∧
      kernelsSampled.mode? = some .event ∧ kernelsSampled.telemetry.eventReports = 3 ∧
      .poll ∉ kernelsSampled.activities ∧ (drainStream kernelsSampled).1 = 0 := by
  have hstream : (scripted pulseScript).session = {} := rfl
  have hstreamed : (scripted pulseScript).activities = #[] := rfl
  have hevents : (scripted kernelScript).session = {} := rfl
  have hsampled : (scripted kernelScript).activities = #[] := rfl
  have hmodes : pulsed.mode? = some .time ∧ kernelsSampled.mode? = some .event := by
    decide +kernel
  have hreports : pulsed.telemetry.streamReports = 3 ∧
      kernelsSampled.telemetry.eventReports = 3 := by
    decide +kernel
  obtain ⟨-, -, htime, -⟩ := sampling_is_exclusive { sampling := .time } hstream hstreamed
    (pulseOps.map fun op ↦ (fun _ ↦ .empty, op))
  obtain ⟨haggregator, -, hdecode, -⟩ := htime rfl
  obtain ⟨-, -, -, hevent⟩ := sampling_is_exclusive {} hevents hsampled
    (twoKernels.map fun op ↦ (fun _ ↦ .empty, op))
  obtain ⟨-, hpoll, -, hdrain⟩ := hevent rfl
  unfold pulsed kernelsSampled at hmodes hreports ⊢
  exact ⟨hstream, hstreamed, hevents, hsampled, hmodes.1, hreports.1, haggregator, hdecode,
    hmodes.2, hreports.2, hpoll, hdrain⟩

end Engine

end GpuCounters
