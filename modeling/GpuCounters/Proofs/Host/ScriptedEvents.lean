import GpuCounters.Proofs.Driver.Words
import GpuCounters.Proofs.Host.SampledEvents
import GpuCounters.Proofs.Host.WithoutDriver

/-!
# Events under a script

The live connection of a session is the one that was asked for last, so that its reports have the
greatest values exactly if these were asked for then. Under a script that decodes something, the
sample of an event records one word of its bytes for each metric, however many bytes there are.
-/

namespace GpuCounters

open Storage GpuCounters.System GpuCounters.Run

variable {P : Driver.Provider} {C : Compute}

/-! ## Connections and their requests -/

namespace System

/-- What was asked to connect to last. -/
def lastRequest? (system : System P C) : Option Driver.Request :=
  (system.activities.toList.filterMap Activity.request?).getLast?

/-- Whether the live connection, if there is one, is what was asked for last. Without one no dump is
open. -/
structure IsRequested (system : System P C) : Prop where
  live : ∀ active ∈ system.session.active?, ∃ request state,
    system.lastRequest? = some request ∧ active.mode = request.mode ∧
      active.metricSet = request.metricSet ∧
      (P.connect request state).result = .ok active.connection
  idle : NoStrayDump system

section IsRequested

variable {before after : System P C}

theorem lastRequest?_of_sameLife (h : SameLife Session.ofLife before after) :
    after.lastRequest? = before.lastRequest? := by
  have hother : ∀ activity : Activity, Session.ofLife activity.concern = false →
      activity.request? = none := fun _ ↦ Session.request?_of_concern
  rw [lastRequest?, lastRequest?, ← filterMap_asked hother, ← filterMap_asked hother, h.asked]

theorem lastRequest?_of_started {request : Driver.Request}
    (h : Asks (Session.startActivities request) before after) :
    after.lastRequest? = some request := by
  have hlast : (Session.startActivities request).filterMap Activity.request? = [request] := by
    unfold Session.startActivities
    split <;> rfl
  have hasks : after.activities.toList =
      before.activities.toList ++ Session.startActivities request := h
  rw [lastRequest?, hasks, List.filterMap_append, hlast, List.getLast?_concat]

/-- Work within a life leaves the connection and its request. -/
theorem IsRequested.of_sameLife (h : SameLife Session.ofLife before after) :
    Preserves IsRequested before after := by
  intro hbefore
  refine ⟨?_, NoStrayDump.of_sameLife Session.ofLife h hbefore.idle⟩
  rw [h.active, lastRequest?_of_sameLife h]
  exact hbefore.live

theorem IsRequested.of_idle (hactive : after.session.active? = none)
    (hdump : after.session.dump? = none) : IsRequested after := by
  refine ⟨?_, fun _ ↦ hdump⟩
  rw [hactive]
  rintro active ⟨⟩

theorem isRequested_of_fresh (hsession : after.session = {}) : IsRequested after :=
  .of_idle (congrArg Session.active? hsession) (congrArg Session.dump? hsession)

end IsRequested

end System

namespace Host

theorem isRequested_ensureInitialized (request : Driver.Request) :
    Keeps (Preserves IsRequested)
      (Session.ensureInitialized request : Run P C (Except Session.Error Unit)) := by
  intro system hsystem
  have hidle := noStrayDump_ensureInitialized (C := C) request system hsystem.idle
  have hstarted := Session.started_ensureInitialized hsystem.idle request
  revert hstarted hidle
  generalize (Session.ensureInitialized request system).1 = result
  generalize (Session.ensureInitialized request system).2 = after
  intro hidle hstarted
  cases hstarted with
  | kept active live same => exact hsystem
  | refused active live other => exact hsystem
  | failed cause log calls idle answer => exact .of_idle idle (hsystem.idle idle)
  | live connection after idle answer active asks path =>
    refine ⟨?_, hidle⟩
    rw [active]
    rintro _ ⟨⟩
    exact ⟨request, system.driver, lastRequest?_of_started asks, rfl, rfl, answer⟩

/-- Every connection is made by a request, and none is asked for while one is live. -/
theorem isRequested_amid {system : System P C} (hsession : system.session = {})
    (settings : Settings) (steps : List ((Disk → Disk) × Op P C)) :
    IsRequested (Run.amid (Op.ask settings) steps system) := by
  have hclose : Keeps (Preserves IsRequested) (Session.close : Run P C Unit) :=
    fun system _ ↦ .of_idle (Session.close_spec system).2.1 (Session.close_asks system).2
  have hparts : KeepsParts settings (Preserves (IsRequested (P := P) (C := C))) :=
    keepsParts_of_sameLife settings (fun _ _ ↦ .of_sameLife) isRequested_ensureInitialized hclose
  have hdisk : ∀ (system : System P C) (disk : Disk),
      Preserves IsRequested system { system with disk } :=
    fun _ _ ↦ .of_sameLife (sameLife_of_eq rfl rfl rfl rfl)
  exact Keeps.amid hdisk hparts.ask steps system (isRequested_of_fresh hsession)

/-! ## Samples under a script -/

section Scripted

variable {script : Driver.Script}
  {system : System (Driver.scripted (some script)) Compute.simulated}

/-- What a scripted driver makes of an event is the report of the bytes that were attached. -/
theorem reading?_scripted (hdecodes : script.decodesNothing = false)
    {active : Active (Driver.scripted (some script))} {request : Driver.Request}
    {state : Driver.Scripted.State} {event : Event} {payload : ByteArray}
    (hactive : system.session.active? = some active) (hmode : active.mode = .event)
    (hconnect : ((Driver.scripted (some script)).connect request state).result =
      .ok active.connection)
    (hpayload : system.compute.events.lookup event = some (.ok payload)) :
    Session.reading? event system = some (.ok (script.attached request.includeMax payload)) := by
  have hconnection : active.connection =
      (⟨script, request.includeMax⟩ : Driver.Scripted.Connection) := (Except.ok.inj hconnect).symm
  have hquery : ∀ size, (Compute.simulated.profilingInfo event size system.compute).result =
      .ok ⟨payload.extract 0 size, payload.size⟩ := by
    intro size
    change system.compute.events.query event size = _
    rw [Compute.Events.query, hpayload]
  have hsize : (Driver.scripted (some script)).reportSize active.connection system.driver =
      script.metrics.length * 4 := by
    rw [hconnection]
    rfl
  have hdecode : ∀ bytes, ((Driver.scripted (some script)).decode bytes active.connection
      system.driver).result = script.decode request.includeMax bytes := by
    intro bytes
    rw [hconnection]
    rfl
  rw [Session.reading?_of_event hactive hmode, hquery, hsize, Except.map, hdecode,
    Driver.Script.decode_buffer hdecodes]

/-- Whenever a driver that samples events is live under a script that decodes something, the sample
of an event with any bytes records one number for each metric, in order: the word of the bytes at
its position, with zeros behind their end. It has a greatest value exactly if the live connection
was requested with these. Of bytes that encode numbers these are the numbers themselves. -/
theorem sampleEvent_scripted (hdecodes : script.decodesNothing = false)
    (hmetrics : script.metrics ≠ []) (hsession : system.session = {}) (settings : Settings)
    (steps : List ((Disk → Disk) × Op (Driver.scripted (some script)) Compute.simulated))
    (operation : String) {event : Event} {payload : ByteArray} :
    let now := Run.amid (Op.ask settings) steps system
    now.mode? = some .event → now.compute.events.lookup event = some (.ok payload) →
      ∃ request, now.lastRequest? = some request ∧ request.mode = .event ∧
        (Session.sampleEvent operation event now).1 = .recorded script.metrics.length ∧
        Session.Recorded operation (script.attached request.includeMax payload) now
          (Session.sampleEvent operation event now).2 ∧
        (∀ i, Driver.Script.encodeNumber (wordAt payload i) =
          [byteAt payload (4 * i), byteAt payload (4 * i + 1), byteAt payload (4 * i + 2),
            byteAt payload (4 * i + 3)]) ∧
        ∀ numbers, payload = Driver.Script.encode numbers →
          ∀ i, wordAt payload i = numbers.getD i 0 := by
  intro now hlive hpayload
  obtain ⟨active, hactive, hmode⟩ := Option.map_eq_some_iff.1 hlive
  obtain ⟨request, state, hrequest, hsame, -, hconnect⟩ :=
    (isRequested_amid hsession settings steps).live active hactive
  have hreading : Session.reading? event now =
      some (.ok (script.attached request.includeMax payload)) :=
    reading?_scripted hdecodes hactive hmode hconnect hpayload
  have hlength := script.length_attached request.includeMax payload
  have hvalue : (script.attached request.includeMax payload).isEmpty = false := by
    rw [← Bool.not_eq_true, ← Report.length_eq_zero_iff, hlength, List.length_eq_zero_iff]
    exact hmetrics
  have hall := Session.allOrNothing_sampleEvent operation event now
  refine ⟨request, hrequest, hsame.symm.trans hmode,
    (hall.recorded _).2 ⟨_, hreading, hvalue, hlength⟩, hall.all _ hreading hvalue,
    fun i ↦ Driver.Script.encodeNumber_wordOf _ _ _ _, ?_⟩
  rintro numbers rfl
  exact Driver.Script.wordAt_encode numbers

/-- A life without greatest values, one with them, and an event with one word and a half. -/
def shortSteps : List ((Disk → Disk) ×
    Op (Driver.scripted (some Driver.Script.computeBasic)) Compute.simulated) :=
  [(id, .session (.start (Session.scriptedRequest .event "Basic" false))), (id, .session .close),
    (id, .session (.start (Session.scriptedRequest .event "Basic" true))),
    (id, .session (.start (Session.scriptedRequest .event "Basic" false))),
    (id, .session (.outside id (Compute.Simulated.tell ⟨1⟩ (.ok ⟨#[1, 2, 3, 4, 5, 6]⟩))))]

/-- The second metric has what there is of its word, and the third one has nothing of it. -/
theorem sampleEvent_scripted_short :
    let start := Session.scripted Driver.Script.computeBasic
    let now := Run.amid (Op.ask {}) shortSteps start
    Driver.Script.computeBasic.decodesNothing = false ∧
      Driver.Script.computeBasic.metrics ≠ [] ∧ start.session = {} ∧ now.mode? = some .event ∧
      now.compute.events.lookup ⟨1⟩ = some (.ok ⟨#[1, 2, 3, 4, 5, 6]⟩) ∧
      (Session.sampleEvent "copy" ⟨1⟩ now).1 = .recorded 3 ∧
      Session.Recorded "copy" { metrics := [⟨"GpuTime", .u32 0x04030201, some (.u32 100)⟩,
        ⟨"EuActive", .u32 0x0605, some (.u32 100)⟩, ⟨"EuStall", .u32 0, some (.u32 100)⟩] } now
        (Session.sampleEvent "copy" ⟨1⟩ now).2 := by
  intro start now
  have hsession : start.session = {} := rfl
  have hmetrics : Driver.Script.computeBasic.metrics ≠ [] := by decide
  have hlive : now.mode? = some .event := by decide +kernel
  have hpayload : now.compute.events.lookup ⟨1⟩ = some (.ok ⟨#[1, 2, 3, 4, 5, 6]⟩) := rfl
  have hlast : now.lastRequest? = some (Session.scriptedRequest .event "Basic" true) := by
    decide +kernel
  have hnumbers : Driver.Script.computeBasic.attached true ⟨#[1, 2, 3, 4, 5, 6]⟩ =
      { metrics := [⟨"GpuTime", .u32 0x04030201, some (.u32 100)⟩,
        ⟨"EuActive", .u32 0x0605, some (.u32 100)⟩, ⟨"EuStall", .u32 0, some (.u32 100)⟩] } := by
    decide +kernel
  obtain ⟨request, hrequest, -, houtcome, hrecorded, -⟩ :=
    sampleEvent_scripted rfl hmetrics hsession {} shortSteps "copy" hlive hpayload
  obtain rfl := Option.some.inj (hrequest.symm.trans hlast)
  rw [← hnumbers]
  exact ⟨rfl, hmetrics, hsession, hlive, hpayload, houtcome, hrecorded⟩

end Scripted

end Host

end GpuCounters
