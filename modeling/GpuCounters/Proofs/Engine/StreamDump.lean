import GpuCounters.Proofs.Engine.Shutdown
import GpuCounters.Proofs.Session.Streams

/-!
# The dump of a stream

An engine that samples a stream connects to its driver as often as it is needed, and each
connection has a stream of its own. What was written to the dump, followed by what the live stream
still has, is always the whole of every stream so far. A shutdown drains the stream before it is
given up, so that nothing of it is lost.
-/

namespace GpuCounters.Engine

open Storage GpuCounters.System GpuCounters.Run Session

variable {C : Compute}

/-! ## Streams of an engine -/

section Streams

/-- The layout of the dump of a script's stream. -/
def streamLayout (settings : Settings) (script : Driver.Script) : Dump.Layout :=
  ⟨.time, script.metrics, script.information, settings.includeMax⟩

/-- The row of a report: its further information is that of the driver. -/
def streamRow (settings : Settings) (script : Driver.Script) (report : Report) : Dump.Row :=
  ⟨(streamLayout settings script).rowShape, Mode.time.tag,
    { report with information := script.informationValues }⟩

/-- The dump of a script's stream, if there was one, with the reports that were written to it. -/
def streamVolume? (settings : Settings) (script : Driver.Script) (streams : Nat)
    (written : List Report) : Option Dump.Volume :=
  if streams = 0 then none
  else some ⟨streamLayout settings script, written.map (streamRow settings script)⟩

variable {script? : Option Driver.Script}

/-- What the live stream still has. -/
def remaining (system : System (Driver.scripted script?) C) : List (List Report) :=
  if system.session.active?.isSome then (streamOf system).pending else []

/-- Whether a system has kept to the streams of a script: the reports that were written, followed by
what is left of the live stream, are those of all streams, and the resets, with one more for each
batch that is left, are as many as there are batches in each. -/
structure Streams (settings : Settings) (script : Driver.Script) (base : Disk) (path : Path)
    (system : System (Driver.scripted script?) C) : Prop where
  path_eq : system.dumpFile settings.metricSet = path
  live : ∀ active ∈ system.session.active?, active.mode = .time ∧
    active.connection = (⟨script, settings.includeMax⟩ : Driver.Scripted.Connection) ∧
    (streamOf system).saved = [] ∧ 0 < system.resets.length
  requests : script?.isSome → system.requests = system.resets.length
  resets : system.resets.modifyHead (· + (remaining system).length) =
    List.replicate system.resets.length script.batches.length
  dump : ∃ written,
    (Ledger.single path (streamLayout settings script).rowShape
      (streamVolume? settings script system.resets.length written)
      system.session.active?.isSome).Settles base system ∧
    written ++ (remaining system).flatten =
      (List.replicate system.resets.length script.batches.flatten).flatten

variable {settings : Settings} {script : Driver.Script} {base : Disk} {path : Path}
  {system after : System (Driver.scripted script?) C}

theorem remaining_of_none (h : system.session.active? = none) : remaining system = [] := by
  rw [remaining, h]
  rfl

theorem remaining_of_some {active : Active (Driver.scripted script?)}
    (h : system.session.active? = some active) :
    remaining system = (streamOf system).pending := by
  rw [remaining, h]
  rfl

/-- A fresh engine has had no stream. -/
theorem Streams.of_fresh (hsound : system.disk.Sound) (hfresh : system.session = {})
    (hactivities : system.activities = #[]) :
    Streams settings script system.disk (system.dumpFile settings.metricSet) system := by
  have hactive : system.session.active? = none := congrArg Session.active? hfresh
  have hresets : system.resets = [] := by
    rw [System.resets, hactivities]
    rfl
  have hrequests : system.requests = 0 := by
    rw [System.requests, hactivities]
    rfl
  refine ⟨rfl, by simp [hactive], ?_, by simp [hresets], [], ?_, ?_⟩
  · rw [hresets, hrequests]
    exact fun _ ↦ rfl
  · rw [hresets, hactive]
    have hempty : Ledger.single (system.dumpFile settings.metricSet)
        (streamLayout settings script).rowShape (streamVolume? settings script 0 []) false = {} :=
      Ledger.single_empty _ _
    rw [List.length_nil, Option.isSome_none, hempty]
    exact settles_of_fresh hsound hfresh
  · rw [hresets, remaining_of_none hactive]
    rfl

/-- Talk that neither opens a stream nor resets one leaves the streams as they are. -/
theorem Streams.idle (h : Streams settings script base path system) (hidle : Idle system after)
    (hdriver : SameDriver system after) (hresets : after.resets = system.resets)
    (hrequests : script?.isSome → after.requests = system.requests) :
    Streams settings script base path after := by
  have hstream : streamOf after = streamOf system := hdriver
  have hremaining : remaining after = remaining system := by
    rw [remaining, hidle.active, hstream, remaining]
  obtain ⟨written, hsettles, hwritten⟩ := h.dump
  refine ⟨?_, ?_, ?_, ?_, written, ?_, ?_⟩
  · rw [dumpFile_eq hidle.toLater]
    exact h.path_eq
  · rw [hidle.active, hstream, hresets]
    exact h.live
  · intro hsome
    rw [hresets, hrequests hsome]
    exact h.requests hsome
  · rw [hresets, hremaining]
    exact h.resets
  · rw [hresets, hidle.active]
    refine ⟨hsettles.toDescribes.untouched hidle.toUntouched, ?_⟩
    rw [hidle.active]
    exact hsettles.live
  · rw [hresets, hremaining]
    exact hwritten

theorem Streams.aside (h : Streams settings script base path system)
    (haside : Aside system after) : Streams settings script base path after :=
  h.idle haside.toIdle haside.driver haside.toSpares.resets fun _ ↦ haside.toSpares.requests

/-! ## Starting -/

/-- A connection to a scripted driver has a new stream. -/
theorem streamOf_start (request : Driver.Request)
    (system : System (Driver.scripted (some script)) C) :
    streamOf (Session.start request system).2 = ⟨script.batches, []⟩ := by
  let connection : Driver.Scripted.Connection := ⟨script, request.includeMax⟩
  have hconnected : streamOf (connect request system).2 = ⟨script.batches, []⟩ := by
    rw [streamOf, connect, bind_apply, bind_apply]
    exact driver_askDriver _ _
  have hopened : Keeps SameDriver (openStream connection :
      Run (Driver.scripted (some script)) C Unit) := by
    unfold openStream
    refine Keeps.bind (fun _ ↦ rfl) fun _ ↦
      Keeps.bind (fun _ ↦ driver_askDriver _ _) fun result ↦ ?_
    cases result <;> exact fun _ ↦ rfl
  have hlives : Keeps SameDriver (goLive request connection :
      Run (Driver.scripted (some script)) C (Except Session.Error Unit)) :=
    keeps_goLive (sameDriver_openDump _ _ _) fun _ ↦ rfl
  have hconnect : ((Driver.scripted (some script)).connect request system.driver).result =
      .ok connection := rfl
  rw [← hconnected, start_of_connection hconnect]
  split
  · exact Keeps.bind hopened (fun _ ↦ hlives) _
  · exact hlives _

/-- A first stream makes the dump, and a later one goes on with it. -/
theorem record_opened_streamVolume? (streams : Nat) (written : List Report)
    (hwritten : streams = 0 → written = []) (live : Bool) :
    (Ledger.single path (streamLayout settings script).rowShape
        (streamVolume? settings script streams written) live).record
      (.opened path (streamLayout settings script)) =
        Ledger.single path (streamLayout settings script).rowShape
          (streamVolume? settings script (streams + 1) written) true := by
  unfold streamVolume?
  rw [if_neg (Nat.succ_ne_zero streams)]
  by_cases hnone : streams = 0
  · rw [if_pos hnone, hwritten hnone, Ledger.record_opened_single_none]
    rfl
  · rw [if_neg hnone, Ledger.record_opened_single_some]

/-- A new stream has all of its batches left. -/
theorem Streams.opened (h : Streams settings script base path system)
    (hactive : system.session.active? = none) (hlater : Later system after)
    {active : Active (Driver.scripted script?)} (hlive : after.session.active? = some active)
    (hmode : active.mode = .time)
    (hconnection : active.connection =
      (⟨script, settings.includeMax⟩ : Driver.Scripted.Connection))
    (hstream : streamOf after = ⟨script.batches, []⟩) {request : Driver.Request}
    {parameters : Driver.StreamParameters}
    (hasks : Asks [.connect request, .openStream parameters] system after)
    (hopened : ∀ ledger : Ledger, ledger.Settles base system →
      (ledger.record (.opened path (streamLayout settings script))).Settles base after) :
    Streams settings script base path after := by
  have hresets : after.resets = 0 :: system.resets := hasks.resets
  have hrequests : after.requests = system.requests + 1 := hasks.requests
  have hremaining : remaining after = script.batches := by
    rw [remaining_of_some hlive, hstream]
  -- No stream is live before, so each of the former ones was reset for all of its batches.
  have hcounts : system.resets =
      List.replicate system.resets.length script.batches.length := by
    have hformer := h.resets
    rwa [remaining_of_none hactive, List.length_nil, modifyHead_add_zero] at hformer
  obtain ⟨written, hsettles, hwritten⟩ := h.dump
  rw [remaining_of_none hactive, List.flatten_nil, List.append_nil] at hwritten
  have hempty : system.resets.length = 0 → written = [] := by
    intro hnone
    rw [hwritten, hnone]
    rfl
  refine ⟨?_, ?_, ?_, ?_, written, ?_, ?_⟩
  · rw [dumpFile_eq hlater]
    exact h.path_eq
  · intro found hfound
    rw [hlive] at hfound
    obtain rfl := Option.some.inj hfound
    rw [hstream, hresets]
    exact ⟨hmode, hconnection, rfl, Nat.succ_pos _⟩
  · intro hsome
    rw [hresets, hrequests, h.requests hsome, List.length_cons]
  · rw [hresets, hremaining, List.modifyHead_cons, Nat.zero_add, List.length_cons,
      List.replicate_succ, ← hcounts]
  · have hrecord := hopened _ hsettles
    rw [record_opened_streamVolume? _ _ hempty] at hrecord
    rw [hlive, hresets]
    exact hrecord
  · calc written ++ (remaining after).flatten
      _ = (List.replicate system.resets.length script.batches.flatten).flatten ++
          script.batches.flatten := by rw [hremaining, hwritten]
      _ = (List.replicate (system.resets.length + 1) script.batches.flatten).flatten := by
        rw [List.replicate_succ', List.flatten_append, List.flatten_singleton]
      _ = (List.replicate after.resets.length script.batches.flatten).flatten := by
        rw [hresets, List.length_cons]

/-- The start of a session opens a new stream if none is live and a driver can be connected to. -/
theorem Streams.start (hscript : ∀ other ∈ script?, other = script)
    (htime : settings.sampling = .time) (h : Streams settings script base path system)
    (hfaultless : (ensureInitialized settings.request system).2.IsFaultless) :
    Streams settings script base path (ensureInitialized settings.request system).2 := by
  have hopens : ∀ ledger : Ledger, ledger.Settles base system →
      (ledger.recordAll (Session.Op.entries (.start settings.request) system)).Settles base
        (ensureInitialized settings.request system).2 :=
    fun _ hledger ↦ hledger.start settings.request hfaultless
  have hmode : settings.request.mode = .time := htime
  rw [ensureInitialized, bind_apply, session_apply] at hopens ⊢
  cases hactive : system.session.active? with
  | some active =>
    dsimp only
    split <;> exact h
  | none =>
    obtain ⟨written, hsettles, -⟩ := h.dump
    have hspec := start_spec (hsettles.dump?_eq_none hactive) settings.request
    rw [hactive] at hopens
    dsimp only at hopens ⊢
    rcases script? with _ | other
    -- Without a script no driver can be connected to, and all that is new is the request.
    · have hconnect : ((Driver.scripted none).connect settings.request system.driver).result =
          .error (.libraryUnavailable settings.request.library "scripted failure") := rfl
      obtain ⟨log, calls, hfailed⟩ := start_of_error (C := C) hconnect
      have hasks : Asks [.connect settings.request] system
          (Session.start settings.request system).2 := by
        rw [hfailed]
        exact Array.toList_push
      have hdriver : SameDriver system (Session.start settings.request system).2 := by
        rw [hfailed]
        rfl
      rw [hconnect] at hspec
      exact h.idle hspec hdriver hasks.resets (by simp)
    · obtain rfl := hscript other rfl
      have hconnect : ((Driver.scripted (some other)).connect settings.request
          system.driver).result =
            .ok (⟨other, settings.includeMax⟩ : Driver.Scripted.Connection) := rfl
      have hentries : Session.Op.entries (.start settings.request) system =
          [.opened path (streamLayout settings other)] := by
        rw [Session.Op.entries, hactive, ← h.path_eq]
        dsimp only
        rw [hconnect, hmode]
        rfl
      have hasks : Asks (startActivities settings.request) system
          (Session.start settings.request system).2 := (start_of_ok hconnect).2
      rw [startActivities, if_pos hmode] at hasks
      rw [hconnect] at hspec
      obtain ⟨-, hlive, -⟩ := hspec
      rw [hentries] at hopens
      exact h.opened hactive (later_start settings.request system) hlive hmode rfl
        (streamOf_start settings.request system) hasks hopens

/-! ## Draining -/

/-- The reports that a drain finds are those of the batches in the stream, in order. The induction
is on the batches. -/
theorem streamedReports_of_scripted (connection : Driver.Scripted.Connection)
    (batches : List (List Report)) {fuel : Nat} (hfuel : batches.length < fuel) :
    streamedReports (P := Driver.scripted script?) connection fuel
        (⟨batches, []⟩ : Driver.Scripted.State) =
      batches.flatten.map fun report ↦
        { report with information := connection.script.informationValues } := by
  induction batches generalizing fuel with
  | nil =>
    obtain ⟨fuel, rfl⟩ := Nat.exists_eq_succ_of_ne_zero (Nat.ne_zero_of_lt hfuel)
    rfl
  | cons batch batches ih =>
    obtain ⟨fuel, rfl⟩ := Nat.exists_eq_succ_of_ne_zero (Nat.ne_zero_of_lt hfuel)
    rw [List.flatten_cons, List.map_append, ← ih (Nat.lt_of_succ_lt_succ hfuel)]
    rfl

theorem entries_drain {active : Active (Driver.scripted script?)}
    (hactive : system.session.active? = some active) (hmode : active.mode = .time)
    (hconnection : active.connection =
      (⟨script, settings.includeMax⟩ : Driver.Scripted.Connection))
    (hsaved : (streamOf system).saved = []) :
    Session.Op.entries .drain system = ((streamOf system).pending.flatten.map fun report ↦
      { report with information := script.informationValues }).map (.row Mode.time.tag) := by
  have hstate : streamOf system = ⟨(streamOf system).pending, []⟩ := by
    rw [← hsaved]
  have hreports : streamedReports active.connection ((streamOf system).pending.length + 1)
      (streamOf system) = (streamOf system).pending.flatten.map fun report ↦
        { report with information := script.informationValues } := by
    rw [hconnection]
    exact (congrArg (streamedReports _ _) hstate).trans
      (streamedReports_of_scripted _ _ (Nat.lt_succ_self _))
  rw [Session.Op.entries, hactive, ← hreports]
  exact if_pos hmode

/-- The reports that are written are rows of the dump. -/
theorem recordAll_rows_streamVolume? {streams : Nat} (hstreams : 0 < streams)
    (written reports : List Report) :
    (Ledger.single path (streamLayout settings script).rowShape
        (streamVolume? settings script streams written) true).recordAll
      ((reports.map fun report ↦ { report with information := script.informationValues }).map
        (.row Mode.time.tag)) =
      Ledger.single path (streamLayout settings script).rowShape
        (streamVolume? settings script streams (written ++ reports)) true := by
  unfold streamVolume?
  rw [if_neg (Nat.ne_of_gt hstreams), if_neg (Nat.ne_of_gt hstreams),
    Ledger.recordAll_rows_single, List.map_append, List.map_map]
  rfl

/-- A drain leaves nothing of the live stream. -/
theorem remaining_drainStream (h : Streams settings script base path system) :
    remaining (drainStream system).2 = [] := by
  have hactive := (drainStream_spec system).2.active
  cases hlive : system.session.active? with
  | none => exact remaining_of_none (hactive.trans hlive)
  | some active =>
    obtain ⟨hmode, -, hsaved, -⟩ := h.live active hlive
    obtain ⟨drained, hdrains, hdrain⟩ := drainStream_of_scripted hlive hmode hsaved
    rw [remaining_of_some (hactive.trans hlive), hdrain]
    exact hdrains.pending_eq_nil

/-- What is left of the live stream is written to the dump. -/
theorem Streams.drain (h : Streams settings script base path system)
    (hfaultless : (drainStream system).2.IsFaultless) :
    Streams settings script base path (drainStream system).2 := by
  have hsteady := (drainStream_spec system).2
  have hremaining := remaining_drainStream h
  cases hactive : system.session.active? with
  | none =>
    obtain ⟨-, hidle, hdriver⟩ := drainStream_of_none hactive
    have hspares : Spares ofStreams system (drainStream system).2 :=
      (sameLife_withDriver_of_none hactive drainActive).toSpares
    exact h.aside ⟨hidle, hspares, hdriver⟩
  | some active =>
    obtain ⟨hmode, hconnection, hsaved, hsome⟩ := h.live active hactive
    obtain ⟨drained, hdrains, hdrain⟩ := drainStream_of_scripted hactive hmode hsaved
    have hlive := hsteady.active.trans hactive
    obtain ⟨written, hsettles, hwritten⟩ := h.dump
    have hwrites := hsettles.run .drain hfaultless
    have hasks : Asks (roundActivities (streamOf system).pending) system
        (drainStream system).2 := by
      rw [hdrain]
      exact hdrains.asks
    -- There is one reset for each batch that was left, which are all that were missing.
    have hresets : (drainStream system).2.resets =
        List.replicate system.resets.length script.batches.length := by
      rw [hasks.resets, foldl_countReset_rounds, ← remaining_of_some hactive]
      exact h.resets
    have hrequests : (drainStream system).2.requests = system.requests := by
      rw [hasks.requests, filterMap_request?_rounds]
      rfl
    have hnothing : (streamOf (drainStream system).2).saved = [] := by
      rw [hdrain]
      exact (hdrains.batches_eq_pending hsaved).2
    have hlength : (drainStream system).2.resets.length = system.resets.length := by
      rw [hresets, List.length_replicate]
    rw [entries_drain hactive hmode hconnection hsaved, ← remaining_of_some hactive, hactive,
      Option.isSome_some, recordAll_rows_streamVolume? hsome] at hwrites
    refine ⟨?_, ?_, ?_, ?_, written ++ (remaining system).flatten, ?_, ?_⟩
    · rw [dumpFile_eq hsteady.toLater]
      exact h.path_eq
    · rw [hsteady.active, hlength]
      exact fun active hmem ↦ ⟨(h.live active hmem).1, (h.live active hmem).2.1, hnothing, hsome⟩
    · rw [hlength, hrequests]
      exact h.requests
    · rw [hremaining, List.length_nil, modifyHead_add_zero, hlength]
      exact hresets
    · rw [hlength, hlive]
      exact hwrites
    · rw [hremaining, List.flatten_nil, List.append_nil, hlength]
      exact hwritten

/-! ## Shutting down -/

/-- A session whose stream has nothing left can be closed without losing anything. -/
theorem Streams.close (h : Streams settings script base path system)
    (hremaining : remaining system = []) (hfaultless : (Session.close system).2.IsFaultless) :
    Streams settings script base path (Session.close system).2 := by
  obtain ⟨hclosed, hactive, -⟩ := close_spec system
  obtain ⟨hasks, -⟩ := close_asks system
  have hresets : (Session.close system).2.resets = system.resets := by
    rw [hasks.resets, outstanding]
    split <;> rfl
  have hrequests : (Session.close system).2.requests = system.requests := by
    rw [hasks.requests, outstanding]
    split <;> rfl
  have hafter : remaining (Session.close system).2 = [] := remaining_of_none hactive
  obtain ⟨written, hsettles, hwritten⟩ := h.dump
  have hcloses := hsettles.run .close hfaultless
  refine ⟨?_, by simp [hactive], ?_, ?_, written, ?_, ?_⟩
  · rw [dumpFile_eq hclosed.toLater]
    exact h.path_eq
  · rw [hresets, hrequests]
    exact h.requests
  · rw [hresets, hafter, ← hremaining]
    exact h.resets
  · rw [hresets, hactive]
    exact hcloses
  · rw [hresets, hafter, ← hremaining]
    exact hwritten

/-- The last drain leaves nothing, whether there is a stream or not. -/
theorem Streams.finalDrain (h : Streams settings script base path system)
    (hfaultless : (finalDrain system).2.IsFaultless) :
    Streams settings script base path (Engine.finalDrain system).2 ∧
      remaining (Engine.finalDrain system).2 = [] := by
  unfold Engine.finalDrain at hfaultless ⊢
  rw [bind_apply, get_apply] at hfaultless ⊢
  dsimp only at hfaultless ⊢
  by_cases htime : system.mode? = some .time
  · rw [if_pos htime] at hfaultless ⊢
    have hlog := idle_log (.finalDrain (drainStream system).1) (drainStream system).2
    have hdrained := h.drain (hlog.toLater.isFaultless hfaultless)
    exact ⟨hdrained.idle hlog rfl rfl fun _ ↦ rfl, remaining_drainStream h⟩
  · rw [if_neg htime]
    have hactive : system.session.active? = none := by
      by_contra hlive
      obtain ⟨active, hlive⟩ := Option.ne_none_iff_exists'.1 hlive
      apply htime
      rw [System.mode?, hlive, Option.map_some, (h.live active hlive).1]
    exact ⟨h, remaining_of_none hactive⟩

theorem Streams.shutdown (h : Streams settings script base path system)
    (hfaultless : (Engine.shutdown settings system).2.IsFaultless) :
    Streams settings script base path (Engine.shutdown settings system).2 := by
  obtain ⟨hidle, -⟩ := shutdown_spec settings system
  obtain ⟨hclosed, -, -⟩ := close_spec (Engine.finalDrain system).2
  have hclose := hidle.toLater.isFaultless hfaultless
  obtain ⟨hdrained, hremaining⟩ := h.finalDrain (hclosed.toLater.isFaultless hclose)
  have hshut := hdrained.close hremaining hclose
  obtain ⟨log, hlog⟩ := exists_shutdown settings system
  have hdriver : SameDriver (Session.close (Engine.finalDrain system).2).2
      (Engine.shutdown settings system).2 := by
    rw [hlog]
    rfl
  have hactivities : (Engine.shutdown settings system).2.activities =
      (Session.close (Engine.finalDrain system).2).2.activities := by
    rw [hlog]
  apply hshut.idle hidle hdriver
  · rw [System.resets, hactivities]
    rfl
  · intro _
    rw [System.requests, hactivities]
    rfl

end Streams

/-! ## Runs -/

section Runs

variable {script? : Option Driver.Script}

/-- Whether work goes on with the streams before it, as long as no dump fails. -/
structure Continues (settings : Settings) (script : Driver.Script) (base : Disk) (path : Path)
    (before after : System (Driver.scripted script?) C) : Prop extends Later before after where
  keeps : after.IsFaultless → Streams settings script base path before →
    Streams settings script base path after

variable {settings : Settings} {script : Driver.Script} {base : Disk} {path : Path}
  {system : System (Driver.scripted script?) C}

instance : IsPreorder (System (Driver.scripted script?) C)
    (Continues settings script base path) where
  refl system := ⟨refl_of Later system, fun _ h ↦ h⟩
  trans _ _ _ h hlast :=
    ⟨trans_of Later h.toLater hlast.toLater, fun hfaultless hstreams ↦
      hlast.keeps hfaultless (h.keeps (hlast.toLater.isFaultless hfaultless) hstreams)⟩

theorem continues_of_aside {before after : System (Driver.scripted script?) C}
    (h : Aside before after) : Continues settings script base path before after :=
  ⟨h.toLater, fun _ hstreams ↦ hstreams.aside h⟩

theorem continues_start (hscript : ∀ other ∈ script?, other = script)
    (htime : settings.sampling = .time) :
    Keeps (Continues settings script base path)
      (Engine.start settings : Run (Driver.scripted script?) C (Except Session.Error Unit)) :=
  fun system ↦ ⟨later_run (.start settings.request) system, fun hfaultless hstreams ↦
    hstreams.start hscript htime hfaultless⟩

theorem continues_prepareQueue (hscript : ∀ other ∈ script?, other = script)
    (htime : settings.sampling = .time) :
    Keeps (Continues settings script base path)
      (prepareQueue settings : Run (Driver.scripted script?) C Unit) := by
  unfold prepareQueue
  refine Keeps.bind (continues_start hscript htime) fun result ↦ ?_
  cases result with
  | ok _ => exact Keeps.pure _
  | error cause =>
    exact fun system ↦ continues_of_aside
      ⟨idle_log _ system, (sameLife_log (.sessionNotStarted cause) system).toSpares, rfl⟩

theorem continues_drainStream :
    Keeps (Continues settings script base path)
      (drainStream : Run (Driver.scripted script?) C Nat) :=
  fun system ↦ ⟨(drainStream_spec system).2.toLater, fun hfaultless hstreams ↦
    hstreams.drain hfaultless⟩

/-- Every operation of an engine that samples a stream goes on with its streams, unless the driver
goes on with work of its own. -/
theorem continues_op (hscript : ∀ other ∈ script?, other = script)
    (htime : settings.sampling = .time) (op : Op (Driver.scripted script?) C)
    (hop : ∀ driver compute, op = .outside driver compute → driver = id) :
    Keeps (Continues settings script base path) (op.run settings) := by
  cases op with
  | start => exact continues_start hscript htime
  | createQueue context device bits =>
    have hcreate : Keeps (Continues settings script base path)
        (Engine.createQueue settings context device bits :
          Run (Driver.scripted script?) C (Except Queue.Error CounterQueue)) :=
      Keeps.bind (continues_prepareQueue hscript htime) fun _ system ↦
        continues_of_aside (Queue.aside_create context device bits system)
    exact hcreate
  | createQueueWithProperties context device properties =>
    have hcreate : Keeps (Continues settings script base path)
        (Engine.createQueueWithProperties settings context device properties :
          Run (Driver.scripted script?) C (Except Queue.Error CounterQueue)) :=
      Keeps.bind (continues_prepareQueue hscript htime) fun _ system ↦
        continues_of_aside (Queue.aside_createWithProperties context device properties system)
    exact hcreate
  | sample operation event =>
    intro system
    refine ⟨later_run (.sample operation event) system, fun _ hstreams ↦
      hstreams.aside (aside_sampleEvent ?_ operation event)⟩
    intro active hactive
    rw [(hstreams.live active hactive).1]
    simp
  | completeWork operation event =>
    have hrun : Op.run settings (.completeWork operation event) =
        (Session.Op.run .drain : Run (Driver.scripted script?) C Unit) := by
      unfold Op.run completeWork
      rw [htime]
      rfl
    rw [hrun]
    exact continues_drainStream
  | drain => exact continues_drainStream
  | report => exact fun system ↦ refl_of (Continues settings script base path) system
  | shutdown =>
    exact fun system ↦ ⟨later_shutdown settings system, fun hfaultless hstreams ↦
      hstreams.shutdown hfaultless⟩
  | outside driver compute =>
    obtain rfl := hop driver compute rfl
    intro system
    have haside : Aside system (Op.run settings (.outside id compute) system).2 :=
      ⟨⟨⟨⟨rfl, rfl, List.prefix_refl _⟩, rfl, rfl, rfl⟩, rfl, rfl⟩, ⟨rfl, fun _ ↦ rfl⟩, rfl⟩
    exact continues_of_aside haside

/-- The induction is on the operations: the streams behind one are those before the next. -/
theorem continues_runAll (hscript : ∀ other ∈ script?, other = script)
    (htime : settings.sampling = .time) {ops : List (Op (Driver.scripted script?) C)}
    (hops : ∀ driver compute, .outside driver compute ∈ ops → driver = id)
    (system : System (Driver.scripted script?) C) :
    Continues settings script base path system (runAll settings ops system) := by
  induction ops generalizing system with
  | nil => exact refl_of (Continues settings script base path) system
  | cons op ops ih =>
    have hop : ∀ driver compute, op = .outside driver compute → driver = id := by
      rintro driver compute rfl
      exact hops driver compute List.mem_cons_self
    have hrest : ∀ driver compute, .outside driver compute ∈ ops → driver = id :=
      fun driver compute hmem ↦ hops driver compute (List.mem_cons_of_mem op hmem)
    exact trans_of (Continues settings script base path)
      (continues_op hscript htime op hop system) (ih hrest _)

theorem streams_runAll (hscript : ∀ other ∈ script?, other = script)
    (htime : settings.sampling = .time) {system : System (Driver.scripted script?) C}
    (hsound : system.disk.Sound) (hfresh : system.session = {})
    (hactivities : system.activities = #[]) {ops : List (Op (Driver.scripted script?) C)}
    (hops : ∀ driver compute, .outside driver compute ∈ ops → driver = id)
    (hfaultless : (runAll settings ops system).IsFaultless) :
    Streams settings script system.disk (system.dumpFile settings.metricSet)
      (runAll settings ops system) :=
  (continues_runAll hscript htime hops system).keeps hfaultless
    (Streams.of_fresh hsound hfresh hactivities)

/-- What is in the dump once nothing of a stream is left. -/
theorem Streams.read (h : Streams settings script base path system)
    (hactive : system.session.active? = none) :
    (system.resets.length = 0 →
        ∀ place, system.disk.bytesAt? place = base.bytesAt? place) ∧
      (0 < system.resets.length → system.disk.read path = .ok (Dump.Volume.bytes
        ⟨streamLayout settings script,
          (List.replicate system.resets.length script.batches.flatten).flatten.map
            (streamRow settings script)⟩)) := by
  obtain ⟨written, hsettles, hwritten⟩ := h.dump
  rw [remaining_of_none hactive, List.flatten_nil, List.append_nil] at hwritten
  rw [hwritten, hactive] at hsettles
  constructor
  · intro hnone place
    apply hsettles.others place
    rw [hnone]
    exact ite_self none
  · intro hsome
    rw [streamVolume?, if_neg (Nat.ne_of_gt hsome)] at hsettles
    obtain ⟨hlocated, hplain, -⟩ := hsettles.known path (List.mem_singleton.2 rfl)
    apply Disk.read_of_bytesAt? hlocated hplain
    apply hsettles.stored path.place _ (if_pos rfl)
    rw [hsettles.dump?_eq_none hactive]
    simp

/-- No report of a stream is lost or written twice. Whatever an engine that samples a stream was
asked for before it is shut down, its dump has the reports of all batches of every stream in
order, each with the further information of the driver, and each stream was reset once for each of
its batches. Every drain comes to an end and leaves nothing for another one right behind it, and a
shutdown leaves nothing for another shutdown. -/
theorem streams_read_shutdown (hscript : ∀ other ∈ script?, other = script)
    (htime : settings.sampling = .time) {system : System (Driver.scripted script?) C}
    (hsound : system.disk.Sound) (hfresh : system.session = {})
    (hactivities : system.activities = #[]) {ops : List (Op (Driver.scripted script?) C)}
    (hops : ∀ driver compute, .outside driver compute ∈ ops → driver = id)
    (hfaultless : (Engine.shutdown settings (runAll settings ops system)).2.IsFaultless) :
    let now := runAll settings ops system
    let final := (Engine.shutdown settings now).2
    let streams := (final.activities.toList.filterMap Activity.parameters?).length
    let reports := (List.replicate streams script.batches.flatten).flatten
    let row (report : Report) : Dump.Row :=
      ⟨(streamLayout settings script).rowShape, "TBS",
        { report with information := script.informationValues }⟩
    (streams = 0 → ∀ place, final.disk.bytesAt? place = system.disk.bytesAt? place) ∧
      (0 < streams → final.disk.read (system.dumpFile settings.metricSet) =
        .ok (Dump.Volume.mk (streamLayout settings script) (reports.map row)).bytes) ∧
      (script?.isSome →
        (final.activities.toList.filterMap Activity.request?).length = streams) ∧
      resetCounts final.activities.toList = List.replicate streams script.batches.length ∧
      (∀ early, early <+: ops →
        let before := runAll settings early system
        (∀ active ∈ before.session.active?, ∃ after,
          Drains active.connection before (streamOf before).pending after ∧
            drainStream before = ((streamOf before).pending.flatten.length,
              counted (streamOf before).pending.flatten.length after)) ∧
          (drainStream (drainStream before).2).1 = 0 ∧
          Idle (drainStream before).2 (drainStream (drainStream before).2).2) ∧
      Engine.shutdown settings final = Engine.shutdown settings now := by
  intro now final streams reports row
  have hlater : Later now final := later_shutdown settings now
  have hnow : Streams settings script system.disk (system.dumpFile settings.metricSet) now :=
    streams_runAll hscript htime hsound hfresh hactivities hops (hlater.isFaultless hfaultless)
  have hfinal : Streams settings script system.disk (system.dumpFile settings.metricSet) final :=
    hnow.shutdown hfaultless
  have hactive : final.session.active? = none := by
    obtain ⟨hidle, -⟩ := shutdown_spec settings now
    exact hidle.active.trans (close_spec _).2.1
  have hstreams : final.resets.length = streams := length_resetCounts _
  have hread := hfinal.read hactive
  have hresets := hfinal.resets
  rw [hstreams] at hread hresets
  rw [remaining_of_none hactive, List.length_nil, modifyHead_add_zero] at hresets
  refine ⟨hread.1, hread.2, ?_, hresets, ?_, shutdown_shutdown settings now⟩
  · rw [← hstreams]
    exact hfinal.requests
  · rintro early ⟨late, rfl⟩ before
    have hrest : Later before now := by
      have hlate : Continues settings script system.disk (system.dumpFile settings.metricSet)
          before (runAll settings late before) :=
        continues_runAll hscript htime
          (fun driver compute hmem ↦ hops driver compute (List.mem_append_right early hmem)) before
      rw [← runAll_append] at hlate
      exact hlate.toLater
    have hbefore : Streams settings script system.disk (system.dumpFile settings.metricSet)
        before :=
      streams_runAll hscript htime hsound hfresh hactivities
        (fun driver compute hmem ↦ hops driver compute (List.mem_append_left late hmem))
        (hrest.isFaultless (hlater.isFaultless hfaultless))
    refine ⟨?_, drainStream_drainStream before⟩
    intro active hlive
    obtain ⟨hmode, -, hsaved, -⟩ := hbefore.live active hlive
    exact drainStream_of_scripted hlive hmode hsaved

end Runs

/-- A driver whose stream has three batches, one of them empty. -/
def pulseScript : Driver.Script where
  metrics := [⟨"Time", "ns"⟩]
  information := [⟨"Lost", ""⟩]
  informationValues := [.bool false]
  batches := [[⟨[⟨"Time", .u32 1, none⟩], []⟩, ⟨[⟨"Time", .u32 2, none⟩], [.u32 9]⟩], [],
    [⟨[⟨"Time", .u32 3, none⟩], []⟩]]

/-- Two lives: the first is drained by completed work, the second only when it is shut down. -/
def pulseOps : List (Op (Driver.scripted (some pulseScript)) Compute.simulated) :=
  [.outside id fun _ ↦ kernelEvents, .drain, .createQueue ⟨1⟩ ⟨2⟩ 0, .sample "a" ⟨1⟩,
    .completeWork "b" ⟨1⟩, .drain, .report, .shutdown, .shutdown, .completeWork "c" ⟨2⟩, .start,
    .createQueueWithProperties ⟨1⟩ ⟨2⟩ none]

def pulseRow (time : UInt32) : Dump.Row :=
  ⟨⟨["Time"], false, 1⟩, "TBS", ⟨[⟨"Time", .u32 time, none⟩], [.bool false]⟩⟩

/-- The reports of both lives are in one dump, each as often as there were lives. -/
theorem streams_read_shutdown_pulse :
    (∀ other ∈ some pulseScript, other = pulseScript) ∧
      ({ sampling := .time } : Settings).sampling = .time ∧
      (scripted pulseScript).disk.Sound ∧ (scripted pulseScript).session = {} ∧
      (scripted pulseScript).activities = #[] ∧
      (∀ driver compute, .outside driver compute ∈ pulseOps → driver = id) ∧
      (Engine.shutdown { sampling := .time }
        (runAll { sampling := .time } pulseOps (scripted pulseScript))).2.IsFaultless ∧
      (Engine.shutdown { sampling := .time }
        (runAll { sampling := .time } pulseOps (scripted pulseScript))).2.disk.read
          ((scripted pulseScript).dumpFile "ComputeBasic") =
        .ok (Dump.Volume.bytes ⟨⟨.time, [⟨"Time", "ns"⟩], [⟨"Lost", ""⟩], false⟩,
          [pulseRow 1, pulseRow 2, pulseRow 3, pulseRow 1, pulseRow 2, pulseRow 3]⟩) ∧
      resetCounts (Engine.shutdown { sampling := .time }
        (runAll { sampling := .time } pulseOps (scripted pulseScript))).2.activities.toList =
          [3, 3] := by
  have hscript : ∀ other ∈ some pulseScript, other = pulseScript :=
    fun other hother ↦ (Option.some.inj hother).symm
  have htime : ({ sampling := .time } : Settings).sampling = .time := rfl
  have hsound : (scripted pulseScript).disk.Sound := Disk.sound_empty
  have hfresh : (scripted pulseScript).session = {} := rfl
  have hactivities : (scripted pulseScript).activities = #[] := rfl
  have hops : ∀ driver compute, .outside driver compute ∈ pulseOps → driver = id := by
    intro driver compute hmem
    simp only [pulseOps, List.mem_cons, List.not_mem_nil, Op.outside.injEq, reduceCtorEq,
      or_false] at hmem
    exact hmem.1
  have hfaultless : (Engine.shutdown { sampling := .time }
      (runAll { sampling := .time } pulseOps (scripted pulseScript))).2.IsFaultless := by
    decide +kernel
  have hstreams : ((Engine.shutdown { sampling := .time }
      (runAll { sampling := .time } pulseOps (scripted pulseScript))).2.activities.toList.filterMap
        Activity.parameters?).length = 2 := by
    decide +kernel
  obtain ⟨-, hread, -, hresets, -⟩ :=
    streams_read_shutdown hscript htime hsound hfresh hactivities hops hfaultless
  rw [hstreams] at hread hresets
  exact ⟨hscript, htime, hsound, hfresh, hactivities, hops, hfaultless, hread (by decide), hresets⟩

end GpuCounters.Engine
