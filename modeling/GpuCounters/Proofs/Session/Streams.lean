import GpuCounters.Proofs.Queue.Protocol
import GpuCounters.Proofs.Session.Draining
import GpuCounters.Proofs.Session.Lifecycle

/-!
# What streams leave behind

A stream is reset once for each of its batches, which can be counted in what was asked. A session
that always opens the same dump has one volume at most. Whatever else is done beside a stream,
sampling events and creating queues, neither asks about it nor changes the state of a scripted
driver.
-/

namespace GpuCounters

open Storage

variable {P : Driver.Provider} {C : Compute}

/-! ## Resets -/

/-- How often each stream was reset, the latest one first, after one more activity. -/
def countReset (counts : List Nat) : Activity → List Nat
  | .openStream _ => 0 :: counts
  | .reset => counts.modifyHead (· + 1)
  | _ => counts

/-- How often each stream was reset, the latest one first. -/
def resetCounts (activities : List Activity) : List Nat := activities.foldl countReset []

theorem modifyHead_add_zero (counts : List Nat) : counts.modifyHead (· + 0) = counts := by
  cases counts <;> rfl

/-- The concerns for connections and for streams. -/
def ofStreams (concern : Concern) : Bool := concern = .life || concern = .stream

/-- There is one count for each stream that was opened. -/
theorem length_resetCounts (activities : List Activity) :
    (resetCounts activities).length = (activities.filterMap Activity.parameters?).length := by
  have hcounts : ∀ counts : List Nat, (activities.foldl countReset counts).length =
      counts.length + (activities.filterMap Activity.parameters?).length := by
    induction activities with
    | nil => simp
    | cons activity activities ih =>
      intro counts
      rw [List.foldl_cons, ih, List.filterMap_cons]
      cases activity <;>
        simp [countReset, Activity.parameters?, Nat.add_comm, Nat.add_left_comm]
  calc (resetCounts activities).length
    _ = ([] : List Nat).length + (activities.filterMap Activity.parameters?).length := hcounts []
    _ = (activities.filterMap Activity.parameters?).length := Nat.zero_add _

/-- The rounds of a drain are so many resets. The induction is on the rounds. -/
theorem foldl_countReset_rounds (batches : List (List Report)) (counts : List Nat) :
    (Session.roundActivities batches).foldl countReset counts =
      counts.modifyHead (· + batches.length) := by
  unfold Session.roundActivities
  induction batches generalizing counts with
  | nil => cases counts <;> rfl
  | cons batch batches ih =>
    rw [List.flatMap_cons, List.append_assoc, List.foldl_append, ih]
    cases counts with
    | nil => rfl
    | cons count counts => simp [countReset, Nat.add_assoc, Nat.add_comm 1]

/-- No connection is asked for in a drain. -/
theorem filterMap_request?_rounds (batches : List (List Report)) :
    (Session.roundActivities batches).filterMap Activity.request? = [] := by
  unfold Session.roundActivities
  induction batches with
  | nil => rfl
  | cons batch batches ih => exact ih

namespace System

/-- How often each stream of a system was reset, the latest one first. -/
def resets (system : System P C) : List Nat := resetCounts system.activities.toList

def requests (system : System P C) : Nat :=
  (system.activities.toList.filterMap Activity.request?).length

variable {before after : System P C}

theorem Asks.resets {activities : List Activity} (h : Asks activities before after) :
    after.resets = activities.foldl countReset before.resets := by
  rw [System.resets, h, resetCounts, List.foldl_append]
  rfl

theorem Asks.requests {activities : List Activity} (h : Asks activities before after) :
    after.requests = before.requests + (activities.filterMap Activity.request?).length := by
  rw [System.requests, h, List.filterMap_append, List.length_append]
  rfl

/-- Only what was asked about connections and streams tells of resets. -/
theorem resetCounts_asked (system : System P C) :
    resetCounts (system.asked ofStreams) = system.resets := by
  unfold System.resets System.asked resetCounts
  rw [List.foldl_filter]
  congr
  funext counts activity
  cases activity <;> rfl

theorem Spares.resets (h : Spares ofStreams before after) : after.resets = before.resets := by
  rw [← resetCounts_asked, h.asked, resetCounts_asked]

theorem Spares.requests (h : Spares ofStreams before after) :
    after.requests = before.requests := by
  have hother : ∀ activity : Activity, ofStreams activity.concern = false →
      activity.request? = none := by
    intro activity hactivity
    cases activity <;> first | rfl | cases hactivity
  rw [System.requests, ← filterMap_asked hother, h.asked, filterMap_asked hother]
  rfl

end System

namespace Session

/-! ## Ledgers of one dump -/

namespace Ledger

/-- The ledger of a session that has one dump at most, by what the dump holds and whether it is
open. -/
def single (path : Path) (shape : Dump.RowShape) (volume? : Option Dump.Volume) (live : Bool) :
    Ledger where
  opened := if volume?.isSome then [path] else []
  volumes place := if place = path.place then volume? else none
  current? := if live then some (path, shape) else none

variable {path : Path} {shape : Dump.RowShape} {volume : Dump.Volume}

theorem single_empty (path : Path) (shape : Dump.RowShape) : single path shape none false = {} := by
  simp [single]

theorem setVolume_single (former? : Option Dump.Volume) (live : Bool) :
    ((single path shape former? live).setVolume path.place volume).volumes =
      (single path shape (some volume) true).volumes := by
  funext place
  by_cases h : place = path.place <;> simp [setVolume, single, h]

/-- The first opening makes a volume of the header. -/
theorem record_opened_single_none (layout : Dump.Layout) (live : Bool) :
    (single path shape none live).record (.opened path layout) =
      single path layout.rowShape (some layout.volume) true := by
  have hknows : (single path shape none live).knows path = false := rfl
  calc (single path shape none live).record (.opened path layout)
    _ = { opened := [path]
          volumes := ((single path shape none live).setVolume path.place layout.volume).volumes
          current? := some (path, layout.rowShape) } := by
      rw [record, hknows, if_neg (by simp)]
      rfl
    _ = single path layout.rowShape (some layout.volume) true := by
      rw [setVolume_single]
      rfl

/-- Later ones go on with the volume that is there. -/
theorem record_opened_single_some (layout : Dump.Layout) (live : Bool) :
    (single path shape (some volume) live).record (.opened path layout) =
      single path layout.rowShape (some volume) true := by
  have hknows : (single path shape (some volume) live).knows path = true := by
    simp [knows, single, Path.same]
  rw [record, hknows, if_pos rfl]
  rfl

theorem record_row_single (label : String) (report : Report) :
    (single path shape (some volume) true).record (.row label report) =
      single path shape (some (volume.push ⟨shape, label, report⟩)) true := by
  have hvolume : (single path shape (some volume) true).volumes path.place = some volume :=
    if_pos rfl
  have hset : (single path shape (some volume) true).record (.row label report) =
      (single path shape (some volume) true).setVolume path.place
        (volume.push ⟨shape, label, report⟩) :=
    record_row_of_volume rfl hvolume label report
  calc (single path shape (some volume) true).record (.row label report)
    _ = { single path shape (some volume) true with
          volumes := ((single path shape (some volume) true).setVolume path.place
            (volume.push ⟨shape, label, report⟩)).volumes } := hset
    _ = single path shape (some (volume.push ⟨shape, label, report⟩)) true := by
      rw [setVolume_single]
      rfl

/-- Rows of one label are rows of the volume. The induction is on the reports. -/
theorem recordAll_rows_single (label : String) (reports : List Report) :
    (single path shape (some volume) true).recordAll (reports.map (.row label)) =
      single path shape
        (some ⟨volume.layout, volume.rows ++ reports.map fun report ↦ ⟨shape, label, report⟩⟩)
        true := by
  induction reports generalizing volume with
  | nil => simp
  | cons report reports ih =>
    rw [List.map_cons, recordAll_cons, record_row_single, ih]
    simp [Dump.Volume.push]

end Ledger

end Session

/-! ## Work aside from streams -/

namespace Session

theorem sameDriver_openDump (mode : Mode) (metricSet : String) (connection : P.Connection) :
    Run.Keeps System.SameDriver (openDump mode metricSet connection : Run P C Unit) := by
  intro before
  rcases hstart : Dump.Writer.start (before.dumpFile metricSet) (layout mode connection)
    (accessOf before.session (before.dumpFile metricSet)) before.disk with ⟨result, later⟩
  rw [openDump_eq hstart]
  cases result with
  | error cause => rfl
  | ok writer =>
    dsimp only
    split <;> rfl

end Session

namespace System

/-- Whether a system is a later one with the same driver, and whether neither its connections nor
its stream had a part in what happened. -/
structure Aside (before after : System P C) : Prop extends
    Idle before after, Spares ofStreams before after where
  driver : SameDriver before after

end System

open GpuCounters.System GpuCounters.Run

/-- No event is sampled from a session that samples a stream. -/
theorem Session.aside_sampleEvent {system : System P C}
    (hmode : ∀ active ∈ system.session.active?, active.mode ≠ .event) (operation : String)
    (event : Event) : Aside system (Session.sampleEvent operation event system).2 := by
  have hspares : Spares ofStreams system (Session.sampleEvent operation event system).2 :=
    (Session.sameLife_sampleEvent rfl operation event system).toSpares
  cases hactive : system.session.active? with
  | none =>
    obtain ⟨hanswer, hidle, hdriver⟩ :=
      withDriver_of_none hactive (Session.readEvent (P := P) (C := C) operation event)
    have hafter : (Session.sampleEvent operation event system).2 =
        (withDriver (Session.readEvent operation event) system).2 := by
      rw [Session.sampleEvent, bind_apply, hanswer]
      rfl
    rw [hafter] at hspares ⊢
    exact ⟨hidle, hspares, hdriver⟩
  | some active =>
    have hafter : (Session.sampleEvent operation event system).2 =
        (Run.log (.eventInMode active.mode) system).2 := by
      rw [Session.sampleEvent, bind_apply, withDriver_of_active hactive, Session.readEvent,
        if_pos (hmode active hactive)]
      rfl
    rw [hafter] at hspares ⊢
    exact ⟨idle_log _ system, hspares, rfl⟩

section Queues

variable {script? : Option Driver.Script}

/-- The creation of a queue does not change the state of a scripted driver. -/
theorem Queue.aside_create (context : Context) (device : Device) (bits : Queue.Bits)
    (system : System (Driver.scripted script?) C) :
    Aside system (Queue.create context device bits system).2 := by
  have hdriver : SameDriver system (Queue.create context device bits system).2 := by
    obtain ⟨outcome, hprotocol, -, -, _, _, _, _, hafter⟩ :=
      Queue.create_follows context device bits system
    rw [hafter]
    cases hprotocol <;> rfl
  exact ⟨Queue.idle_create context device bits system,
    (Queue.sameLife_create rfl context device bits system).toSpares, hdriver⟩

theorem Queue.aside_createWithProperties (context : Context) (device : Device)
    (properties : Option (List UInt64)) (system : System (Driver.scripted script?) C) :
    Aside system (Queue.createWithProperties context device properties system).2 := by
  have hdriver :
      SameDriver system (Queue.createWithProperties context device properties system).2 := by
    unfold Queue.createWithProperties
    cases Queue.bitsOf properties with
    | error refusal => rfl
    | ok bits => exact (Queue.aside_create context device bits system).driver
  exact ⟨Queue.idle_createWithProperties context device properties system,
    (Queue.sameLife_createWithProperties rfl context device properties system).toSpares, hdriver⟩

end Queues

end GpuCounters
