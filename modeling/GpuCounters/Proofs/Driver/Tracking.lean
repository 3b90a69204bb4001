import GpuCounters.Driver.Library
import GpuCounters.Proofs.Driver.Handles

/-!
# Tracked libraries

A library is tracked by writing down what its calls do with handles. Queries that change nothing are
not written down. Instead, a tracked library answers whatever it likes about a handle that is not
open. Work that comes to the same whatever these answers are has not asked for them.

Each question to a connection comes to the same with and without tracking, as long as the handle of
that connection is the one that is held.
-/

namespace GpuCounters

namespace Driver

/-! ## Tracking -/

/-- What a library answers to queries that change nothing. -/
structure Answers (σ : Type) where
  metrics : Nat → σ → List (Status × RawDescriptor)
  information : Nat → σ → List (Status × RawDescriptor)
  configuration : Nat → σ → UInt32
  reportSize : Nat → σ → UInt32
  saved : Nat → σ → List RawReport
  informationValues : Nat → σ → Status × List (Option RawValue)

def Library.answers (library : Library) : Answers library.State where
  metrics := library.metrics
  information := library.information
  configuration := library.configuration
  reportSize := library.reportSize
  saved := library.saved
  informationValues := library.informationValues

/-- A library's state, with what was done with its handles. -/
structure Tracked (library : Library) where
  inner : library.State
  /-- The uses of handles, oldest first -/
  uses : List HandleUse := []
  /-- The answers about handles that are not open -/
  stale : Answers library.State

namespace Tracked

variable {library : Library}

/-- The state after one more use of a handle. -/
def push (state : Tracked library) (use : HandleUse) (inner : library.State) : Tracked library :=
  { state with inner, uses := state.uses ++ [use] }

def answers (state : Tracked library) (handle : Nat) : Answers library.State :=
  if IsOpen state.uses handle then library.answers else state.stale

theorem answers_of_held {state : Tracked library} {handle : Nat}
    (h : Follows none state.uses (some handle)) : state.answers handle = library.answers :=
  if_pos (h.isOpen_iff.2 rfl)

/-- Whether a handle was handed out. -/
def openedHandle? (opening : Status × Option Nat) : Option Nat :=
  if opening.1 = .success then opening.2 else none

end Tracked

/-- A library that writes its calls down. -/
def Library.tracked (library : Library) : Library where
  State := Tracked library
  openDriver request state :=
    let (opening, inner) := library.openDriver request state.inner
    (opening,
      match Tracked.openedHandle? opening with
      | some handle => state.push (.opened handle) inner
      | none => { state with inner })
  close handle state := state.push (.closed handle) (library.close handle state.inner)
  metrics handle state := (state.answers handle).metrics handle state.inner
  information handle state := (state.answers handle).information handle state.inner
  openStream parameters handle state :=
    let (status, inner) := library.openStream parameters handle state.inner
    (status, state.push (.used handle) inner)
  activate handle state :=
    let (status, inner) := library.activate handle state.inner
    (status, state.push (.used handle) inner)
  configuration handle state := (state.answers handle).configuration handle state.inner
  reportSize handle state := (state.answers handle).reportSize handle state.inner
  save handle state :=
    let (status, inner) := library.save handle state.inner
    (status, state.push (.used handle) inner)
  saved handle state := (state.answers handle).saved handle state.inner
  informationValues handle state := (state.answers handle).informationValues handle state.inner
  reset handle state := state.push (.used handle) (library.reset handle state.inner)
  decode bytes handle state :=
    let (raw, inner) := library.decode bytes handle state.inner
    (raw, state.push (.used handle) inner)
  backlog handle state := library.backlog handle state.inner
  backlog_save handle state h := library.backlog_save handle state.inner h

/-! ## Questions to a connection -/

end Driver

/-- The answer of a party, with the library untracked. -/
def Exchange.untracked {library : Driver.Library} {α : Type}
    (exchange : Exchange (Driver.Tracked library) α) : Exchange library.State α where
  result := exchange.result
  state := exchange.state.inner
  notes := exchange.notes

namespace Driver

variable {refusal : String → Option String} {library : Library} {α : Type} {held? : Option Nat}

/-- Whether a question to a tracked library is answered as by the library itself, and does nothing
with handles but to use the one that is held. -/
def QuietAsk (held? : Option Nat) (ask : Tracked library → Exchange (Tracked library) α)
    (plain : library.State → Exchange library.State α) : Prop :=
  ∀ state, Follows none state.uses held? → plain state.inner = (ask state).untracked ∧
    ∃ calls, (ask state).state.uses = state.uses ++ calls ∧ ∀ use ∈ calls, use.IsCall held?

section Connection

variable {connection : Loaded.Connection} (hheld : held? = some connection.handle)

include hheld

/-- A question that is one call of the handle that is held. -/
theorem quietAsk_of_used {ask : Tracked library → Exchange (Tracked library) α}
    {plain : library.State → Exchange library.State α}
    (hplain : ∀ state, plain state.inner = (ask state).untracked)
    (huses : ∀ state, (ask state).state.uses = state.uses ++ [.used connection.handle]) :
    QuietAsk held? ask plain :=
  fun state _ ↦ ⟨hplain state, [.used connection.handle], huses state,
    List.forall_mem_singleton.2 ⟨connection.handle, hheld, rfl⟩⟩

theorem quietAsk_openStream (parameters : StreamParameters) :
    QuietAsk held? ((loaded refusal library.tracked).openStream parameters connection)
      ((loaded refusal library).openStream parameters connection) :=
  quietAsk_of_used hheld (fun _ ↦ rfl) fun _ ↦ rfl

theorem quietAsk_activate :
    QuietAsk held? ((loaded refusal library.tracked).activate connection)
      ((loaded refusal library).activate connection) :=
  quietAsk_of_used hheld (fun _ ↦ rfl) fun _ ↦ rfl

theorem quietAsk_poll :
    QuietAsk held? ((loaded refusal library.tracked).poll connection)
      ((loaded refusal library).poll connection) :=
  quietAsk_of_used hheld (fun _ ↦ rfl) fun _ ↦ rfl

theorem quietAsk_reset :
    QuietAsk held? ((loaded refusal library.tracked).reset connection)
      ((loaded refusal library).reset connection) :=
  quietAsk_of_used hheld (fun _ ↦ rfl) fun _ ↦ rfl

theorem quietAsk_decode (bytes : ByteArray) :
    QuietAsk held? ((loaded refusal library.tracked).decode bytes connection)
      ((loaded refusal library).decode bytes connection) := by
  refine quietAsk_of_used hheld (fun state ↦ ?_) fun state ↦ ?_
  all_goals
    simp only [loaded, Loaded.decode, Library.tracked]
    split <;> rfl

theorem quietAsk_savedReports :
    QuietAsk held? ((loaded refusal library.tracked).savedReports connection)
      ((loaded refusal library).savedReports connection) := by
  intro state hfollows
  have hanswers := Tracked.answers_of_held (hheld ▸ hfollows)
  refine ⟨?_, [], (List.append_nil _).symm, by simp⟩
  simp only [loaded, Loaded.savedReports, Library.tracked, hanswers]
  rfl

theorem quietAsk_informationValues :
    QuietAsk held? ((loaded refusal library.tracked).informationValues connection)
      ((loaded refusal library).informationValues connection) := by
  intro state hfollows
  have hanswers := Tracked.answers_of_held (hheld ▸ hfollows)
  have hstate : ((loaded refusal library.tracked).informationValues connection state).state =
      state := @Loaded.state_informationValues library.tracked connection state
  refine ⟨?_, [], ?_, by simp⟩
  · have htold : library.tracked.informationValues connection.handle state =
        library.informationValues connection.handle state.inner :=
      congrArg (fun answers : Answers library.State ↦
        answers.informationValues connection.handle state.inner) hanswers
    simp only [loaded, Loaded.informationValues, htold]
    by_cases hnone : connection.information = []
    · rw [if_pos hnone, if_pos hnone]
      rfl
    · rw [if_neg hnone, if_neg hnone]
      by_cases hstatus : (library.informationValues connection.handle state.inner).1 = .success
      · rw [if_pos hstatus, if_pos hstatus]
        rfl
      · rw [if_neg hstatus, if_neg hstatus]
        rfl
  · rw [hstate, List.append_nil]

variable {state : Tracked library} (hfollows : Follows none state.uses held?)

include hfollows

theorem configuration_tracked :
    (loaded refusal library).configuration connection state.inner =
      (loaded refusal library.tracked).configuration connection state :=
  (congrArg (fun answers : Answers library.State ↦
    answers.configuration connection.handle state.inner)
    (Tracked.answers_of_held (hheld ▸ hfollows))).symm

theorem reportSize_tracked :
    (loaded refusal library).reportSize connection state.inner =
      (loaded refusal library.tracked).reportSize connection state :=
  (congrArg (fun answers : Answers library.State ↦
    (answers.reportSize connection.handle state.inner).toNat)
    (Tracked.answers_of_held (hheld ▸ hfollows))).symm

end Connection

/-! ## Connecting -/

/-- The handle that is held after connecting. -/
def heldAfter? : Except Error Loaded.Connection → Option Nat
  | .ok connection => some connection.handle
  | .error _ => none

/-- While a handle is open, its driver is described as by the library itself. -/
theorem describe_tracked {state : Tracked library} {handle : Nat}
    (hfollows : Follows none state.uses (some handle)) (request : Request) :
    Loaded.describe library.tracked request handle state =
      Loaded.describe library request handle state.inner := by
  have hanswers := Tracked.answers_of_held hfollows
  simp only [Loaded.describe, Library.tracked, hanswers]
  rfl

theorem handle_of_describe {request : Request} {handle : Nat} {state : library.State}
    {connection : Loaded.Connection}
    (h : Loaded.describe library request handle state = .ok connection) :
    connection.handle = handle := by
  unfold Loaded.describe at h
  split at h
  · cases h
  · split at h
    · cases h
    · obtain rfl := Except.ok.inj h
      rfl

section Opening

variable {state : Tracked library} {request : Request} {inner : library.State}

theorem openDriver_tracked_of_handle {handle : Nat}
    (hopen : library.openDriver request state.inner = ((.success, some handle), inner)) :
    library.tracked.openDriver request state =
      ((.success, some handle), state.push (.opened handle) inner) := by
  simp only [Library.tracked, hopen]
  rfl

theorem openDriver_tracked_of_none {opening : Status × Option Nat}
    (hopen : library.openDriver request state.inner = (opening, inner))
    (hnone : Tracked.openedHandle? opening = none) :
    library.tracked.openDriver request state =
      (opening, ({ state with inner } : Tracked library)) := by
  simp only [Library.tracked, hopen, hnone]

end Opening

theorem Loaded.connect_tracked {state : Tracked library} (hfollows : Follows none state.uses none)
    (request : Request) :
    Loaded.connect library request state.inner =
        (Loaded.connect library.tracked request state).untracked ∧
      ∃ uses, (Loaded.connect library.tracked request state).state.uses = state.uses ++ uses ∧
        Episode true false none uses
          (heldAfter? (Loaded.connect library.tracked request state).result) := by
  have hnothing : Episode true false none [] none := .calls (by simp) (by simp)
  unfold Loaded.connect
  cases Loaded.requestError? request with
  | some cause => exact ⟨rfl, [], (List.append_nil _).symm, hnothing⟩
  | none =>
    rcases hopen : library.openDriver request state.inner with ⟨⟨status, handle?⟩, inner⟩
    cases handle? with
    | none =>
      have hnone : Tracked.openedHandle? (status, none) = none := by simp [Tracked.openedHandle?]
      simp only [openDriver_tracked_of_none hopen hnone]
      exact ⟨rfl, [], (List.append_nil _).symm, hnothing⟩
    | some handle =>
      by_cases hstatus : status = .success
      · subst hstatus
        have hopened : Follows none (state.push (.opened handle) inner).uses (some handle) :=
          hfollows.trans (.opened (.done _))
        simp only [openDriver_tracked_of_handle hopen, ne_eq, not_true_eq_false, if_false,
          describe_tracked hopened]
        have hinner : (state.push (.opened handle) inner).inner = inner := rfl
        rw [hinner]
        cases hdescribe : Loaded.describe library request handle inner with
        | error cause =>
          exact ⟨rfl, [.opened handle, .closed handle], List.append_assoc _ _ _,
            .failed rfl⟩
        | ok connection =>
          have hhandle := handle_of_describe hdescribe
          exact ⟨rfl, [.opened handle], rfl, hhandle ▸ .kept rfl (by simp)⟩
      · have hnone : Tracked.openedHandle? (status, some handle) = none := if_neg hstatus
        simp only [openDriver_tracked_of_none hopen hnone, ne_eq, hstatus, not_false_eq_true,
          if_true]
        exact ⟨rfl, [], (List.append_nil _).symm, hnothing⟩

/-- What connecting does with handles: a driver that cannot be described is closed again. -/
theorem connect_tracked {state : Tracked library} (hfollows : Follows none state.uses none)
    (request : Request) :
    (loaded refusal library).connect request state.inner =
        ((loaded refusal library.tracked).connect request state).untracked ∧
      ∃ uses, ((loaded refusal library.tracked).connect request state).state.uses =
          state.uses ++ uses ∧
        Episode true false none uses
          (heldAfter? ((loaded refusal library.tracked).connect request state).result) := by
  unfold loaded
  dsimp only
  cases refusal request.library with
  | some reason =>
    exact ⟨rfl, [], (List.append_nil _).symm, .calls (by simp) (by simp)⟩
  | none => exact Loaded.connect_tracked hfollows request

end Driver

end GpuCounters
