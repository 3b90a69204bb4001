import GpuCounters.Driver.Library

/-!
# Scripted driver libraries

A library that follows a script. Answers that are listed come one for each call, over all handles
or, for polls of the stream, for each handle; behind the end of a list there is success and
nothing.
-/

namespace GpuCounters.Driver

/-- What a library answers. -/
structure LibraryScript where
  metrics : List RawDescriptor := []
  /-- The status of describing each metric -/
  metricStatus : List Status := []
  information : List RawDescriptor := []
  /-- The status of describing each value of further information -/
  informationStatus : List Status := []
  /-- The status of each call that opens a driver -/
  opening : List Status := []
  /-- Whether there is no handle even with success -/
  opensNull : Bool := false
  openStream : Status := .success
  /-- The status of each call that makes a metric set current -/
  activation : List Status := []
  configuration : UInt32 := 0
  reportSize : UInt32 := 0
  /-- The answer to each poll of a handle's stream -/
  saves : List Status := []
  /-- The reports that each poll that saves something saves -/
  batches : List (List RawReport) := []
  informationValues : List (Option RawValue) := []
  informationValuesStatus : Status := .success
  /-- The report of each call that decodes one -/
  decoded : List RawReport := []

namespace LibraryScript

/-- The stream of a handle. -/
structure Tape where
  /-- How often it was polled -/
  polls : Nat := 0
  /-- How many batches were taken -/
  taken : Nat := 0
  saved : List RawReport := []

/-- What a library remembers. -/
structure State where
  openings : Nat := 0
  activations : Nat := 0
  decodings : Nat := 0
  /-- The stream of each handle -/
  tapes : List Tape := []

variable (script : LibraryScript)

/-- Descriptors with the status of describing each. -/
def described (descriptors : List RawDescriptor) (statuses : List Status) :
    List (Status × RawDescriptor) :=
  descriptors.zipIdx.map fun (descriptor, index) ↦
    ((statuses[index]?).getD .success, descriptor)

def openDriver (state : State) : (Status × Option Nat) × State :=
  let status := (script.opening[state.openings]?).getD .success
  let counted := { state with openings := state.openings + 1 }
  if status = .success ∧ script.opensNull = false then
    ((status, some state.tapes.length), { counted with tapes := state.tapes ++ [{}] })
  else ((status, none), counted)

/-- Poll the stream of a handle. -/
def save (handle : Nat) (state : State) : Status × State :=
  match state.tapes[handle]? with
  | none => (.success, state)
  | some tape =>
    let status := (script.saves[tape.polls]?).getD .success
    let next : Tape :=
      if status = 1 then
        ⟨tape.polls + 1, tape.taken + 1, tape.saved ++ (script.batches[tape.taken]?).getD []⟩
      else { tape with polls := tape.polls + 1 }
    (status, { state with tapes := state.tapes.set handle next })

/-- Drop the saved reports of a handle. -/
def reset (handle : Nat) (state : State) : State :=
  { state with tapes := state.tapes.modify handle fun tape ↦ { tape with saved := [] } }

/-- How many answers to polls the script still has for a handle. -/
def backlog (handle : Nat) (state : State) : Nat :=
  match state.tapes[handle]? with
  | none => 0
  | some tape => script.saves.length - tape.polls

/-- Every poll that saves something takes an answer from the script. -/
theorem backlog_save {handle : Nat} {state : State} (h : (script.save handle state).1 = 1) :
    script.backlog handle (reset handle (script.save handle state).2) <
      script.backlog handle state := by
  unfold save at h ⊢
  split at h
  · simp [Status.success] at h
  · rename_i tape found
    have bound : handle < state.tapes.length := (List.getElem?_eq_some_iff.1 found).1
    have left : tape.polls < script.saves.length := by
      rcases Nat.lt_or_ge tape.polls script.saves.length with small | large
      · exact small
      · simp [List.getElem?_eq_none large, Status.success] at h
    have same : state.tapes[handle] = tape := (List.getElem?_eq_some_iff.1 found).2
    simp only at h
    simp only [backlog, reset, h, if_true]
    simp [bound, same]
    omega

end LibraryScript

def scriptedLibrary (script : LibraryScript) : Library where
  State := LibraryScript.State
  openDriver _ state := script.openDriver state
  close _ state := state
  metrics _ _ := LibraryScript.described script.metrics script.metricStatus
  information _ _ := LibraryScript.described script.information script.informationStatus
  openStream _ _ state := (script.openStream, state)
  activate _ state :=
    ((script.activation[state.activations]?).getD .success,
      { state with activations := state.activations + 1 })
  configuration _ _ := script.configuration
  reportSize _ _ := script.reportSize
  save := script.save
  saved handle state := ((state.tapes[handle]?).map (·.saved)).getD []
  informationValues _ _ := (script.informationValuesStatus, script.informationValues)
  reset := LibraryScript.reset
  decode _ _ state :=
    ((script.decoded[state.decodings]?).getD {}, { state with decodings := state.decodings + 1 })
  backlog := script.backlog
  backlog_save _ _ h := script.backlog_save h

end GpuCounters.Driver
