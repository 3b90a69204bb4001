import GpuCounters.Driver.Provider
import GpuCounters.Text.Utf8

/-!
# Drivers behind a library

A driver library answers by status codes and raw values. The provider over it turns these into
errors, reports and notes, and closes every handle that it was given.
-/

namespace GpuCounters.Driver

/-- A text in the memory of a library: null, or the bytes at an address. -/
abbrev RawText := Option ByteArray

/-- The text that raw text stands for: the bytes before the first zero, and nothing for null. -/
def ofRawText : RawText → String
  | none => ""
  | some bytes => Text.ofUtf8Lenient ⟨(bytes.toList.takeWhile (· ≠ 0)).toArray⟩

/-- A raw value: a number of some kind in 64 bits, or a text. -/
inductive RawValue
  | number (kind : UInt32) (bits : UInt64)
  | text (raw : RawText)

/-- The value that a raw value stands for, if its kind is known. -/
def RawValue.toValue? : RawValue → Option Value
  | .text raw => some (.text (ofRawText raw))
  | .number kind bits =>
    if kind = 0 then some (.u32 bits.toUInt32)
    else if kind = 1 then some (.u64 bits)
    else if kind = 2 then some (.f32 (.ofBits _ bits.toUInt32.toNat))
    else if kind = 3 then some (.bool (bits.toUInt8 ≠ 0))
    else none

/-- A name and a unit in the memory of a library. -/
structure RawDescriptor where
  name : RawText
  unit : RawText

def RawDescriptor.toDescriptor (raw : RawDescriptor) : Descriptor :=
  ⟨ofRawText raw.name, ofRawText raw.unit⟩

/-- What a library puts into the caller's buffers; what it leaves alone is `none`. -/
structure RawReport where
  status : Status := .success
  values : List (Option RawValue) := []
  /-- The greatest values, for a caller that wants them -/
  max : List (Option RawValue) := []

/-- A driver library. Handles are numbers. -/
structure Library where
  State : Type
  /-- Open a driver; a handle comes with success only, and not always then -/
  openDriver : Request → State → (Status × Option Nat) × State
  close : Nat → State → State
  /-- The results of describing each metric -/
  metrics : Nat → State → List (Status × RawDescriptor)
  /-- The results of describing each value of further information -/
  information : Nat → State → List (Status × RawDescriptor)
  openStream : StreamParameters → Nat → State → Status × State
  activate : Nat → State → Status × State
  configuration : Nat → State → UInt32
  reportSize : Nat → State → UInt32
  /-- Poll the stream; one says that something was saved -/
  save : Nat → State → Status × State
  /-- The saved reports -/
  saved : Nat → State → List RawReport
  /-- The further information of the last poll -/
  informationValues : Nat → State → Status × List (Option RawValue)
  reset : Nat → State → State
  decode : ByteArray → Nat → State → RawReport × State
  /-- A bound on how often the stream still has something -/
  backlog : Nat → State → Nat
  /-- The bound sinks with every poll that saves something. -/
  backlog_save : ∀ (handle : Nat) (state : State), (save handle state).1 = 1 →
    backlog handle (reset handle (save handle state).2) < backlog handle state

namespace Loaded

variable (library : Library)

/-- A connection: a handle, and what was asked for and described when it was opened. -/
structure Connection where
  handle : Nat
  metrics : List Descriptor
  information : List Descriptor
  includeMax : Bool

/-- The descriptors up to the first that the library cannot tell. -/
def readDescriptors (call : String) :
    List (Status × RawDescriptor) → Except Error (List Descriptor)
  | [] => .ok []
  | (status, raw) :: rest =>
    if status = .success then
      match readDescriptors call rest with
      | .ok descriptors => .ok (raw.toDescriptor :: descriptors)
      | .error cause => .error cause
    else .error (.callFailed call status)

/-- The error of a status by which a library refuses to open a driver. -/
def openError (request : Request) (status : Status) : Error :=
  if status = 1 then .metricSetNotFound request.metricSet
  else if status = 2 then
    .invalidMetricsFile (request.metricsFile?.getD "") "rejected by the driver"
  else if status = 3 then .unsupportedMode request.mode
  else .callFailed "mdlens_driver_open" status

/-- Whether a text can be handed to a library, which ends texts at the null character. -/
def isClean (text : String) : Bool := text.toList.all (· ≠ '\x00')

/-- What is wrong with a request before a library can be asked. -/
def requestError? (request : Request) : Option Error :=
  if !isClean request.metricSet then some (.metricSetNotFound request.metricSet)
  else
    match request.metricsFile? with
    | some path =>
      if isClean path then none else some (.invalidMetricsFile path "path contains a NUL byte")
    | none => none

/-- The connection of a handle, once everything is described. -/
def describe (request : Request) (handle : Nat) (state : library.State) :
    Except Error Connection :=
  match readDescriptors "mdlens_driver_metric" (library.metrics handle state) with
  | .error cause => .error cause
  | .ok metrics =>
    match readDescriptors "mdlens_driver_information" (library.information handle state) with
    | .error cause => .error cause
    | .ok information => .ok ⟨handle, metrics, information, request.includeMax⟩

/-- Open a driver. A handle whose driver cannot be described is closed again. -/
def connect (request : Request) (state : library.State) :
    Exchange library.State (Except Error Connection) :=
  match requestError? request with
  | some cause => { result := .error cause, state }
  | none =>
    let opening := Note.call (.openDriver request)
    match library.openDriver request state with
    | ((status, none), state) =>
      { result := .error (openError request status), state, notes := [opening] }
    | ((status, some handle), state) =>
      if status ≠ .success then
        { result := .error (openError request status), state, notes := [opening] }
      else
        match describe library request handle state with
        | .error cause =>
          { result := .error cause, state := library.close handle state,
            notes := [opening, .call .close] }
        | .ok connection =>
          { result := .ok connection, state,
            notes := [opening,
              .log (.libraryOpened request.library request.metricSet connection.metrics.length
                connection.information.length)] }

/-- The outcome of a call that answers by its status alone. -/
def outcome (call : String) (status : Status) : Except Error Unit :=
  if status = .success then .ok () else .error (.callFailed call status)

/-- The values that a library put into a buffer of the given length. -/
def fill (length : Nat) (values : List (Option RawValue)) : List (Option Value) :=
  (values.map fun raw ↦ raw.bind RawValue.toValue?).take length ++
    List.replicate (length - values.length) none

/-- The report of raw values: a metric without a known value is left out. -/
def report (connection : Connection) (raw : RawReport) : Report :=
  let count := connection.metrics.length
  let max := if connection.includeMax then fill count raw.max else List.replicate count none
  { metrics := (connection.metrics.zip ((fill count raw.values).zip max)).filterMap
      fun (metric, value?, max?) ↦ value?.map fun value ↦ ⟨metric.name, value, max?⟩ }

def poll (connection : Connection) (state : library.State) : Exchange library.State Bool :=
  match library.save connection.handle state with
  | (status, state) =>
    { result := status = 1
      state
      notes := .call .save ::
        if status = 1 ∨ status = 0 then [] else [.log (.pollStatus status)] }

/-- The saved reports that can be read. -/
def savedReports (connection : Connection) (state : library.State) :
    Exchange library.State (List Report) :=
  let raw := library.saved connection.handle state
  { result := (raw.filter (·.status = .success)).map (report connection)
    state
    notes := raw.zipIdx.filterMap fun (raw, index) ↦
      if raw.status = .success then none else some (.log (.savedReportFailed index raw.status)) }

/-- The further information, one value for each descriptor; a value that is not known is an empty
text. -/
def informationValues (connection : Connection) (state : library.State) :
    Exchange library.State (List Value) :=
  if connection.information = [] then { result := [], state }
  else
    match library.informationValues connection.handle state with
    | (status, raw) =>
      if status = .success then
        { result := (fill connection.information.length raw).map (·.getD (.text ""))
          state
          notes := [.call .information] }
      else { result := [], state, notes := [.call .information, .log (.informationFailed status)] }

variable {library}

@[simp] theorem state_savedReports (connection : Connection) (state : library.State) :
    (savedReports library connection state).state = state := rfl

@[simp] theorem state_informationValues (connection : Connection) (state : library.State) :
    (informationValues library connection state).state = state := by
  unfold informationValues
  split
  · rfl
  · dsimp only
    split <;> rfl

/-- Every poll that finds something takes from the stream. -/
theorem backlog_poll (library : Library) {connection : Connection} {state : library.State}
    (h : (poll library connection state).result = true) :
    library.backlog connection.handle
        (library.reset connection.handle (poll library connection state).state) <
      library.backlog connection.handle state :=
  library.backlog_save connection.handle state (of_decide_eq_true h)

variable (library)

def decode (bytes : ByteArray) (connection : Connection) (state : library.State) :
    Exchange library.State Report :=
  match library.decode bytes connection.handle state with
  | (raw, state) =>
    if raw.status = .success then
      { result := report connection raw, state, notes := [.call (.decode bytes)] }
    else { result := {}, state, notes := [.call (.decode bytes), .log (.decodeFailed raw.status)] }

end Loaded

/-- The provider of drivers behind a library. `refusal` says why the library of a name cannot be
loaded, if it cannot. -/
def loaded (refusal : String → Option String) (library : Library) : Provider where
  State := library.State
  Connection := Loaded.Connection
  connect request state :=
    match refusal request.library with
    | some reason => { result := .error (.libraryUnavailable request.library reason), state }
    | none => Loaded.connect library request state
  disconnect connection state :=
    { result := (), state := library.close connection.handle state, notes := [.call .close] }
  metrics connection := connection.metrics
  information connection := connection.information
  includesMax connection := connection.includeMax
  openStream parameters connection state :=
    match library.openStream parameters connection.handle state with
    | (status, state) =>
      { result := Loaded.outcome "mdlens_driver_open_stream" status, state,
        notes := [.call (.openStream parameters)] }
  activate connection state :=
    match library.activate connection.handle state with
    | (status, state) =>
      { result := Loaded.outcome "mdlens_driver_activate" status, state,
        notes := [.call .activate] }
  configuration connection state := library.configuration connection.handle state
  poll := Loaded.poll library
  savedReports := Loaded.savedReports library
  informationValues := Loaded.informationValues library
  reset connection state :=
    { result := (), state := library.reset connection.handle state, notes := [.call .reset] }
  reportSize connection state := (library.reportSize connection.handle state).toNat
  decode := Loaded.decode library
  backlog connection state := library.backlog connection.handle state
  backlog_round connection state h := by
    rw [Loaded.state_informationValues, Loaded.state_savedReports]
    exact Loaded.backlog_poll library h

end GpuCounters.Driver
