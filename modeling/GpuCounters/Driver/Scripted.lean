import GpuCounters.Driver.Provider

/-!
# Scripted drivers

A driver that follows a script needs no hardware. Its stream has one batch of reports for each
poll that finds something, and the report of an event is one number of four bytes for each metric,
least byte first.
-/

namespace GpuCounters.Driver

/-- What a driver answers. -/
structure Script where
  metrics : List Descriptor
  information : List Descriptor := []
  configuration : UInt32 := 1
  /-- The reports of the stream, one batch for each poll that finds something -/
  batches : List (List Report) := []
  informationValues : List Value := []
  /-- Whether the metric set cannot be made current -/
  failsActivation : Bool := false
  /-- Whether the reports of events are empty -/
  decodesNothing : Bool := false

namespace Script

/-- Three metrics and one value of further information. -/
def computeBasic : Script where
  metrics := [⟨"GpuTime", "ns"⟩, ⟨"EuActive", "percent"⟩, ⟨"EuStall", "percent"⟩]
  information := [⟨"ReportLost", ""⟩]
  informationValues := [.bool false]
  configuration := 7

/-- The bytes of a number, least one first. -/
def encodeNumber (n : UInt32) : List UInt8 :=
  [n.toUInt8, (n >>> 8).toUInt8, (n >>> 16).toUInt8, (n >>> 24).toUInt8]

/-- The report of an event with the given numbers. -/
def encode (numbers : List UInt32) : ByteArray :=
  ⟨(numbers.flatMap encodeNumber).toArray⟩

/-- The numbers of bytes, four for each; what is left over at the end is none. -/
def decodeNumbers : List UInt8 → List UInt32
  | a :: b :: c :: d :: rest =>
    (a.toUInt32 ||| b.toUInt32 <<< 8 ||| c.toUInt32 <<< 16 ||| d.toUInt32 <<< 24) ::
      decodeNumbers rest
  | _ => []

/-- A report with one number for each metric, as far as both go. -/
def report (script : Script) (numbers : List UInt32) : Report :=
  { metrics := (script.metrics.zip numbers).map fun (metric, n) ↦ ⟨metric.name, .u32 n, none⟩ }

def greatest : Value := .u32 100

def decode (script : Script) (includeMax : Bool) (bytes : ByteArray) : Report :=
  if script.decodesNothing then {}
  else
    { metrics := (script.metrics.zip (decodeNumbers bytes.toList)).map fun (metric, n) ↦
        ⟨metric.name, .u32 n, if includeMax then some greatest else none⟩ }

end Script

namespace Scripted

/-- What the connections of a provider have in common: the latest one's stream. -/
structure State where
  /-- The batches that the stream still has -/
  pending : List (List Report) := []
  /-- The reports in the driver's store -/
  saved : List Report := []

structure Connection where
  script : Script
  includeMax : Bool

/-- Connect, unless there is no script. -/
def connect (script? : Option Script) (request : Request) (state : State) :
    Exchange State (Except Error Connection) :=
  match script? with
  | none => { result := .error (.libraryUnavailable request.library "scripted failure"), state }
  | some script =>
    { result := .ok ⟨script, request.includeMax⟩, state := ⟨script.batches, []⟩ }

/-- Move the next batch into the store. -/
def poll (state : State) : Exchange State Bool :=
  match state.pending with
  | [] => { result := false, state }
  | batch :: rest => { result := true, state := ⟨rest, state.saved ++ batch⟩ }

def activate (connection : Connection) : Except Error Unit :=
  if connection.script.failsActivation then .error (.callFailed "ActivateMetricSet" 1) else .ok ()

/-- Every poll that finds something takes a batch. -/
theorem length_pending_poll {state : State} (h : (poll state).result = true) :
    (poll state).state.pending.length < state.pending.length := by
  unfold poll at h ⊢
  split at h
  · simp at h
  · rename_i pending
    simp [pending]

end Scripted

/-- The provider of drivers that follow a script; without a script no driver can be connected
to. -/
def scripted (script? : Option Script) : Provider where
  State := Scripted.State
  Connection := Scripted.Connection
  connect := Scripted.connect script?
  disconnect _ state := { result := (), state }
  metrics connection := connection.script.metrics
  information connection := connection.script.information
  includesMax connection := connection.includeMax
  openStream _ _ state := { result := .ok (), state }
  activate connection state := { result := Scripted.activate connection, state }
  configuration connection _ := connection.script.configuration
  poll _ state := Scripted.poll state
  savedReports _ state := { result := state.saved, state }
  informationValues connection state := { result := connection.script.informationValues, state }
  reset _ state := { result := (), state := { state with saved := [] } }
  reportSize connection _ := connection.script.metrics.length * 4
  decode bytes connection state :=
    { result := connection.script.decode connection.includeMax bytes, state }
  backlog _ state := state.pending.length
  backlog_round _ _ h := Scripted.length_pending_poll h

end GpuCounters.Driver
