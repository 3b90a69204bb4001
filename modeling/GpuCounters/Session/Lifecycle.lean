import GpuCounters.Session.Dump

/-!
# The life of a session

A session connects to a driver when it is first needed, and can be closed and started again. While
it is live it keeps its mode and its metric set. What was summed up outlives the driver.
-/

namespace GpuCounters.Session

variable {P : Driver.Provider} {C : Compute}

def connect (request : Driver.Request) : Run P C (Except Driver.Error P.Connection) := do
  Run.note (.connect request)
  let result ← Run.askDriver (P.connect request)
  match result with
  | .ok connection =>
    Run.log (.connected request.mode request.metricSet (P.metrics connection).length)
  | .error cause =>
    let failures := (← Run.session).connectFailures
    Run.log (if failures = 0 then .connectFailed cause else .stillUnavailable cause)
    Run.modifySession fun session ↦
      { session with connectFailures := session.connectFailures + 1 }
  return result

def openStream (connection : P.Connection) : Run P C Unit := do
  let parameters := Driver.StreamParameters.allProcesses Driver.streamPeriod
  Run.note (.openStream parameters)
  match ← Run.askDriver (P.openStream parameters connection) with
  | .ok () => pure ()
  | .error cause => Run.log (.streamFailed cause)

/-- Make a session that is not live live. -/
def start (request : Driver.Request) : Run P C (Except Error Unit) := do
  match ← connect request with
  | .error cause => return .error (.driverUnavailable cause)
  | .ok connection =>
    if request.mode = .time then openStream connection
    if (← Run.session).dump?.isNone then openDump request.mode request.metricSet connection
    Run.modifySession fun session ↦
      { session with
        active? := some ⟨request.mode, request.metricSet, connection⟩
        connectFailures := 0
        uninitializedReported := false }
    return .ok ()

/-- Make a session live for a request. A live session stays as it is, and refuses another mode or
metric set. -/
def ensureInitialized (request : Driver.Request) : Run P C (Except Error Unit) := do
  match (← Run.session).active? with
  | some active =>
    if active.mode ≠ request.mode ∨ active.metricSet ≠ request.metricSet then
      return .error
        (.reconfigured active.mode active.metricSet request.mode request.metricSet)
    else return .ok ()
  | none => start request

def disconnect : Run P C Unit := do
  match (← Run.session).active? with
  | none => pure ()
  | some active =>
    Run.modifySession fun session ↦ { session with active? := none }
    Run.note .disconnect
    Run.askDriver (P.disconnect active.connection)

def close : Run P C Unit := do
  closeDump
  disconnect
  Run.modifySession fun session ↦ { session with missingReported := false }

/-- Write a report as a row of a live session's dump; whether the session was live. -/
def write (label : String) (report : Report) : Run P C Bool := do
  return (← Run.withDriver fun _ ↦ writeRow label report).isSome

/-- Give a session up without a word: the driver is disconnected, and what waits for the dump is
written out if the disk takes it. -/
def drop : Run P C Unit := do
  disconnect
  match (← Run.session).dump? with
  | none => pure ()
  | some writer =>
    Run.modifySession fun session ↦ { session with dump? := none }
    Run.onDisk fun disk ↦ ((), writer.close disk)

end GpuCounters.Session
