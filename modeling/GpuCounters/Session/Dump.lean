import GpuCounters.Session.System

/-!
# The dump of a session

The dump takes a row for each report as long as it is open. A row that cannot be written is logged
and given up, and so is the dump if it cannot be opened or finished.
-/

namespace GpuCounters.Session

open Storage

variable {P : Driver.Provider} {C : Compute}

/-- Write a report as a row of the dump, if one is open. The first row without a dump since the
last close is logged. -/
def writeRow (label : String) (report : Report) : Run P C Unit := do
  let session ← Run.session
  match session.dump? with
  | some writer =>
    let (result, writer) ← Run.onDisk fun disk ↦
      let (result, writer, disk) := writer.writeRow label report disk
      ((result, writer), disk)
    Run.modifySession fun session ↦ { session with dump? := some writer }
    match result with
    | .ok () => Run.count fun counts ↦ { counts with dumpRows := counts.dumpRows + 1 }
    | .error cause => Run.log (.rowFailed cause)
  | none =>
    if !session.missingReported then
      Run.log .dumpMissing
      Run.modifySession fun session ↦ { session with missingReported := true }

def layout (mode : Mode) (connection : P.Connection) : Dump.Layout :=
  ⟨mode, P.metrics connection, P.information connection, P.includesMax connection⟩

/-- Whether a session has made a dump. -/
def hasOpened (session : Session P) (path : Path) : Bool := session.openedDumps.any path.same

/-- Open the dump of a metric set: one that this session has made is gone on with, any other is
made anew. -/
def openDump (mode : Mode) (metricSet : String) (connection : P.Connection) : Run P C Unit := do
  let system ← get
  let path := system.dumpFile metricSet
  let reopen := hasOpened system.session path
  let access := if reopen then Disk.Access.append else .overwrite
  match ← Run.onDisk (Dump.Writer.start path (layout mode connection) access) with
  | .ok writer =>
    if reopen then
      Run.log (.dumpReopened path)
      Run.modifySession fun session ↦ { session with dump? := some writer }
    else
      Run.log (.dumpStarted path)
      Run.modifySession fun session ↦
        { session with
          dump? := some writer
          openedDumps := session.openedDumps ++ [path] }
  | .error cause => Run.log (.dumpFailed cause)

def closeDump : Run P C Unit := do
  match (← Run.session).dump? with
  | none => pure ()
  | some writer =>
    Run.modifySession fun session ↦ { session with dump? := none }
    let (result, writer) ← Run.onDisk fun disk ↦
      let (result, writer, disk) := writer.flush disk
      ((result, writer), disk)
    match result with
    | .ok () => Run.log (.dumpClosed writer.path writer.rows)
    | .error cause => Run.log (.flushFailed cause)
    Run.onDisk fun disk ↦ ((), writer.close disk)

end GpuCounters.Session
