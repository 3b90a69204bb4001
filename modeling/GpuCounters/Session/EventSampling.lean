import GpuCounters.Session.Lifecycle

/-!
# Sampling of events

The report that came with a completed event is decoded, dumped under the operation's name and
summed up.
-/

namespace GpuCounters.Session

variable {P : Driver.Provider} {C : Compute}

/-- What became of a sample. -/
inductive SampleOutcome
  /-- No driver is connected. -/
  | noSession
  /-- The session samples a stream. -/
  | wrongMode
  /-- The report could not be queried. -/
  | queryFailed (status : Status)
  /-- The report has no value. -/
  | empty
  /-- The report was dumped and summed up. -/
  | recorded (metrics : Nat)
  deriving DecidableEq, Repr

/-- Decode the bytes of an event's report. -/
def decode (connection : P.Connection) (bytes : ByteArray) : Run P C Report := do
  Run.note .decode
  Run.askDriver (P.decode bytes connection)

def query (operation : String) (event : Event) (size : Nat) :
    Run P C (Except Status ProfilingInfo) := do
  Run.note (.profilingQuery event)
  let result ← Run.askCompute (C.profilingInfo event size)
  match result with
  | .error status =>
    Run.log (.queryFailed operation status)
    Run.count fun counts ↦ { counts with queryFailures := counts.queryFailures + 1 }
  | .ok info =>
    if info.size ≠ size then Run.log (.sizeMismatch operation info.size size)
  return result

/-- Read the report of an event from a live driver, and dump it. -/
def readEvent (operation : String) (event : Event) (active : Active P) :
    Run P C (Except SampleOutcome Report) := do
  if active.mode ≠ .event then
    Run.log (.eventInMode active.mode)
    return .error .wrongMode
  else
    let size := P.reportSize active.connection (← get).driver
    match ← query operation event size with
    | .error status => return .error (.queryFailed status)
    | .ok info =>
      let report ← decode active.connection (info.buffer size)
      if report.isEmpty then
        Run.count fun counts ↦ { counts with emptySamples := counts.emptySamples + 1 }
        return .error .empty
      else
        writeRow operation report
        return .ok report

def sampleEvent (operation : String) (event : Event) : Run P C SampleOutcome := do
  match ← Run.withDriver (readEvent operation event) with
  | none => return .noSession
  | some (.error outcome) => return outcome
  | some (.ok report) =>
    Run.modifySession fun session ↦
      { session with aggregator := session.aggregator.add operation report }
    Run.count fun counts ↦ { counts with eventReports := counts.eventReports + 1 }
    return .recorded report.length

end GpuCounters.Session
