import GpuCounters.Session.Lifecycle

/-!
# Sampling of streams

A stream is drained until it has nothing more. Each of its reports becomes a row of the dump under
the tag of the sampling mode, with the further information of the poll that it came with.
-/

namespace GpuCounters.Session

variable {P : Driver.Provider} {C : Compute}

/-- Write reports as rows with the same further information. -/
def writeReports (information : List Value) : List Report → Run P C Unit
  | [] => pure ()
  | report :: rest => do
    writeRow Mode.time.tag { report with information }
    writeReports information rest

/-- Write out what a poll has found; how many reports it was. -/
def takeReports (connection : P.Connection) : Run P C Nat := do
  let reports ← Run.askDriver (P.savedReports connection)
  let information ← Run.askDriver (P.informationValues connection)
  Run.log (.drained reports.length)
  writeReports information reports
  Run.note .reset
  Run.askDriver (P.reset connection)
  return reports.length

/-- Poll a stream until it has nothing more, at most as often as the fuel says; how many reports
there were. -/
def drainLoop (connection : P.Connection) : Nat → Run P C Nat
  | 0 => return 0
  | fuel + 1 => do
    Run.note .poll
    if ← Run.askDriver (P.poll connection) then
      let taken ← takeReports connection
      return taken + (← drainLoop connection fuel)
    else return 0

/-- Drain the stream of a live driver; how many reports there were. The provider's bound says how
often the stream can still have something, and then one poll finds nothing. -/
def drainActive (active : Active P) : Run P C Nat := do
  if active.mode ≠ .time then
    Run.log (.drainInMode active.mode)
    return 0
  else
    let drained ← drainLoop active.connection (P.backlog active.connection (← get).driver + 1)
    if drained ≠ 0 then
      Run.count fun counts ↦ { counts with streamReports := counts.streamReports + drained }
    return drained

/-- Drain the stream of a session; how many reports there were. -/
def drainStream : Run P C Nat := do
  return (← Run.withDriver drainActive).getD 0

end GpuCounters.Session
