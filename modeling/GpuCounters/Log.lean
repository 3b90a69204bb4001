import GpuCounters.Dump.Error
import GpuCounters.Queue.Error
import GpuCounters.Session.Error

/-!
# The log

What the engine has to say about its work, each with a level of its own.
-/

namespace GpuCounters.Log

open Storage

/-- How much an event matters. -/
inductive Level
  | debug
  | info
  | warn
  deriving DecidableEq, Repr

def Level.name : Level → String
  | .debug => "DEBUG"
  | .info => "INFO"
  | .warn => "WARN"

/-- What happened. -/
inductive Event
  /-- A driver was connected to. -/
  | connected (mode : Mode) (metricSet : String) (metrics : Nat)
  /-- No driver could be connected to, for the first time. -/
  | connectFailed (cause : Driver.Error)
  /-- No driver could be connected to, once again. -/
  | stillUnavailable (cause : Driver.Error)
  /-- The stream of a driver could not be opened. -/
  | streamFailed (cause : Driver.Error)
  /-- A dump was made. -/
  | dumpStarted (path : Path)
  /-- A dump of this session was opened again. -/
  | dumpReopened (path : Path)
  /-- A dump could not be opened. -/
  | dumpFailed (cause : Dump.Error)
  /-- A row could not be written. -/
  | rowFailed (cause : Dump.Error)
  /-- There is no dump to write rows to. -/
  | dumpMissing
  /-- No driver is connected. -/
  | uninitialized
  /-- A dump was closed. -/
  | dumpClosed (path : Path) (rows : Nat)
  /-- The rest of a dump could not be written. -/
  | flushFailed (cause : Dump.Error)
  /-- A platform does not have the extension. -/
  | entryPointMissing (platform : Platform)
  /-- A queue cannot have counters. -/
  | notActivated (cause : Queue.Error)
  /-- A queue is about to be created. -/
  | creating (configuration : UInt32)
  /-- A queue was created. -/
  | created
  /-- The compute API refused a queue. -/
  | creationFailed (status : Status)
  /-- The properties of a queue were refused. -/
  | propertiesRejected (refusal : Queue.Refusal)
  /-- An event was to be sampled in the wrong mode. -/
  | eventInMode (mode : Mode)
  /-- The report of an event could not be queried. -/
  | queryFailed (operation : String) (status : Status)
  /-- The report of an event does not have the size the driver said. -/
  | sizeMismatch (operation : String) (size expected : Nat)
  /-- A stream was to be drained in the wrong mode. -/
  | drainInMode (mode : Mode)
  /-- Reports came from the stream. -/
  | drained (reports : Nat)
  /-- A session was not started for a queue. -/
  | sessionNotStarted (cause : Session.Error)
  /-- The stream was drained for the last time. -/
  | finalDrain (reports : Nat)
  /-- A dump is finished. -/
  | dumpComplete (path : Path)
  /-- A driver library was opened. -/
  | libraryOpened (library metricSet : String) (metrics information : Nat)
  /-- A driver library answered a poll of its stream by a status of its own. -/
  | pollStatus (status : Status)
  /-- A saved report could not be read. -/
  | savedReportFailed (index : Nat) (status : Status)
  /-- A driver library did not tell its further information. -/
  | informationFailed (status : Status)
  /-- A report could not be decoded. -/
  | decodeFailed (status : Status)
  deriving DecidableEq, Repr

namespace Event

/-- How much an event matters. -/
def level : Event → Level
  | .connected _ _ _ | .dumpStarted _ | .dumpReopened _ | .dumpClosed _ _ | .creating _
  | .created | .dumpComplete _ => .info
  | .stillUnavailable _ | .drained _ | .sessionNotStarted _ | .finalDrain _
  | .libraryOpened _ _ _ _ | .pollStatus _ | .informationFailed _ => .debug
  | .connectFailed _ | .streamFailed _ | .dumpFailed _ | .rowFailed _ | .dumpMissing
  | .uninitialized | .flushFailed _ | .entryPointMissing _ | .notActivated _ | .creationFailed _
  | .propertiesRejected _ | .eventInMode _ | .queryFailed _ _ | .sizeMismatch _ _ _
  | .drainInMode _ | .savedReportFailed _ _ | .decodeFailed _ => .warn

def count (n : Nat) : String := String.ofList (Nat.toDigits 10 n)

def message : Event → String
  | .connected mode metricSet metrics =>
    "Metrics discovery initialized: " ++ mode.name ++ " sampling of " ++ metricSet ++ " (" ++
      count metrics ++ " metrics)"
  | .connectFailed cause => "Metrics discovery failed to initialize: " ++ cause.message
  | .stillUnavailable cause => "Metrics discovery still unavailable: " ++ cause.message
  | .streamFailed cause => "Failed to open metric stream: " ++ cause.message
  | .dumpStarted path => "Writing metric dump to " ++ path.text
  | .dumpReopened path => "Appending to metric dump " ++ path.text
  | .dumpFailed cause => "Failed to open metric dump: " ++ cause.message
  | .rowFailed cause => "Failed to write metric dump row: " ++ cause.message
  | .dumpMissing => "Metric dump is not open; counter rows will not be written"
  | .uninitialized => "Metrics discovery is not initialized; counter collection disabled"
  | .dumpClosed path rows =>
    "Closed metric dump " ++ path.text ++ " (" ++ count rows ++ " rows)"
  | .flushFailed cause => "Failed to flush metric dump: " ++ cause.message
  | .entryPointMissing platform => (Queue.Error.entryPointMissing platform).message
  | .notActivated cause => "Metrics discovery: " ++ cause.message
  | .creating configuration =>
    "Calling " ++ Queue.extensionName ++ " with configuration " ++ count configuration.toNat
  | .created => Queue.extensionName ++ " succeeded"
  | .creationFailed status =>
    Queue.extensionName ++ " returned " ++ status.name ++ " (" ++ status.toText ++ ")"
  | .propertiesRejected refusal => "Cannot create a counter queue: " ++ refusal.message
  | .eventInMode mode => "Event sample requested for a " ++ mode.name ++ " session"
  | .queryFailed operation status =>
    "Couldn't get counter data for " ++ operation ++ ": profiling query returned " ++
      status.name ++ " (" ++ status.toHex ++ ")"
  | .sizeMismatch operation size expected =>
    "Counter report for " ++ operation ++ " is " ++ count size ++ " bytes, expected " ++
      count expected
  | .drainInMode mode => "Stream drain requested for a " ++ mode.name ++ " session"
  | .drained reports => "Drained " ++ count reports ++ " stream reports"
  | .sessionNotStarted cause => "Counter session not started: " ++ cause.message
  | .finalDrain reports => "Final stream drain wrote " ++ count reports ++ " reports"
  | .dumpComplete path => "Metric dump complete: " ++ path.text
  | .libraryOpened library metricSet metrics information =>
    "Driver shim " ++ library ++ " opened " ++ metricSet ++ " (" ++ count metrics ++
      " metrics, " ++ count information ++ " information values)"
  | .pollStatus status => "mdlens_driver_save_stream_reports returned " ++ status.toText
  | .savedReportFailed index status =>
    "Couldn't read saved report " ++ count index ++ ": status " ++ status.toText
  | .informationFailed status => "mdlens_driver_io_info returned " ++ status.toText
  | .decodeFailed status => "Couldn't decode counter report: status " ++ status.toText

def line (event : Event) : String := event.level.name ++ " " ++ event.message

end Event

end GpuCounters.Log
