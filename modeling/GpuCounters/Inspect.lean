import GpuCounters.Engine
import GpuCounters.Text.Quoted

/-!
# Inspection

The parts of an engine shown as records with named fields, for a person who looks for what is
wrong.
-/

namespace GpuCounters.Inspect

open Storage

/-- A record: its name, and the names and texts of its fields. -/
def record (name : String) (fields : List (String × String)) : String :=
  name ++ " \x7b " ++ ", ".intercalate (fields.map fun (key, value) ↦ key ++ ": " ++ value) ++
    " \x7d"

def optional : Option String → String
  | none => "None"
  | some text => "Some(" ++ text ++ ")"

def number (n : Nat) : String := String.ofList (Nat.toDigits 10 n)

def bool (b : Bool) : String := if b then "true" else "false"

def text (s : String) : String := Text.quote .double s

def path (p : Path) : String := Text.quote .both p.text

def mode : Mode → String
  | .event => "EventBased"
  | .time => "TimeBased"

def active {P : Driver.Provider} (live : Active P) : String :=
  record "ActiveDriver"
    [("mode", mode live.mode), ("metric_set", text live.metricSet),
      ("metrics", number (P.metrics live.connection).length)]

variable {P : Driver.Provider} {C : Compute}

/-- A session's state, as long as no dump is open. -/
def sessionState (session : Session P) : String :=
  record "SessionState"
    [("active", optional (session.active?.map active)), ("dump", "None"),
      ("dump_missing_reported", bool session.missingReported),
      ("connect_failures", number session.connectFailures),
      ("opened_dumps", "[" ++ ", ".intercalate (session.openedDumps.map path) ++ "]")]

/-- A session, unless a dump is open. -/
def session? (system : System P C) : Option String :=
  match system.session.dump? with
  | some _ => none
  | none =>
    some (record "CounterSession"
      [("dump_root", path system.dumpRoot), ("state", sessionState system.session)])

def factory (system : System P C) : String :=
  record "CounterQueueFactory" [("platforms", number system.entryPoints.length)]

def settings (s : Settings) : String :=
  record "EngineConfig"
    [("sampling", mode s.sampling), ("metric_set", text s.metricSet),
      ("metrics_file", optional (s.metricsFile?.map fun file ↦ path ⟨file⟩)),
      ("include_max_values", bool s.includeMax), ("report_timing", bool s.reportTiming),
      ("driver_library", text s.driverLibrary), ("dump_root", path s.dumpRoot)]

/-- An engine, unless a dump is open. -/
def engine? (s : Settings) (system : System P C) : Option String :=
  (session? system).map fun session ↦
    record "CounterEngine"
      [("config", settings s), ("session", session), ("queues", factory system)]

end GpuCounters.Inspect
