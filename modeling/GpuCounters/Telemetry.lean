/-!
# Telemetry

The engine counts what it does. A count is a sample of its family once it was raised; the family
without labels always has its one sample. Counts are natural numbers, here as in sessions and
records: none is taken ever to reach the end of its machine word.
-/

namespace GpuCounters

structure Telemetry where
  /-- Queues created -/
  created : Nat := 0
  /-- Queues that the compute API refused -/
  driverErrors : Nat := 0
  /-- Queues for which no metric set could be made current -/
  activationFailures : Nat := 0
  /-- Queues that nothing was there for -/
  unavailable : Nat := 0
  /-- Queues with properties that were refused -/
  rejected : Nat := 0
  /-- Reports read from events -/
  eventReports : Nat := 0
  /-- Reports drained from streams -/
  streamReports : Nat := 0
  /-- Samples of events that could not be queried -/
  queryFailures : Nat := 0
  /-- Samples without a value -/
  emptySamples : Nat := 0
  /-- Rows written to dumps -/
  dumpRows : Nat := 0
  deriving DecidableEq, Repr

namespace Telemetry

structure Family where
  name : String
  help : String
  /-- The name of its label, and each label's count -/
  samples : List (Option (String × String) × Nat)

/-- Labelled counts that were raised, in the order of their labels. -/
def raised (label : String) (counts : List (String × Nat)) :
    List (Option (String × String) × Nat) :=
  (counts.filter (·.2 ≠ 0)).map fun (value, count) ↦ (some (label, value), count)

def families (telemetry : Telemetry) : List Family :=
  [⟨"mdlens_dump_rows_total", "Rows appended to metric dumps", [(none, telemetry.dumpRows)]⟩,
    ⟨"mdlens_queue_create_total", "Counter-enabled queue creation attempts",
      raised "status"
        [("activation_failed", telemetry.activationFailures),
          ("driver_error", telemetry.driverErrors), ("ok", telemetry.created),
          ("rejected", telemetry.rejected), ("unavailable", telemetry.unavailable)]⟩,
    ⟨"mdlens_reports_total", "Counter reports decoded",
      raised "mode" [("EBS", telemetry.eventReports), ("TBS", telemetry.streamReports)]⟩,
    ⟨"mdlens_samples_dropped_total", "Samples dropped before aggregation",
      raised "reason"
        [("empty", telemetry.emptySamples), ("query_failed", telemetry.queryFailures)]⟩]

def sampleLine (name : String) (label : Option (String × String)) (count : Nat) : String :=
  let labels := match label with
    | none => ""
    | some (key, value) => "\x7b" ++ key ++ "=\"" ++ value ++ "\"\x7d"
  name ++ labels ++ " " ++ String.ofList (Nat.toDigits 10 count)

def sampleLines (telemetry : Telemetry) : List String :=
  telemetry.families.flatMap fun family ↦
    family.samples.map fun (label, count) ↦ sampleLine family.name label count

/-- The lines of a family; one without samples has none. -/
def familyLines (family : Family) : List String :=
  if family.samples.isEmpty then []
  else
    ("# HELP " ++ family.name ++ " " ++ family.help) ::
      ("# TYPE " ++ family.name ++ " counter") ::
      family.samples.map fun (label, count) ↦ sampleLine family.name label count

def toText (telemetry : Telemetry) : String :=
  String.join ((telemetry.families.flatMap familyLines).map (· ++ "\n"))

end Telemetry

end GpuCounters
