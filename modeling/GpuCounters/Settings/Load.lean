import GpuCounters.Settings.Source

/-!
# Loading settings

Each setting is taken from the environment, or else from the file, or else from the defaults, and
all of them together have to be of use.
-/

namespace GpuCounters.Settings

/-- Why there are no settings. -/
inductive LoadError
  /-- The file is missing or no document. -/
  | unreadable
  /-- A setting has a value of the wrong kind. -/
  | wrongKind
  /-- The settings are of no use. -/
  | invalid (flaw : Invalid)
  deriving DecidableEq, Repr

def LoadError.message : LoadError → String
  | .unreadable => "Failed to read configuration"
  | .wrongKind => "Invalid configuration values"
  | .invalid flaw => flaw.message

/-- A setting from a source, or its default; `none` if the source has a value of the wrong kind. -/
def take {α : Type} (source : Source) (key : String) (read : Loose → Option α) (default : α) :
    Option α :=
  match source.lookup key with
  | none => some default
  | some value => read value

def ofSource? (source : Source) : Option Settings := do
  let defaults : Settings := {}
  return {
    sampling := ← take source "sampling" Loose.mode? defaults.sampling
    metricSet := ← take source "metric_set" Loose.text? defaults.metricSet
    metricsFile? :=
      ← take source "metrics_file" (fun value ↦ value.text?.map some) defaults.metricsFile?
    includeMax := ← take source "include_max_values" Loose.bool? defaults.includeMax
    reportTiming := ← take source "report_timing" Loose.bool? defaults.reportTiming
    driverLibrary := ← take source "driver_library" Loose.text? defaults.driverLibrary
    dumpRoot :=
      ← take source "dump_root" (fun value ↦ value.text?.map Storage.Path.mk) defaults.dumpRoot }

/-- The settings of a file, if one is named, and of the environment. `file` is what was read under
that name, if anything was. -/
def load (file : Option (Option String)) (environment : List (String × String)) :
    Except LoadError Settings :=
  let source? : Option Source := match file with
    | none => some []
    | some none => none
    | some (some text) => (Toml.read? text).map Source.ofEntries
  match source? with
  | none => .error .unreadable
  | some source =>
    match ofSource? (source.addVariables environment) with
    | none => .error .wrongKind
    | some settings =>
      match settings.flaw? with
      | some flaw => .error (.invalid flaw)
      | none => .ok settings

end GpuCounters.Settings
