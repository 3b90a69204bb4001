import GpuCounters.Settings.Basic
import GpuCounters.Toml.Writer

/-!
# Printing settings

Settings are printed as a TOML document with one line for each setting that has a value.
-/

namespace GpuCounters.Settings

def toToml (settings : Settings) : String :=
  Toml.textLine "sampling" settings.sampling.name ++
    Toml.textLine "metric_set" settings.metricSet ++
    (match settings.metricsFile? with
      | some file => Toml.textLine "metrics_file" file
      | none => "") ++
    Toml.boolLine "include_max_values" settings.includeMax ++
    Toml.boolLine "report_timing" settings.reportTiming ++
    Toml.textLine "driver_library" settings.driverLibrary ++
    Toml.textLine "dump_root" settings.dumpRoot.text

end GpuCounters.Settings
