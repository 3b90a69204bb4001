import GpuCounters.Storage.Path

/-!
# Where dumps are

Each process has a directory of dumps of its own, and in it one file for each metric set.
-/

namespace GpuCounters.Dump

open Storage

def directoryName : String := "mdlens_dump"

def directory (root : Path) (process : String) : Path :=
  (root.join directoryName).join process

def fileName (metricSet : String) : String := "perfcounters_" ++ metricSet ++ ".csv"

def file (directory : Path) (metricSet : String) : Path := directory.join (fileName metricSet)

end GpuCounters.Dump
