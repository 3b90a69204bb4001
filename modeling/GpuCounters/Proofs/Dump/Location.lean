import GpuCounters.Dump.Location
import GpuCounters.Proofs.Storage.Components

/-!
# Places of dumps

The name of a metric set without a slash is the name of one file. The dumps of two such metric sets
are two files in one directory, so that no two of them are ever at the same place.
-/

namespace GpuCounters.Dump

open Storage

/-- The path of a dump of which the metric set has no slash in its name. -/
def IsPlain (directory path : Path) : Prop :=
  ∃ metricSet : String, '/' ∉ metricSet.toList ∧ path = file directory metricSet

/-! ## Names of files -/

variable {metricSet : String}

theorem toList_fileName (metricSet : String) :
    ∃ rest, (fileName metricSet).toList = 'p' :: 'e' :: rest := by
  refine ⟨"rfcounters_".toList ++ metricSet.toList ++ ".csv".toList, ?_⟩
  rw [fileName, String.toList_append, String.toList_append]
  rfl

/-- The name of a dump is one step, whatever the metric set is, as long as it has no slash. -/
theorem isName_fileName (h : '/' ∉ metricSet.toList) : IsName (fileName metricSet) := by
  obtain ⟨rest, hrest⟩ := toList_fileName metricSet
  refine ⟨?_, by simp [fileName, h], ?_, ?_⟩
  all_goals
    intro heq
    rw [heq] at hrest
    simp at hrest

theorem place_file (directory : Path) (h : '/' ∉ metricSet.toList) :
    (file directory metricSet).place = directory.place ++ [fileName metricSet] :=
  Path.place_join (isName_fileName h) directory

/-! ## Places -/

theorem fileName_injective {metricSet other : String} (h : fileName metricSet = fileName other) :
    metricSet = other := by
  have hlist := congrArg String.toList h
  simp only [fileName, String.toList_append] at hlist
  have hfront := List.append_cancel_left (List.append_cancel_right hlist)
  exact String.toList_inj.1 hfront

/-- Two plain dumps at one place are the same dump. -/
theorem IsPlain.eq_of_place {directory path other : Path} (hpath : IsPlain directory path)
    (hother : IsPlain directory other) (h : path.place = other.place) : path = other := by
  obtain ⟨one, hone, rfl⟩ := hpath
  obtain ⟨two, htwo, rfl⟩ := hother
  rw [place_file directory hone, place_file directory htwo] at h
  have hnames := List.append_cancel_left h
  rw [fileName_injective (List.singleton_inj.1 hnames)]

end GpuCounters.Dump
