import GpuCounters.Proofs.Settings.Overlay
import GpuCounters.Proofs.Toml.Documents
import GpuCounters.Settings.Print

/-!
# Settings that are printed

The document that settings are printed as is a line for each setting. It is read back as these
values, so that loading it gives the settings again, whatever their texts are.
-/

namespace GpuCounters.Settings

open Toml (Scalar)

/-- The settings that a document has a line for, with their values. -/
def scalars (settings : Settings) : List (String × Scalar) :=
  [("sampling", .text settings.sampling.name), ("metric_set", .text settings.metricSet)] ++
    (settings.metricsFile?.map fun file ↦ ("metrics_file", Scalar.text file)).toList ++
    [("include_max_values", .bool settings.includeMax),
      ("report_timing", .bool settings.reportTiming),
      ("driver_library", .text settings.driverLibrary),
      ("dump_root", .text settings.dumpRoot.text)]

theorem toList_toToml (settings : Settings) :
    settings.toToml.toList = Toml.document settings.scalars := by
  unfold toToml scalars
  cases settings.metricsFile? with
  | none => simp [Toml.document, Scalar.line]
  | some file => simp [Toml.document, Scalar.line]

/-- Only a metrics file can be missing. -/
theorem map_fst_scalars (settings : Settings) :
    settings.scalars.map Prod.fst =
      if settings.metricsFile?.isSome then settingKeys else settingKeys.erase "metrics_file" := by
  unfold scalars
  cases settings.metricsFile? with
  | none =>
    have hrest : ["sampling", "metric_set", "include_max_values", "report_timing",
        "driver_library", "dump_root"] = settingKeys.erase "metrics_file" := by decide
    exact hrest
  | some file => rfl

theorem nodup_scalars (settings : Settings) : (settings.scalars.map Prod.fst).Nodup := by
  rw [map_fst_scalars]
  split <;> decide

theorem mem_settingKeys_of_mem_scalars {settings : Settings} {entry : String × Scalar}
    (h : entry ∈ settings.scalars) : entry.1 ∈ settingKeys := by
  have hkey := List.mem_map_of_mem (f := Prod.fst) h
  rw [map_fst_scalars] at hkey
  split at hkey
  · exact hkey
  · exact List.mem_of_mem_erase hkey

theorem isBareKey_of_mem_settingKeys {key : String} (h : key ∈ settingKeys) :
    Toml.IsBareKey key := by
  have hall : ∀ key ∈ settingKeys, Toml.IsBareKey key := by decide
  exact hall key h

theorem read?_toToml (settings : Settings) :
    Toml.read? settings.toToml = some (Toml.entriesOf settings.scalars) :=
  Toml.read?_of_lines (toList_toToml settings)
    (fun _ hentry ↦ isBareKey_of_mem_settingKeys (mem_settingKeys_of_mem_scalars hentry))
    (nodup_scalars settings)

/-- The loose value of a text or a truth value. -/
def Loose.ofScalar : Scalar → Loose
  | .text s => .text s
  | .bool b => .bool b

theorem Loose.ofEntries_entriesOf (entries : List (String × Scalar)) :
    Loose.ofEntries (Toml.entriesOf entries) =
      entries.map fun (key, scalar) ↦ (key, Loose.ofScalar scalar) := by
  induction entries with
  | nil => rfl
  | cons entry entries ih =>
    obtain ⟨key, scalar⟩ := entry
    have hcons : Toml.entriesOf ((key, scalar) :: entries) =
        (key, scalar.value) :: Toml.entriesOf entries := rfl
    rw [hcons, ofEntries, ih, List.map_cons]
    cases scalar <;> rfl

/-- What the printed document says of a setting. -/
theorem lookup_ofEntries_scalars (settings : Settings) {key : String} (h : key ∈ settingKeys) :
    (Source.ofEntries (Toml.entriesOf settings.scalars)).lookup key =
      (settings.scalars.map fun (key, scalar) ↦ (key, Loose.ofScalar scalar)).lookup key := by
  have hkeys : (settings.scalars.map fun (key, scalar) ↦ (key, Loose.ofScalar scalar)).map
      Prod.fst = settings.scalars.map Prod.fst := by
    rw [List.map_map]
    rfl
  have hadded : Source.ofEntries (Toml.entriesOf settings.scalars) =
      Source.addAll [] (settings.scalars.map fun (key, scalar) ↦ (key, Loose.ofScalar scalar)) := by
    rw [Source.ofEntries, Loose.ofEntries_entriesOf]
    rfl
  have hdistinct : ((settings.scalars.map fun (key, scalar) ↦
      (key, Loose.ofScalar scalar)).map Prod.fst).Nodup := by
    rw [hkeys]
    exact nodup_scalars settings
  have hnames : ∀ value ∈ settings.scalars.map fun (key, scalar) ↦ (key, Loose.ofScalar scalar),
      value.1 ∈ settingKeys ∨ IsOther 0 value.1 := by
    intro value hvalue
    obtain ⟨entry, hentry, rfl⟩ := List.mem_map.1 hvalue
    exact .inl (mem_settingKeys_of_mem_scalars hentry)
  rw [hadded, Source.lookup_addAll [] hdistinct hnames h]
  exact Option.or_none

theorem mode?_name (mode : Mode) : Loose.mode? (.text mode.name) = some mode := by
  cases mode <;> decide

/-- Each setting is read as it was printed, and a metrics file that is missing is its default. -/
theorem reads_scalars (settings : Settings) :
    Reads (Source.ofEntries (Toml.entriesOf settings.scalars)) settings := by
  have hlookup (key : String) (h : key ∈ settingKeys) := lookup_ofEntries_scalars settings h
  unfold scalars at hlookup
  refine ⟨?_, ?_, ?_, ?_, ?_, ?_, ?_⟩
  all_goals
    unfold take
    rw [scalars, hlookup _ (by decide)]
    cases settings.metricsFile? <;>
      simp [List.lookup_cons, Loose.ofScalar, mode?_name, Loose.text?, Loose.bool?]

/-! ## Loading -/

theorem valuesOf_eq_nil {environment : List (String × String)}
    (h : ∀ entry ∈ environment, variableKey? entry.1 = none) : valuesOf environment = [] := by
  induction environment with
  | nil => rfl
  | cons entry environment ih =>
    obtain ⟨hentry, hrest⟩ := List.forall_mem_cons.1 h
    obtain ⟨name, text⟩ := entry
    rw [valuesOf_cons_of_none hentry, ih hrest]

/-- Settings that are printed are loaded again as they are, where no variable says otherwise, and
print the same document again. -/
theorem load_toToml {settings : Settings} (hvalid : settings.IsValid)
    {environment : List (String × String)}
    (hunset : ∀ entry ∈ environment, variableKey? entry.1 = none) :
    load (some (some settings.toToml)) environment = .ok settings ∧
      (load (some (some settings.toToml)) environment).map toToml = .ok settings.toToml := by
  have hload : load (some (some settings.toToml)) environment = .ok settings := by
    rw [load_eq_ok_iff]
    refine ⟨Source.ofEntries (Toml.entriesOf settings.scalars), ?_, ?_, hvalid⟩
    · rw [sourceOf?, read?_toToml, Option.map_some]
    · rw [Source.addVariables_eq_addAll, valuesOf_eq_nil hunset, ofSource?_eq_some_iff]
      exact reads_scalars settings
  rw [hload]
  exact ⟨rfl, rfl⟩

/-- Settings with quotes, backslashes, control characters and line ends in their texts. -/
def quotedSettings : Settings where
  sampling := .time
  metricSet := "Set \"\"\"A\"\"\" 'B'\nC\\ \x01"
  metricsFile? := some "'''\r\n\"\"\"\""
  includeMax := true
  driverLibrary := "C:\\lib\\md.dll"
  dumpRoot := ⟨""⟩

/-- Texts of several forms are loaded again. -/
theorem load_toToml_quotedSettings :
    quotedSettings.IsValid ∧
      (∀ entry ∈ [("PATH", "/bin"), ("MDLENS", "1")], variableKey? entry.1 = none) ∧
      quotedSettings.toToml =
        "sampling = \"time-based\"\n" ++
          "metric_set = \"\"\"\nSet \"\"\\\"A\"\"\\\" 'B'\nC\\\\ \\u0001\"\"\"\n" ++
          "metrics_file = \"\"\"\n'''\\r\n\"\"\\\"\"\"\"\"\n" ++
          "include_max_values = true\nreport_timing = true\n" ++
          "driver_library = 'C:\\lib\\md.dll'\ndump_root = \"\"\n" ∧
      load (some (some quotedSettings.toToml)) [("PATH", "/bin"), ("MDLENS", "1")] =
        .ok quotedSettings := by
  have hvalid : quotedSettings.IsValid := by decide +kernel
  have hunset : ∀ entry ∈ [("PATH", "/bin"), ("MDLENS", "1")], variableKey? entry.1 = none := by
    decide
  exact ⟨hvalid, hunset, by decide +kernel, (load_toToml hvalid hunset).1⟩

end GpuCounters.Settings
