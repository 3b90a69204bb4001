import GpuCounters.Settings.Load
import Mathlib.Data.List.Nodup

/-!
# What a source says

A file and an environment both add values to a source one by one. A key that is no path sets its own
entry, and a path changes the entry that it starts at, so that what is found under a key is the last
value that was added there.
-/

namespace GpuCounters.Settings

def settingKeys : List String :=
  ["sampling", "metric_set", "metrics_file", "include_max_values", "report_timing",
    "driver_library", "dump_root"]

theorem pathOf_of_mem_settingKeys {key : String} (h : key ∈ settingKeys) :
    pathOf key = (key, []) := by
  have hall : ∀ key ∈ settingKeys, pathOf key = (key, []) := by decide
  exact hall key h

namespace Source

theorem lookup_cons (source : Source) (key other : String) (value : Loose) :
    List.lookup other ((key, value) :: source) =
      if other = key then some value else source.lookup other := by
  rw [List.lookup_cons]
  by_cases hother : other = key
  · simp [hother]
  · rw [if_neg hother, beq_false_of_ne hother]

theorem lookup_set (source : Source) (key other : String) (value : Loose) :
    (source.set key value).lookup other =
      if other = key then some value else source.lookup other := by
  induction source with
  | nil => exact lookup_cons [] key other value
  | cons entry rest ih =>
    obtain ⟨name, old⟩ := entry
    rw [set, lookup_cons]
    by_cases hname : name = key
    · rw [if_pos hname, lookup_cons, hname]
      by_cases hother : other = key <;> simp [hother]
    · rw [if_neg hname, lookup_cons, ih]
      by_cases hother : other = name
      · simp [hother, hname]
      · simp [hother]

/-- A path changes the entry that it starts at and no other. -/
theorem lookup_add (source : Source) (name key : String) (value : Loose) :
    (source.add name value).lookup key =
      if key = (pathOf name).1 then
        some (place (source.lookup (pathOf name).1) (pathOf name).2 value)
      else source.lookup key :=
  lookup_set source _ _ _

theorem lookup_add_self (source : Source) {key : String} (h : pathOf key = (key, []))
    (value : Loose) : (source.add key value).lookup key = some value := by
  rw [lookup_add, h, if_pos rfl, place]

theorem lookup_add_of_ne (source : Source) {name key : String} (h : (pathOf name).1 ≠ key)
    (value : Loose) : (source.add name value).lookup key = source.lookup key := by
  rw [lookup_add, if_neg (Ne.symm h)]

/-! ## Many values -/

def addAll (source : Source) (values : List (String × Loose)) : Source :=
  values.foldl (fun source (key, value) ↦ source.add key value) source

theorem addAll_cons (source : Source) (key : String) (value : Loose)
    (rest : List (String × Loose)) :
    source.addAll ((key, value) :: rest) = (source.add key value).addAll rest := rfl

theorem addAll_append (source : Source) (values more : List (String × Loose)) :
    source.addAll (values ++ more) = (source.addAll values).addAll more :=
  List.foldl_append

theorem lookup_addAll_of_ne (source : Source) {values : List (String × Loose)} {key : String}
    (h : ∀ value ∈ values, (pathOf value.1).1 ≠ key) :
    (source.addAll values).lookup key = source.lookup key := by
  induction values generalizing source with
  | nil => rfl
  | cons value rest ih =>
    obtain ⟨hvalue, hrest⟩ := List.forall_mem_cons.1 h
    rw [addAll_cons, ih _ hrest, lookup_add_of_ne source hvalue]

end Source

/-! ## Variables -/

/-- The values that the variables of an environment have for settings. -/
def valuesOf (environment : List (String × String)) : List (String × Loose) :=
  environment.filterMap fun (name, text) ↦
    (variableKey? name).map fun key ↦ (key, Loose.ofText text)

theorem valuesOf_append (environment more : List (String × String)) :
    valuesOf (environment ++ more) = valuesOf environment ++ valuesOf more :=
  List.filterMap_append

theorem valuesOf_cons_of_some {name key : String} (h : variableKey? name = some key)
    (text : String) (rest : List (String × String)) :
    valuesOf ((name, text) :: rest) = (key, Loose.ofText text) :: valuesOf rest := by
  rw [valuesOf, List.filterMap_cons]
  dsimp only
  rw [h]
  rfl

theorem valuesOf_cons_of_none {name : String} (h : variableKey? name = none) (text : String)
    (rest : List (String × String)) : valuesOf ((name, text) :: rest) = valuesOf rest := by
  rw [valuesOf, List.filterMap_cons]
  dsimp only
  rw [h]
  rfl

theorem Source.addVariables_eq_addAll (source : Source) (environment : List (String × String)) :
    source.addVariables environment = source.addAll (valuesOf environment) := by
  induction environment generalizing source with
  | nil => rfl
  | cons entry rest ih =>
    obtain ⟨name, text⟩ := entry
    cases hkey : variableKey? name with
    | some key =>
      have hcons : source.addVariables ((name, text) :: rest) =
          (source.add key (.ofText text)).addVariables rest := by
        simp only [addVariables, List.foldl_cons, hkey]
      rw [hcons, ih, valuesOf_cons_of_some hkey, addAll_cons]
    | none =>
      have hcons : source.addVariables ((name, text) :: rest) = source.addVariables rest := by
        simp only [addVariables, List.foldl_cons, hkey]
      rw [hcons, ih, valuesOf_cons_of_none hkey]

theorem exists_variable_of_mem_valuesOf {environment : List (String × String)}
    {value : String × Loose} (h : value ∈ valuesOf environment) :
    ∃ entry ∈ environment, variableKey? entry.1 = some value.1 := by
  obtain ⟨⟨name, text⟩, hentry, hvalue⟩ := List.mem_filterMap.1 h
  obtain ⟨key, hkey, rfl⟩ := Option.map_eq_some_iff.1 hvalue
  exact ⟨_, hentry, hkey⟩

/-! ## Settings -/

/-- Whether each setting is what is taken from a source, or else its default. -/
structure Reads (source : Source) (settings : Settings) : Prop where
  sampling : take source "sampling" Loose.mode? ({} : Settings).sampling = some settings.sampling
  metricSet : take source "metric_set" Loose.text? ({} : Settings).metricSet =
    some settings.metricSet
  metricsFile : take source "metrics_file" (fun value ↦ value.text?.map some)
    ({} : Settings).metricsFile? = some settings.metricsFile?
  includeMax : take source "include_max_values" Loose.bool? ({} : Settings).includeMax =
    some settings.includeMax
  reportTiming : take source "report_timing" Loose.bool? ({} : Settings).reportTiming =
    some settings.reportTiming
  driverLibrary : take source "driver_library" Loose.text? ({} : Settings).driverLibrary =
    some settings.driverLibrary
  dumpRoot : take source "dump_root" (fun value ↦ value.text?.map Storage.Path.mk)
    ({} : Settings).dumpRoot = some settings.dumpRoot

theorem ofSource?_eq_some_iff {source : Source} {settings : Settings} :
    ofSource? source = some settings ↔ Reads source settings := by
  constructor
  · intro h
    simp only [ofSource?, Option.bind_eq_bind, Option.bind_eq_some_iff, Option.pure_def] at h
    obtain ⟨sampling, hsampling, metricSet, hmetricSet, metricsFile, hmetricsFile, includeMax,
      hincludeMax, reportTiming, hreportTiming, library, hlibrary, root, hroot, hsettings⟩ := h
    obtain rfl := Option.some.inj hsettings
    exact ⟨hsampling, hmetricSet, hmetricsFile, hincludeMax, hreportTiming, hlibrary, hroot⟩
  · intro h
    simp only [ofSource?, h.sampling, h.metricSet, h.metricsFile, h.includeMax, h.reportTiming,
      h.driverLibrary, h.dumpRoot, Option.bind_eq_bind, Option.bind_some, Option.pure_def]

/-! ## Loading -/

/-- The source that a file makes, if it can be read; no file is an empty one. -/
def sourceOf? : Option (Option String) → Option Source
  | none => some []
  | some none => none
  | some (some text) => (Toml.read? text).map Source.ofEntries

/-- Settings that are of use, or what is wrong with them. -/
def validated (settings : Settings) : Except LoadError Settings :=
  match settings.flaw? with
  | some flaw => .error (.invalid flaw)
  | none => .ok settings

theorem load_eq (file : Option (Option String)) (environment : List (String × String)) :
    load file environment =
      match sourceOf? file with
      | none => .error .unreadable
      | some source =>
        match ofSource? (source.addVariables environment) with
        | none => .error .wrongKind
        | some settings => validated settings := by
  obtain _ | _ | _ := file <;> rfl

theorem load_eq_ok_iff {file : Option (Option String)} {environment : List (String × String)}
    {settings : Settings} :
    load file environment = .ok settings ↔
      ∃ source, sourceOf? file = some source ∧
        ofSource? (source.addVariables environment) = some settings ∧ settings.IsValid := by
  rw [load_eq]
  cases sourceOf? file with
  | none => simp
  | some source =>
    simp only [Option.some.injEq, exists_eq_left']
    cases ofSource? (source.addVariables environment) with
    | none => simp
    | some found =>
      simp only [validated, IsValid, Option.some.injEq]
      cases hflaw : found.flaw? with
      | none =>
        constructor
        · rintro ⟨rfl⟩
          exact ⟨rfl, hflaw⟩
        · rintro ⟨rfl, -⟩
          rfl
      | some flaw =>
        refine iff_of_false (fun h ↦ nomatch h) ?_
        rintro ⟨rfl, hvalid⟩
        exact absurd (hflaw.symm.trans hvalid) (fun h ↦ nomatch h)

end GpuCounters.Settings
