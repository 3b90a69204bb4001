import GpuCounters.Proofs.Settings.Sources
import GpuCounters.Proofs.Toml.Keys
import Mathlib.Tactic.MkIffOfInductiveProp

/-!
# Settings laid over settings

A file and an environment each choose some of the settings. What is loaded has, for each setting on
its own, the choice of the environment, or else that of the file, or else the default, and all of
them together are checked once. A name that is no setting makes no difference, unless it is a path
that starts at one.
-/

namespace GpuCounters.Settings

/-! ## Choices -/

/-- A choice of some settings. -/
structure Overlay where
  sampling : Option Mode := none
  metricSet : Option String := none
  metricsFile : Option String := none
  includeMax : Option Bool := none
  reportTiming : Option Bool := none
  driverLibrary : Option String := none
  dumpRoot : Option Storage.Path := none
  deriving DecidableEq, Repr

namespace Overlay

/-- Settings with the chosen ones replaced. -/
def onto (overlay : Overlay) (settings : Settings) : Settings where
  sampling := overlay.sampling.getD settings.sampling
  metricSet := overlay.metricSet.getD settings.metricSet
  metricsFile? := overlay.metricsFile.or settings.metricsFile?
  includeMax := overlay.includeMax.getD settings.includeMax
  reportTiming := overlay.reportTiming.getD settings.reportTiming
  driverLibrary := overlay.driverLibrary.getD settings.driverLibrary
  dumpRoot := overlay.dumpRoot.getD settings.dumpRoot

/-- The choices of two overlays, the first of which comes before the other. -/
def or (overlay other : Overlay) : Overlay where
  sampling := overlay.sampling.or other.sampling
  metricSet := overlay.metricSet.or other.metricSet
  metricsFile := overlay.metricsFile.or other.metricsFile
  includeMax := overlay.includeMax.or other.includeMax
  reportTiming := overlay.reportTiming.or other.reportTiming
  driverLibrary := overlay.driverLibrary.or other.driverLibrary
  dumpRoot := overlay.dumpRoot.or other.dumpRoot

theorem or_onto (overlay other : Overlay) (settings : Settings) :
    (overlay.or other).onto settings = overlay.onto (other.onto settings) := by
  simp [or, onto, Option.getD_or, Option.or_assoc]

end Overlay

/-- The text of a value that is written as one. -/
def Loose.written? : Loose → Option String
  | .text s => some s
  | _ => none

theorem Loose.text?_of_written? {value : Loose} {text : String} (h : value.written? = some text) :
    value.text? = some text := by
  cases value with
  | text s => exact h
  | _ => cases h

/-- Whether a setting is chosen exactly if there is a value under its key, and is that value. -/
def Chooses {α : Type} (source : Source) (key : String) (read : Loose → Option α)
    (choice : Option α) : Prop :=
  (source.lookup key).map read = choice.map some

instance {α : Type} [DecidableEq α] (source : Source) (key : String) (read : Loose → Option α)
    (choice : Option α) : Decidable (Chooses source key read choice) :=
  inferInstanceAs (Decidable (_ = _))

/-- Whether an overlay chooses what the values of a source say, each of which is of the kind that
its setting wants. -/
@[mk_iff]
structure Overlay.IsOf (overlay : Overlay) (source : Source) : Prop where
  sampling : Chooses source "sampling" Loose.mode? overlay.sampling
  metricSet : Chooses source "metric_set" Loose.written? overlay.metricSet
  metricsFile : Chooses source "metrics_file" Loose.written? overlay.metricsFile
  includeMax : Chooses source "include_max_values" Loose.bool? overlay.includeMax
  reportTiming : Chooses source "report_timing" Loose.bool? overlay.reportTiming
  driverLibrary : Chooses source "driver_library" Loose.written? overlay.driverLibrary
  dumpRoot : Chooses source "dump_root" Loose.written? (overlay.dumpRoot.map Storage.Path.text)

instance (overlay : Overlay) (source : Source) : Decidable (overlay.IsOf source) :=
  decidable_of_iff' _ (Overlay.isOf_iff overlay source)

section Choices

variable {α β : Type} {source upper lower : Source} {key : String} {read : Loose → Option α}
  {choice : Option α}

theorem Chooses.none_or_some (h : Chooses source key read choice) :
    source.lookup key = none ∧ choice = none ∨
      ∃ value chosen, source.lookup key = some value ∧ read value = some chosen ∧
        choice = some chosen := by
  unfold Chooses at h
  cases hvalue : source.lookup key with
  | none =>
    rw [hvalue] at h
    exact .inl ⟨rfl, Option.map_eq_none_iff.1 h.symm⟩
  | some value =>
    rw [hvalue] at h
    obtain ⟨chosen, hchoice, hread⟩ := Option.map_eq_some_iff.1 h.symm
    exact .inr ⟨value, chosen, rfl, hread.symm, hchoice⟩

theorem Chooses.take_eq (h : Chooses source key read choice) (default : α) :
    take source key read default = some (choice.getD default) := by
  obtain ⟨hlookup, rfl⟩ | ⟨value, chosen, hlookup, hread, rfl⟩ := h.none_or_some
  · rw [take, hlookup]
    rfl
  · rw [take, hlookup]
    exact hread

/-- A value that is read in one way is read in another that goes on from it. -/
theorem Chooses.imp {onward : Loose → Option β} {f : α → β} (h : Chooses source key read choice)
    (himp : ∀ value chosen, read value = some chosen → onward value = some (f chosen)) :
    Chooses source key onward (choice.map f) := by
  obtain ⟨hlookup, rfl⟩ | ⟨value, chosen, hlookup, hread, rfl⟩ := h.none_or_some
  · rw [Chooses, hlookup]
    rfl
  · rw [Chooses, hlookup]
    exact congrArg some (himp value chosen hread)

theorem Chooses.or {other : Option α} (h : Chooses upper key read choice)
    (hother : Chooses lower key read other)
    (hsource : source.lookup key = (upper.lookup key).or (lower.lookup key)) :
    Chooses source key read (choice.or other) := by
  unfold Chooses at h hother ⊢
  rw [hsource, Option.map_or, h, hother, Option.map_or]

theorem Overlay.IsOf.or {overlay other : Overlay} (h : overlay.IsOf upper)
    (hother : other.IsOf lower)
    (hsource : ∀ key ∈ settingKeys, source.lookup key = (upper.lookup key).or (lower.lookup key)) :
    (overlay.or other).IsOf source where
  sampling := h.sampling.or hother.sampling (hsource _ (by decide))
  metricSet := h.metricSet.or hother.metricSet (hsource _ (by decide))
  metricsFile := h.metricsFile.or hother.metricsFile (hsource _ (by decide))
  includeMax := h.includeMax.or hother.includeMax (hsource _ (by decide))
  reportTiming := h.reportTiming.or hother.reportTiming (hsource _ (by decide))
  driverLibrary := h.driverLibrary.or hother.driverLibrary (hsource _ (by decide))
  dumpRoot := by
    have hroot := h.dumpRoot.or hother.dumpRoot (hsource _ (by decide))
    rwa [← Option.map_or] at hroot

/-- The settings of a source are the defaults with its choices laid over them. -/
theorem ofSource?_of_isOf {overlay : Overlay} (h : overlay.IsOf source) :
    ofSource? source = some (overlay.onto {}) := by
  have hmetricSet := h.metricSet.imp fun _ _ ↦ Loose.text?_of_written?
  have hlibrary := h.driverLibrary.imp fun _ _ ↦ Loose.text?_of_written?
  have hfile := h.metricsFile.imp (f := some) fun value _ hvalue ↦
    congrArg (·.map some) (Loose.text?_of_written? hvalue)
  have hroot := h.dumpRoot.imp (f := Storage.Path.mk) fun value _ hvalue ↦
    congrArg (·.map Storage.Path.mk) (Loose.text?_of_written? hvalue)
  have hfileChoice : ∀ choice : Option String,
      (choice.map some).getD ({} : Settings).metricsFile? =
        choice.or ({} : Settings).metricsFile? := by
    intro choice
    cases choice <;> rfl
  rw [Option.map_id'] at hmetricSet hlibrary
  have hpath : Storage.Path.mk ∘ Storage.Path.text = id := rfl
  rw [Option.map_map, hpath, Option.map_id, id_eq] at hroot
  exact ofSource?_eq_some_iff.2
    ⟨h.sampling.take_eq _, hmetricSet.take_eq _,
      (hfile.take_eq _).trans (congrArg some (hfileChoice overlay.metricsFile)),
      h.includeMax.take_eq _, h.reportTiming.take_eq _, hlibrary.take_eq _, hroot.take_eq _⟩

end Choices

/-! ## Loading -/

/-- Whether a step is one to an entry, or to an element that an array with some room can have. -/
def Part.IsWithin (room : Nat) : Part → Prop
  | .entry _ => True
  | .element index => 0 ≤ index ∧ index < room

instance (room : Nat) : DecidablePred (Part.IsWithin room)
  | .entry _ => isTrue trivial
  | .element _ => inferInstanceAs (Decidable (_ ∧ _))

/-- Whether a name is neither a setting nor a path that starts at one. Indexes that count from the
end of an array, or are beyond its room, are left aside. -/
def IsOther (room : Nat) (name : String) : Prop :=
  (pathOf name).1 ∉ settingKeys ∧ ∀ part ∈ (pathOf name).2, part.IsWithin room

instance (room : Nat) : DecidablePred (IsOther room) := fun _ ↦ inferInstanceAs (Decidable (_ ∧ _))

/-- What is added last under a key of a setting is found there. -/
theorem Source.lookup_addAll (source : Source) {values : List (String × Loose)} {room : Nat}
    (distinct : (values.map Prod.fst).Nodup)
    (names : ∀ value ∈ values, value.1 ∈ settingKeys ∨ IsOther room value.1) {key : String}
    (h : key ∈ settingKeys) :
    (source.addAll values).lookup key = (values.lookup key).or (source.lookup key) := by
  induction values generalizing source with
  | nil => rfl
  | cons value rest ih =>
    obtain ⟨name, value⟩ := value
    obtain ⟨hname, hrest⟩ := List.forall_mem_cons.1 names
    obtain ⟨hnew, hdistinct⟩ := List.nodup_cons.1 distinct
    rw [addAll_cons, ih _ hdistinct hrest, lookup_cons]
    by_cases hkey : key = name
    · subst hkey
      rw [if_pos rfl, lookup_add_self source (pathOf_of_mem_settingKeys h)]
      -- No later value has the key, which would replace this one.
      have hnone : rest.lookup key = none := by
        rw [List.lookup_eq_none_iff]
        intro entry hentry
        rw [bne_iff_ne]
        rintro rfl
        exact hnew (List.mem_map.2 ⟨entry, hentry, rfl⟩)
      rw [hnone]
      rfl
    · -- A setting starts at itself, and nothing else starts at one.
      have hroot : (pathOf name).1 ≠ key := by
        rintro rfl
        obtain hsetting | hother := hname
        · rw [pathOf_of_mem_settingKeys hsetting] at hkey
          exact hkey rfl
        · exact hother.1 h
      rw [if_neg hkey, lookup_add_of_ne source hroot]

theorem Loose.map_fst_ofEntries (entries : Toml.Entries) :
    (Loose.ofEntries entries).map Prod.fst = entries.map Prod.fst := by
  induction entries with
  | nil => rfl
  | cons entry rest ih =>
    obtain ⟨key, value⟩ := entry
    rw [Loose.ofEntries, List.map_cons, List.map_cons, ih]

/-- The entries of a file, if there is one; no file has none. -/
def entriesOf? : Option String → Option Toml.Entries
  | none => some []
  | some text => Toml.read? text

theorem isDistinct_of_entriesOf? {file : Option String} {entries : Toml.Entries}
    (h : entriesOf? file = some entries) : entries.IsDistinct := by
  cases file with
  | none =>
    obtain rfl := Option.some.inj h
    exact Toml.Entries.isDistinct_nil
  | some text => exact Toml.isDistinct_of_read? h

theorem sourceOf?_of_entriesOf? {file : Option String} {entries : Toml.Entries}
    (h : entriesOf? file = some entries) :
    sourceOf? (file.map some) = some (Source.ofEntries entries) := by
  cases file with
  | none =>
    obtain rfl := Option.some.inj h
    rfl
  | some text => exact congrArg (Option.map Source.ofEntries) h

/-- What is loaded are the defaults with the choices of the file laid over them, and over those the
choices of the environment, if they are of use together. `room` is how many elements an array has
memory for. -/
theorem load_eq_validated {file : Option String} {entries : Toml.Entries}
    {environment : List (String × String)} {assigned overriding : Overlay} {room : Nat}
    (document : entriesOf? file = some entries)
    (assigns : assigned.IsOf (Loose.ofEntries entries))
    (overrides : overriding.IsOf (valuesOf environment))
    (distinct : ((valuesOf environment).map Prod.fst).Nodup)
    (names : ∀ value ∈ Loose.ofEntries entries ++ valuesOf environment,
      value.1 ∈ settingKeys ∨ IsOther room value.1) :
    load (file.map some) environment = validated (overriding.onto (assigned.onto {})) := by
  obtain ⟨hfileNames, hvariableNames⟩ := List.forall_mem_append.1 names
  have hentries : ((Loose.ofEntries entries).map Prod.fst).Nodup := by
    rw [Loose.map_fst_ofEntries]
    exact isDistinct_of_entriesOf? document
  have hsource : ∀ key ∈ settingKeys,
      ((Source.ofEntries entries).addVariables environment).lookup key =
        ((valuesOf environment).lookup key).or ((Loose.ofEntries entries).lookup key) := by
    intro key hkey
    have hfile : (Source.ofEntries entries).lookup key = (Loose.ofEntries entries).lookup key :=
      (Source.lookup_addAll [] hentries hfileNames hkey).trans Option.or_none
    rw [Source.addVariables_eq_addAll, Source.lookup_addAll _ distinct hvariableNames hkey, hfile]
  rw [load_eq, sourceOf?_of_entriesOf? document]
  dsimp only
  rw [ofSource?_of_isOf (overrides.or assigns hsource), Overlay.or_onto]

/-- A file that is of no use by itself, with a key of no meaning. -/
def uselessFile : String := "metric_set = \"/\"\nreport_timing = false\ndepth = 2\n"

theorem exists_entries_uselessFile : ∃ entries, entriesOf? (some uselessFile) = some entries ∧
    ({ metricSet := "/", reportTiming := false } : Overlay).IsOf (Loose.ofEntries entries) ∧
      ∀ value ∈ Loose.ofEntries entries, value.1 ∈ settingKeys ∨ IsOther 8 value.1 := by
  have hread : (Toml.read? uselessFile).isSome := by decide +kernel
  refine ⟨(Toml.read? uselessFile).getD [], ?_, ?_, ?_⟩
  · obtain ⟨entries, hentries⟩ := Option.isSome_iff_exists.1 hread
    rw [entriesOf?, hentries, Option.getD_some]
  · decide +kernel
  · decide +kernel

/-- Variables that repair the file, among others of no meaning. -/
def repair : List (String × String) :=
  [("HOME", "/"), ("mdlens_Metric_Set", "Memory"), ("MDLENS_INCLUDE_MAX_VALUES", "yes"),
    ("MDLENS_DEPTH.X", "3"), ("MDLENS_LEVELS[2]", "4")]

/-- What the variables do not choose is kept from the file. -/
theorem load_eq_validated_repair :
    load (some (some uselessFile)) repair =
      .ok { metricSet := "Memory", includeMax := true, reportTiming := false } := by
  obtain ⟨entries, hdocument, hassigns, hnames⟩ := exists_entries_uselessFile
  have hvariables : ∀ value ∈ valuesOf repair, value.1 ∈ settingKeys ∨ IsOther 8 value.1 := by
    decide +kernel
  have hoverrides : ({ metricSet := "Memory", includeMax := true } : Overlay).IsOf
      (valuesOf repair) := by decide +kernel
  have hload := load_eq_validated hdocument hassigns hoverrides (by decide +kernel)
    (List.forall_mem_append.2 ⟨hnames, hvariables⟩)
  rw [Option.map_some] at hload
  rw [hload]
  rfl

/-- A variable whose name is a path from a setting chooses nothing, and is read all the same. -/
theorem load_ne_validated_path :
    ({} : Overlay).IsOf (valuesOf [("MDLENS_METRIC_SET.X", "1")]) ∧
      load none [] = validated (({} : Overlay).onto {}) ∧
      load none [("MDLENS_METRIC_SET.X", "1")] ≠ validated (({} : Overlay).onto {}) := by
  refine ⟨by decide +kernel, rfl, ?_⟩
  have hload : load none [("MDLENS_METRIC_SET.X", "1")] = .error .wrongKind := rfl
  have hvalidated : validated (({} : Overlay).onto {}) = .ok {} := rfl
  rw [hload, hvalidated]
  exact fun h ↦ nomatch h

end GpuCounters.Settings
