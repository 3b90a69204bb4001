import GpuCounters.Dump.Reader
import GpuCounters.Proofs.Dump.Fields
import Mathlib.Data.List.Chain
import Mathlib.Tactic.MkIffOfInductiveProp

/-!
# Columns read back

A reader has only the names of the columns to tell metrics, greatest values and further information
apart. It takes each column for what it was written as exactly if the layout is legible: no column
of a metric starts like one of further information, and no metric is named like the greatest values
of the metric before it.
-/

namespace GpuCounters.Dump

/-! ## The lines of names and units -/

namespace Layout

def nameFields (layout : Layout) : List (List Char) :=
  (labelTitle layout.mode).toList :: layout.columns.map (·.name.toList)

def unitFields (layout : Layout) : List (List Char) :=
  [] :: layout.columns.map (·.unit.toList)

/-- The number of columns, that of the labels included. -/
def width (layout : Layout) : Nat := layout.columns.length + 1

theorem nameLine_eq (layout : Layout) : layout.nameLine = fieldLine layout.nameFields := by
  have htitle : escapeField (labelTitle layout.mode).toList = (labelTitle layout.mode).toList := by
    cases layout.mode <;> rfl
  simp [nameLine, fieldLine, nameFields, htitle, Function.comp_def]

theorem unitLine_eq (layout : Layout) : layout.unitLine = fieldLine layout.unitFields := by
  simp [unitLine, fieldLine, unitFields, Function.comp_def]

theorem splitFields_nameLine (layout : Layout) :
    splitFields layout.nameLine = layout.nameFields := by
  rw [nameLine_eq, splitFields_fieldLine (by simp [nameFields])]

theorem splitFields_unitLine (layout : Layout) :
    splitFields layout.unitLine = layout.unitFields := by
  rw [unitLine_eq, splitFields_fieldLine (by simp [unitFields])]

/-- What a reader of the line of names takes the columns for. -/
def readAs (layout : Layout) : List Column :=
  Column.ofNames none (layout.columns.map fun column ↦ (column.name.toList, column.unit.toList))

/-- What the columns of a metric are written as. -/
def metricRoles (includeMax : Bool) (metric : Descriptor) : List Column :=
  .metric metric :: if includeMax then [.max metric.name] else []

/-- What the columns are written as. -/
def roles (layout : Layout) : List Column :=
  layout.metrics.flatMap (metricRoles layout.includeMax) ++
    layout.shownInformation.map .information

end Layout

theorem Column.length_ofNames (last : Option String) (pairs : List (List Char × List Char)) :
    (ofNames last pairs).length = pairs.length := by
  induction pairs generalizing last with
  | nil => rfl
  | cons pair pairs ih => simp [ofNames, ih]

@[simp] theorem Layout.length_readAs (layout : Layout) :
    layout.readAs.length = layout.columns.length := by
  simp [Layout.readAs, Column.length_ofNames]

theorem modeOfTitle?_labelTitle (mode : Mode) :
    modeOfTitle? (labelTitle mode).toList = some mode := by
  cases mode <;> decide

/-- The header of a layout is accepted, and only the rows behind it can be at fault. -/
theorem readLines_header (layout : Layout) (rest : List (List Char)) :
    readLines (layout.nameLine :: layout.unitLine :: rest) =
      match readRows layout.readAs rest 3 with
      | .error fault => .error fault
      | .ok rows =>
        .ok ⟨layout.mode, layout.readAs.filterMap Column.metric?,
          layout.readAs.filterMap Column.information?, rows⟩ := by
  have hnames := layout.splitFields_nameLine
  have hunits := layout.splitFields_unitLine
  have hlength : layout.unitFields.length = layout.nameFields.length := by
    simp [Layout.unitFields, Layout.nameFields]
  have htitle : modeOfTitle? (layout.nameFields.headD []) = some layout.mode :=
    modeOfTitle?_labelTitle layout.mode
  have hcolumns : Column.ofNames none (layout.nameFields.zip layout.unitFields).tail =
      layout.readAs := by
    simp [Layout.nameFields, Layout.unitFields, Layout.readAs, List.zip_map']
  cases hrows : readRows layout.readAs rest 3 with
  | error fault =>
    simp only [readLines, hnames, hunits, hlength, htitle, hcolumns, hrows, ne_eq,
      not_true_eq_false, if_false]
  | ok rows =>
    simp only [readLines, hnames, hunits, hlength, htitle, hcolumns, hrows, ne_eq,
      not_true_eq_false, if_false]

/-! ## Names of columns -/

namespace Column

variable {last : Option String} {name unit : List Char}

theorem ofName_of_informationMark (h : informationMark.toList <+: name) :
    ofName last name unit =
      .information ⟨String.ofList (name.drop informationMark.length), String.ofList unit⟩ := by
  unfold ofName
  rw [if_pos (List.isPrefixOf_iff_prefix.2 h)]

theorem ofName_of_maxMark {metric : String} (h : ¬ informationMark.toList <+: name)
    (hmax : name = (metric ++ maxMark).toList) : ofName (some metric) name unit = .max metric := by
  unfold ofName
  rw [if_neg (by rwa [List.isPrefixOf_iff_prefix])]
  simp [hmax]

theorem ofName_of_metric (h : ¬ informationMark.toList <+: name)
    (hmax : ∀ metric ∈ last, name ≠ (metric ++ maxMark).toList) :
    ofName last name unit = .metric ⟨String.ofList name, String.ofList unit⟩ := by
  unfold ofName
  rw [if_neg (by rwa [List.isPrefixOf_iff_prefix])]
  cases last with
  | none => rfl
  | some metric =>
    have hne := hmax metric rfl
    rw [String.toList_append] at hne
    exact if_neg (Ne.symm hne)

end Column

/-- The names and units of the columns of metrics. -/
def metricPairs (includeMax : Bool) (metrics : List Descriptor) : List (List Char × List Char) :=
  metrics.flatMap fun metric ↦
    (metric.name.toList, metric.unit.toList) ::
      if includeMax then [((metric.name ++ maxMark).toList, metric.unit.toList)] else []

/-- The names and units of the columns of further information. -/
def informationPairs (values : List Descriptor) : List (List Char × List Char) :=
  values.map fun value ↦ ((informationMark ++ value.name).toList, value.unit.toList)

theorem metricPairs_false_cons (metric : Descriptor) (metrics : List Descriptor) :
    metricPairs false (metric :: metrics) =
      (metric.name.toList, metric.unit.toList) :: metricPairs false metrics := rfl

theorem metricPairs_true_cons (metric : Descriptor) (metrics : List Descriptor) :
    metricPairs true (metric :: metrics) =
      (metric.name.toList, metric.unit.toList) ::
        ((metric.name ++ maxMark).toList, metric.unit.toList) :: metricPairs true metrics := rfl

theorem length_metricPairs_false (metrics : List Descriptor) :
    (metricPairs false metrics).length = metrics.length := by
  induction metrics with
  | nil => rfl
  | cons metric metrics ih => rw [metricPairs_false_cons, List.length_cons, ih, List.length_cons]

theorem Layout.pairs_eq (layout : Layout) :
    (layout.columns.map fun column ↦ (column.name.toList, column.unit.toList)) =
      metricPairs layout.includeMax layout.metrics ++
        informationPairs layout.shownInformation := by
  unfold Layout.columns metricPairs informationPairs
  rw [List.map_append, List.map_flatMap, List.map_map]
  cases layout.includeMax <;> rfl

theorem ofName_informationMark (last : Option String) (value : Descriptor) :
    Column.ofName last (informationMark ++ value.name).toList value.unit.toList =
      .information value := by
  have hmark : informationMark.toList <+: (informationMark ++ value.name).toList := by
    rw [String.toList_append]
    exact List.prefix_append _ _
  have hdrop : (informationMark ++ value.name).toList.drop informationMark.length =
      value.name.toList := by
    rw [String.toList_append]
    exact List.drop_left
  rw [Column.ofName_of_informationMark hmark, hdrop, String.ofList_toList, String.ofList_toList]

/-- The columns of further information, which are the last ones, are always taken for what they
are. -/
theorem ofNames_append_informationPairs (last : Option String)
    (pairs : List (List Char × List Char)) (values : List Descriptor) :
    Column.ofNames last (pairs ++ informationPairs values) =
      Column.ofNames last pairs ++ values.map .information := by
  induction pairs generalizing last with
  | nil =>
    induction values generalizing last with
    | nil => rfl
    | cons value values ih =>
      have hrest := ih last
      simp only [List.nil_append, Column.ofNames, informationPairs] at hrest ⊢
      simp only [List.map_cons, Column.ofNames, ofName_informationMark, hrest]
  | cons pair pairs ih =>
    simp only [List.cons_append, Column.ofNames, ih]

theorem Layout.readAs_eq (layout : Layout) :
    layout.readAs = Column.ofNames none (metricPairs layout.includeMax layout.metrics) ++
      layout.shownInformation.map .information := by
  rw [Layout.readAs, Layout.pairs_eq, ofNames_append_informationPairs]

/-! ## Legible layouts -/

/-- No column of a metric is taken for further information. -/
@[mk_iff]
structure Unmarked (includeMax : Bool) (metric : Descriptor) : Prop where
  /-- The name does not start like that of further information -/
  name : ¬ informationMark.toList <+: metric.name.toList
  /-- Nor does the name of the column of greatest values, which it does for `io` -/
  max : includeMax = true → ¬ informationMark.toList <+: (metric.name ++ maxMark).toList

instance (includeMax : Bool) (metric : Descriptor) : Decidable (Unmarked includeMax metric) :=
  decidable_of_iff' _ (unmarked_iff includeMax metric)

/-- No name is that of the greatest values of the metric before it. -/
def NoneIsMaxOfPrevious (names : List String) : Prop :=
  names.IsChain fun previous name ↦ name ≠ previous ++ maxMark

instance (names : List String) : Decidable (NoneIsMaxOfPrevious names) :=
  inferInstanceAs (Decidable (List.IsChain _ names))

/-- A layout of which every column is taken for what it is. -/
@[mk_iff]
structure Layout.Legible (layout : Layout) : Prop where
  unmarked : ∀ metric ∈ layout.metrics, Unmarked layout.includeMax metric
  chain : NoneIsMaxOfPrevious (layout.metrics.map (·.name))

instance (layout : Layout) : Decidable layout.Legible :=
  decidable_of_iff' _ layout.legible_iff

theorem append_maxMark_ne (name : String) : name ++ maxMark ≠ name := by
  intro h
  have hlength := congrArg (·.toList.length) h
  simp [maxMark] at hlength

theorem noneIsMaxOfPrevious_cons {last : Option String} {name : String} {names : List String}
    (h : NoneIsMaxOfPrevious (last.toList ++ name :: names)) :
    (∀ metric ∈ last, name ≠ metric ++ maxMark) ∧ NoneIsMaxOfPrevious (name :: names) := by
  cases last with
  | none => exact ⟨by simp, h⟩
  | some metric =>
    obtain ⟨hname, hnames⟩ := List.isChain_cons_cons.1 h
    exact ⟨by simpa using hname, hnames⟩

/-- The columns of a metric that is told apart from those before it. -/
theorem ofNames_metricPairs_cons {includeMax : Bool} {last : Option String} {metric : Descriptor}
    (hunmarked : Unmarked includeMax metric)
    (hlast : ∀ previous ∈ last, metric.name ≠ previous ++ maxMark) (metrics : List Descriptor) :
    Column.ofNames last (metricPairs includeMax (metric :: metrics)) =
      Layout.metricRoles includeMax metric ++
        Column.ofNames (some metric.name) (metricPairs includeMax metrics) := by
  have hname : Column.ofName last metric.name.toList metric.unit.toList = .metric metric := by
    rw [Column.ofName_of_metric hunmarked.name, String.ofList_toList, String.ofList_toList]
    intro previous hprevious heq
    exact hlast previous hprevious (String.toList_inj.1 heq)
  cases includeMax with
  | false =>
    rw [metricPairs_false_cons]
    simp only [Column.ofNames, hname]
    rfl
  | true =>
    have hmax : Column.ofName (some metric.name) (metric.name ++ maxMark).toList
        metric.unit.toList = .max metric.name :=
      Column.ofName_of_maxMark (hunmarked.max rfl) rfl
    rw [metricPairs_true_cons]
    simp only [Column.ofNames, hname, hmax]
    rfl

/-- The induction is on the metrics; the last metric before them decides what the first one is
taken for. -/
theorem ofNames_metricPairs {includeMax : Bool} {last : Option String} {metrics : List Descriptor}
    (hunmarked : ∀ metric ∈ metrics, Unmarked includeMax metric)
    (hchain : NoneIsMaxOfPrevious (last.toList ++ metrics.map (·.name))) :
    Column.ofNames last (metricPairs includeMax metrics) =
      metrics.flatMap (Layout.metricRoles includeMax) := by
  induction metrics generalizing last with
  | nil => rfl
  | cons metric metrics ih =>
    obtain ⟨hlast, hnames⟩ := noneIsMaxOfPrevious_cons hchain
    have hrest : Column.ofNames (some metric.name) (metricPairs includeMax metrics) = _ :=
      ih (fun x hx ↦ hunmarked x (List.mem_cons_of_mem metric hx)) hnames
    rw [ofNames_metricPairs_cons (hunmarked metric List.mem_cons_self) hlast, hrest,
      List.flatMap_cons]

theorem Layout.Legible.readAs_eq_roles {layout : Layout} (h : layout.Legible) :
    layout.readAs = layout.roles := by
  have hmetrics : Column.ofNames none (metricPairs layout.includeMax layout.metrics) = _ :=
    ofNames_metricPairs h.unmarked h.chain
  rw [Layout.readAs_eq, hmetrics, Layout.roles]

theorem filterMap_metric?_flatMap_metricRoles (includeMax : Bool) (metrics : List Descriptor) :
    (metrics.flatMap (Layout.metricRoles includeMax)).filterMap Column.metric? = metrics := by
  induction metrics with
  | nil => rfl
  | cons metric metrics ih =>
    cases includeMax <;> simpa [Layout.metricRoles, Column.metric?, List.filterMap_cons] using ih

theorem filterMap_information?_flatMap_metricRoles (includeMax : Bool)
    (metrics : List Descriptor) :
    (metrics.flatMap (Layout.metricRoles includeMax)).filterMap Column.information? = [] := by
  induction metrics with
  | nil => rfl
  | cons metric metrics ih =>
    cases includeMax <;>
      simpa [Layout.metricRoles, Column.information?, List.filterMap_cons] using ih

theorem filterMap_metric?_map_information (values : List Descriptor) :
    (values.map Column.information).filterMap Column.metric? = [] := by
  simp [List.filterMap_map, Function.comp_def, Column.metric?]

theorem filterMap_information?_map_information (values : List Descriptor) :
    (values.map Column.information).filterMap Column.information? = values := by
  simp [List.filterMap_map, Function.comp_def, Column.information?]

/-- A legible header says which metrics and which further information a dump has. -/
theorem Layout.Legible.filterMap_readAs {layout : Layout} (h : layout.Legible) :
    layout.readAs.filterMap Column.metric? = layout.metrics ∧
      layout.readAs.filterMap Column.information? = layout.shownInformation := by
  rw [h.readAs_eq_roles, Layout.roles, List.filterMap_append, List.filterMap_append]
  constructor
  · rw [filterMap_metric?_flatMap_metricRoles, filterMap_metric?_map_information,
      List.append_nil]
  · rw [filterMap_information?_flatMap_metricRoles, filterMap_information?_map_information,
      List.nil_append]

/-! ## Illegible layouts -/

theorem not_informationMark_of_ofName {last : Option String} {name unit : List Char}
    (h : (Column.ofName last name unit).information? = none) :
    ¬ informationMark.toList <+: name := by
  intro hmark
  rw [Column.ofName_of_informationMark hmark] at h
  simp [Column.information?] at h

theorem unmarked_of_ofNames {includeMax : Bool} {last : Option String} {metric : Descriptor}
    {metrics : List Descriptor}
    (h : (Column.ofNames last (metricPairs includeMax (metric :: metrics))).filterMap
      Column.information? = []) : Unmarked includeMax metric := by
  have hall := List.filterMap_eq_nil_iff.1 h
  cases includeMax with
  | false =>
    rw [metricPairs_false_cons] at hall
    simp only [Column.ofNames, List.forall_mem_cons] at hall
    exact ⟨not_informationMark_of_ofName hall.1, by simp⟩
  | true =>
    rw [metricPairs_true_cons] at hall
    simp only [Column.ofNames, List.forall_mem_cons] at hall
    exact ⟨not_informationMark_of_ofName hall.1, fun _ ↦ not_informationMark_of_ofName hall.2.1⟩

/-- With columns for greatest values, a metric that is taken for those of the one before it has its
own greatest values taken for a metric, under another name; without them, a metric is missing. -/
theorem ne_maxMark_of_ofNames {includeMax : Bool} {previous : String} {metric : Descriptor}
    {metrics : List Descriptor} (hunmarked : Unmarked includeMax metric)
    (h : (Column.ofNames (some previous) (metricPairs includeMax (metric :: metrics))).filterMap
      Column.metric? = metric :: metrics) : metric.name ≠ previous ++ maxMark := by
  intro hname
  have hcolumn : Column.ofName (some previous) metric.name.toList metric.unit.toList =
      .max previous := Column.ofName_of_maxMark hunmarked.name (by rw [hname])
  cases includeMax with
  | false =>
    have hle := List.length_filterMap_le Column.metric?
      (Column.ofNames (some previous) (metricPairs false metrics))
    rw [Column.length_ofNames, length_metricPairs_false] at hle
    rw [metricPairs_false_cons] at h
    simp only [Column.ofNames, hcolumn, List.filterMap_cons, Column.metric?] at h
    rw [h, List.length_cons] at hle
    omega
  | true =>
    have hmaxColumn : Column.ofName (some previous) (metric.name ++ maxMark).toList
        metric.unit.toList = .metric ⟨metric.name ++ maxMark, metric.unit⟩ := by
      rw [Column.ofName_of_metric (hunmarked.max rfl), String.ofList_toList, String.ofList_toList]
      intro other hother heq
      obtain rfl := Option.some.inj hother
      have hsame := String.toList_inj.1 heq
      rw [← hname] at hsame
      exact append_maxMark_ne _ hsame
    rw [metricPairs_true_cons] at h
    simp only [Column.ofNames, hcolumn, hmaxColumn, List.filterMap_cons, Column.metric?,
      List.cons.injEq] at h
    exact append_maxMark_ne _ (congrArg Descriptor.name h.1)

/-- The induction is on the metrics; each has to be taken for a metric, since none can be missing,
and none of its columns may be taken for further information, since none can be there. -/
theorem legible_of_ofNames {includeMax : Bool} {last : Option String} {metrics : List Descriptor}
    (hmetrics : (Column.ofNames last (metricPairs includeMax metrics)).filterMap Column.metric? =
      metrics)
    (hinformation : (Column.ofNames last (metricPairs includeMax metrics)).filterMap
      Column.information? = []) :
    (∀ metric ∈ metrics, Unmarked includeMax metric) ∧
      NoneIsMaxOfPrevious (last.toList ++ metrics.map (·.name)) := by
  induction metrics generalizing last with
  | nil => cases last <;> simp [NoneIsMaxOfPrevious]
  | cons metric metrics ih =>
    have hunmarked := unmarked_of_ofNames hinformation
    have hprevious : ∀ previous ∈ last, metric.name ≠ previous ++ maxMark := by
      intro previous hlast
      obtain rfl : last = some previous := hlast
      exact ne_maxMark_of_ofNames hunmarked hmetrics
    rw [ofNames_metricPairs_cons hunmarked hprevious, List.filterMap_append]
      at hmetrics hinformation
    have hroles := filterMap_metric?_flatMap_metricRoles includeMax [metric]
    rw [List.flatMap_singleton] at hroles
    rw [hroles, List.singleton_append, List.cons.injEq] at hmetrics
    obtain ⟨hrest, hchain⟩ := ih hmetrics.2 (List.append_eq_nil_iff.1 hinformation).2
    refine ⟨List.forall_mem_cons.2 ⟨hunmarked, hrest⟩, ?_⟩
    cases last with
    | none => exact hchain
    | some previous => exact List.isChain_cons_cons.2 ⟨hprevious previous rfl, hchain⟩

/-- Exactly the legible headers say which metrics and which further information a dump has. -/
theorem Layout.legible_iff_filterMap_readAs (layout : Layout) :
    layout.Legible ↔
      layout.readAs.filterMap Column.metric? = layout.metrics ∧
        layout.readAs.filterMap Column.information? = layout.shownInformation := by
  refine ⟨Layout.Legible.filterMap_readAs, ?_⟩
  rintro ⟨hmetrics, hinformation⟩
  rw [Layout.readAs_eq, List.filterMap_append, filterMap_metric?_map_information,
    List.append_nil] at hmetrics
  rw [Layout.readAs_eq, List.filterMap_append, filterMap_information?_map_information,
    List.append_left_eq_self] at hinformation
  obtain ⟨hunmarked, hchain⟩ := legible_of_ofNames hmetrics hinformation
  exact ⟨hunmarked, hchain⟩

end GpuCounters.Dump
