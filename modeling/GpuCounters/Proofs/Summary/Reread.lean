import GpuCounters.Proofs.Counter.Whole
import GpuCounters.Proofs.Dump.Rows
import GpuCounters.Summary.Aggregator

/-!
# Sums of what was read back

All that is summed up of a metric is its name and its number. A report of whole values keeps both
when its row is read back, so that the rows of a dump sum up to what their reports did.
-/

namespace GpuCounters

/-! ## What is summed up -/

/-- What is summed up of a metric. -/
def Metric.share (metric : Metric) : String × Option Binary64 :=
  (metric.name, metric.value.toNumber?)

namespace Summary

/-- The induction is on the metrics of both lists together: they have the same names and numbers. -/
theorem Operation.observeAll_congr {metrics others : List Metric} (operation : Operation)
    (h : metrics.map Metric.share = others.map Metric.share) :
    operation.observeAll metrics = operation.observeAll others := by
  induction metrics generalizing operation others with
  | nil =>
    obtain rfl := List.map_eq_nil_iff.1 h.symm
    rfl
  | cons metric metrics ih =>
    obtain ⟨other, rest, rfl, hshare, hrest⟩ := List.map_eq_cons_iff.1 h.symm
    obtain ⟨hname, hnumber⟩ := Prod.mk.inj hshare
    rw [observeAll, observeAll, hname, hnumber]
    cases metric.value.toNumber? with
    | none => exact ih operation hrest.symm
    | some x =>
      dsimp only
      rw [ih (operation.observe metric.name x) hrest.symm]

theorem Aggregator.add_congr {report other : Report} (aggregator : Aggregator) (name : String)
    (h : report.metrics.map Metric.share = other.metrics.map Metric.share) :
    aggregator.add name report = aggregator.add name other := by
  have haggregate : ∀ operation : Operation,
      operation.aggregate report = operation.aggregate other :=
    fun operation ↦ Operation.observeAll_congr _ h
  unfold Aggregator.add Aggregator.aggregate
  simp only [haggregate]

/-- The induction is on the rows from their end, where one more is one more report. -/
theorem Aggregator.ofRows_map {change : Report → Report} {rows : List (String × Report)}
    (h : ∀ row ∈ rows, (change row.2).metrics.map Metric.share = row.2.metrics.map Metric.share) :
    ofRows (rows.map fun row ↦ (row.1, change row.2)) = ofRows rows := by
  induction rows using List.reverseRecOn with
  | nil => rfl
  | append_singleton rows row ih =>
    obtain ⟨hrows, hrow⟩ := List.forall_mem_append.1 h
    calc
      ofRows ((rows ++ [row]).map fun row ↦ (row.1, change row.2)) =
          (ofRows (rows.map fun row ↦ (row.1, change row.2))).add row.1 (change row.2) := by
        rw [List.map_append, List.map_singleton, ofRows_append_singleton]
      _ = (ofRows rows).add row.1 row.2 := by
        rw [ih hrows, add_congr _ _ (hrow row (List.mem_singleton_self row))]
      _ = ofRows (rows ++ [row]) := by rw [ofRows_append_singleton]

end Summary

/-! ## Reports of whole values -/

/-- Whether a report holds some metrics of a metric set, in its order and with whole values. -/
@[mk_iff]
structure Report.IsWhole (metrics : List Descriptor) (report : Report) : Prop where
  names : (report.metrics.map (·.name)).Sublist (metrics.map (·.name))
  value : ∀ metric ∈ report.metrics, metric.value.IsWhole
  max : ∀ metric ∈ report.metrics, ∀ value ∈ metric.max?, value.IsWhole

instance (metrics : List Descriptor) (report : Report) : Decidable (report.IsWhole metrics) :=
  decidable_of_iff' _ (report.isWhole_iff metrics)

theorem Value.IsWhole.isSingleLine {value : Value} (h : value.IsWhole) : value.IsSingleLine := by
  rintro s rfl
  exact absurd h id

theorem Metric.exists_reread? {metric : Metric} (h : metric.value.IsWhole) (includeMax : Bool) :
    ∃ read, metric.reread? includeMax = some read ∧ read.share = metric.share := by
  have hvalue : metric.value.reread? = some (.ofCell metric.value.toText) := if_neg h.toText_ne
  refine ⟨_, by rw [Metric.reread?, hvalue, Option.map_some], ?_⟩
  rw [Metric.share, Metric.share, h.toNumber?_ofCell]

theorem Metric.share_reread? (includeMax : Bool) {metrics : List Metric}
    (h : ∀ metric ∈ metrics, metric.value.IsWhole) :
    (metrics.filterMap (Metric.reread? includeMax)).map Metric.share =
      metrics.map Metric.share := by
  induction metrics with
  | nil => rfl
  | cons metric metrics ih =>
    obtain ⟨hmetric, hmetrics⟩ := List.forall_mem_cons.1 h
    obtain ⟨read, hread, hshare⟩ := Metric.exists_reread? hmetric includeMax
    rw [List.filterMap_cons_some hread, List.map_cons, List.map_cons, hshare, ih hmetrics]

/-- Metrics that are looked up by names in their own order are all found, one after another. -/
theorem filterMap_find?_of_sublist {names : List String} (hnodup : names.Nodup)
    {metrics : List Metric} (h : (metrics.map (·.name)).Sublist names) :
    names.filterMap (fun name ↦ metrics.find? (·.name = name)) = metrics := by
  induction names generalizing metrics with
  | nil =>
    rw [List.sublist_nil, List.map_eq_nil_iff] at h
    rw [h]
    rfl
  | cons name names ih =>
    obtain ⟨hfresh, hnames⟩ := List.nodup_cons.1 hnodup
    obtain hskip | ⟨rest, hmap, hrest⟩ := List.sublist_cons_iff.1 h
    · -- The first name has no metric.
      have hnone : metrics.find? (·.name = name) = none := by
        rw [List.find?_eq_none]
        intro metric hmetric heq
        exact hfresh (of_decide_eq_true heq ▸ hskip.subset (List.mem_map_of_mem hmetric))
      rw [List.filterMap_cons, hnone]
      exact ih hnames hskip
    · obtain ⟨metric, later, rfl, rfl, rfl⟩ := List.map_eq_cons_iff.1 hmap
      -- The first name has the first metric, which no other name leads to.
      have hfirst : (metric :: later).find? (·.name = metric.name) = some metric := by simp
      have hothers : ∀ other ∈ names, (metric :: later).find? (·.name = other) =
          later.find? (·.name = other) := by
        intro other hother
        have hne : metric.name ≠ other := fun heq ↦ hfresh (heq ▸ hother)
        simp [hne]
      rw [List.filterMap_cons, hfirst, List.filterMap_congr hothers, ih hnames hrest]

variable {report : Report}

theorem Report.IsWhole.isDistinct {metrics : List Descriptor} (h : report.IsWhole metrics)
    (hnodup : (metrics.map (·.name)).Nodup) : report.IsDistinct := hnodup.sublist h.names

/-- What is summed up of a report of whole values is what is summed up of its row. -/
theorem Report.IsWhole.share_readBack {layout : Dump.Layout} (h : report.IsWhole layout.metrics)
    (hnodup : (layout.metrics.map (·.name)).Nodup) :
    (layout.readBack report).metrics.map Metric.share = report.metrics.map Metric.share := by
  have hmetrics : (layout.readBack report).metrics =
      report.metrics.filterMap (Metric.reread? layout.includeMax) := by
    calc
      (layout.readBack report).metrics =
          ((layout.metrics.map (·.name)).filterMap report.get?).filterMap
            (Metric.reread? layout.includeMax) := by
        rw [List.filterMap_filterMap, List.filterMap_map]
        rfl
      _ = report.metrics.filterMap (Metric.reread? layout.includeMax) :=
        congrArg (List.filterMap (Metric.reread? layout.includeMax))
          (filterMap_find?_of_sublist hnodup h.names)
  rw [hmetrics, Metric.share_reread? layout.includeMax h.value]

end GpuCounters
