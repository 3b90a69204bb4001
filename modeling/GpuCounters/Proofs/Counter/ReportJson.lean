import GpuCounters.Counter.Json
import GpuCounters.Proofs.Json.Documents

/-!
# Reports read back from JSON

A report comes back from its text if each of its numbers with a fraction comes back from its own
literal. Names and texts may hold any characters, and whole numbers any bits. Where the text has no
greatest value for a metric, the metric has none, and without further information the report has
none.
-/

namespace GpuCounters

open Json

/-! ## Numbers -/

namespace Json

theorem accumulate_append {text : List Char} {start n : ℕ} (h : accumulate text start = (n, []))
    (more : List Char) : accumulate (text ++ more) start = accumulate more n := by
  induction text generalizing start with
  | nil =>
    obtain ⟨rfl, -⟩ := Prod.mk.inj h
    rfl
  | cons c text ih =>
    rw [accumulate] at h
    rw [List.cons_append, accumulate]
    split at h
    · rename_i hnext
      rw [if_pos hnext]
      exact ih h
    · exact absurd (Prod.mk.inj h).2 (List.cons_ne_nil _ _)

theorem accumulate_digitChar {start d : ℕ} (hd : d < 10) (h : start * 10 + d < UInt64.size) :
    accumulate [d.digitChar] start = (start * 10 + d, []) := by
  have hvalue : ∀ d < 10, d.digitChar.toNat - '0'.toNat = d := by decide
  rw [accumulate, hvalue d hd]
  exact if_pos h

/-- The induction is on the number: all its digits but the last are those of its tenth part. -/
theorem accumulate_toDigits {n : ℕ} (h : n < UInt64.size) :
    accumulate (Nat.toDigits 10 n) 0 = (n, []) := by
  induction n using Nat.strongRecOn with
  | ind n ih =>
    by_cases hsmall : n < 10
    · rw [Nat.toDigits_of_lt_base hsmall, accumulate_digitChar hsmall (by omega), Nat.zero_mul,
        Nat.zero_add]
    · have hfront := ih (n / 10) (by omega) (by omega)
      have hlast : n % 10 < 10 := Nat.mod_lt n (by decide)
      have hwhole : n / 10 * 10 + n % 10 = n := by omega
      rw [Nat.toDigits_of_base_le (by decide) (by omega), accumulate_append hfront,
        accumulate_digitChar hlast (by omega), hwhole]

theorem ofLiteral?_toDigits {n : ℕ} (h : n < UInt64.size) :
    Number.ofLiteral? (Nat.toDigits 10 n) = some (.natural n) := by
  have hread := accumulate_toDigits h
  have hdigits := Decimal.isDigits_toDigits n
  have hne : Nat.toDigits 10 n ≠ [] := Nat.toDigits_ne_nil
  generalize Nat.toDigits 10 n = digits at hread hdigits hne ⊢
  have htake : digits.takeWhile Char.isDigit = digits := List.takeWhile_eq_self_iff.2 hdigits
  have hdrop : digits.dropWhile Char.isDigit = [] := List.dropWhile_eq_nil_iff.2 hdigits
  obtain ⟨c, more, rfl⟩ := List.exists_cons_of_ne_nil hne
  have hminus : c ≠ '-' := Decimal.ne_of_isDigit (hdigits c List.mem_cons_self) (by decide)
  simp [Number.ofLiteral?, hminus, htake, hdrop, hread]

theorem natural?_ofNat {bound n : ℕ} (hbound : bound ≤ UInt64.size) (h : n < bound) :
    natural? bound (.ofNat n) = some n := by
  rw [Document.ofNat, natural?, ofLiteral?_toDigits (h.trans_le hbound)]
  exact if_pos h

end Json

/-! ## Values -/

namespace Value

/-- Whether a value is no number with a fraction, or a finite one that its literal is read as. -/
def ReadsBack : Value → Prop
  | .f32 x => x.isFinite = true ∧ binary? .single (ofBinary single x) = some x
  | .f64 x => x.isFinite = true ∧ binary? .double (ofBinary double x) = some x
  | .u32 _ | .u64 _ | .bool _ | .text _ => True

instance : DecidablePred ReadsBack
  | .f32 x => inferInstanceAs (Decidable (x.isFinite = true ∧ _ = some x))
  | .f64 x => inferInstanceAs (Decidable (x.isFinite = true ∧ _ = some x))
  | .u32 _ | .u64 _ | .bool _ | .text _ => isTrue trivial

theorem isPlain_contentToJson {value : Value} (h : value.ReadsBack) :
    value.contentToJson.IsPlain := by
  have hmark : IsFraction ['.', '0'] := .digits (Decimal.isDigits_replicate_zero 1) (by decide)
  cases value with
  | u32 n => exact .number (isLiteral_toDigits n.toNat)
  | u64 n => exact .number (isLiteral_toDigits n.toNat)
  | f32 x =>
    rw [contentToJson, ofBinary, if_pos h.1]
    exact .number (isLiteral_render Decimal.hasDecimals_single hmark h.1)
  | f64 x =>
    rw [contentToJson, ofBinary, if_pos h.1]
    exact .number (isLiteral_render Decimal.hasDecimals_double hmark h.1)
  | bool b => exact .bool b
  | text s => exact .text s

theorem isPlain_toJson {value : Value} (h : value.ReadsBack) : value.toJson.IsPlain := by
  refine .object fun member hmember ↦ ?_
  obtain rfl | hmember := List.mem_cons.1 hmember
  · exact .text value.kindName
  · rw [List.mem_singleton.1 hmember]
    exact isPlain_contentToJson h

theorem contentOfJson?_contentToJson {value : Value} (h : value.ReadsBack) :
    contentOfJson? value.kindName value.contentToJson = some value := by
  cases value with
  | u32 n =>
    have hread := natural?_ofNat (by decide) n.toNat_lt
    simp [kindName, contentOfJson?, contentToJson, hread]
  | u64 n =>
    have hread := natural?_ofNat (by decide) n.toNat_lt
    simp [kindName, contentOfJson?, contentToJson, hread]
  | f32 x => simp [kindName, contentOfJson?, contentToJson, h.2]
  | f64 x => simp [kindName, contentOfJson?, contentToJson, h.2]
  | bool b => rfl
  | text s => rfl

theorem ofJson?_toJson {value : Value} (h : value.ReadsBack) :
    ofJson? value.toJson = some value := by
  have hfields : fields? ["type", "value"] value.toJson =
      some [some (.ofString value.kindName), some value.contentToJson] := rfl
  rw [ofJson?, hfields]
  exact contentOfJson?_contentToJson h

end Value

/-! ## Cut documents -/

namespace Json.Document

def without (key : String) : Document → Document
  | .object members => .object (members.filter fun member ↦ member.1 ≠ some key)
  | document => document

def editMember (key : String) (edit : Document → Document) : Document → Document
  | .object members =>
    .object (members.map fun member ↦
      if member.1 = some key then (member.1, edit member.2) else member)
  | document => document

/-- An array with each element edited after its position. -/
def editElements (edit : ℕ → Document → Document) : Document → Document
  | .array elements => .array (elements.mapIdx edit)
  | document => document

theorem IsPlain.without {document : Document} (h : document.IsPlain) (key : String) :
    (document.without key).IsPlain := by
  cases h with
  | null => exact .null
  | bool value => exact .bool value
  | number hliteral => exact .number hliteral
  | text value => exact .text value
  | array helements => exact .array helements
  | @object members hmembers =>
    have hfilter : (ofMembers members).without key =
        ofMembers (members.filter fun member ↦ some member.1 ≠ some key) := by
      simp only [ofMembers, Document.without, List.filter_map]
      rfl
    rw [hfilter]
    exact .object fun member hmember ↦ hmembers member (List.mem_of_mem_filter hmember)

/-- Whether a text is another one without a member that stands behind a comma. -/
def IsCut (key : String) (value : Document) (whole cut : List Char) : Prop :=
  ∃ before after, whole = before ++ (',' :: memberText [] key value.compact ++ after) ∧
    cut = before ++ after

/-- The last member of an object is cut out of its text. -/
theorem isCut_concat {members : List (String × Document)} (hne : members ≠ []) (key : String)
    (value : Document) :
    IsCut key value (ofMembers (members ++ [(key, value)])).compact
      (ofMembers members).compact := by
  have htexts : (members.map fun member ↦ memberText [] member.1 member.2.compact) ≠ [] := by
    simpa using hne
  refine ⟨'\x7b' :: separated [',']
    (members.map fun member ↦ memberText [] member.1 member.2.compact), ['\x7d'], ?_, ?_⟩
  · rw [compact_ofMembers, List.map_append, List.map_singleton,
      separated_append_singleton _ htexts]
    simp
  · rw [compact_ofMembers]
    rfl

/-- What is cut out of an element is cut out of the array. -/
theorem IsCut.element {key : String} {value element other : Document}
    (h : IsCut key value element.compact other.compact) {elements : List Document} {i : ℕ}
    (hi : elements[i]? = some element) :
    IsCut key value (Document.array elements).compact
      (Document.array (elements.set i other)).compact := by
  obtain ⟨before, after, hwhole, hcut⟩ := h
  obtain ⟨hlength, rfl⟩ := List.getElem?_eq_some_iff.1 hi
  obtain ⟨outer, rest, heq⟩ := exists_separated_append_cons [','] ((elements.take i).map compact)
    ((elements.drop (i + 1)).map compact)
  have helements : elements = elements.take i ++ elements[i] :: elements.drop (i + 1) := by simp
  refine ⟨'[' :: (outer ++ before), after ++ rest ++ [']'], ?_, ?_⟩
  · rw [compact, compactElements_eq_map, helements, List.map_append, List.map_cons,
      heq, hwhole]
    simp
  · rw [compact, compactElements_eq_map, List.set_eq_take_append_cons_drop, if_pos hlength,
      List.map_append, List.map_cons, heq, hcut]
    simp

/-- What is cut out of the document of a member is cut out of the object. -/
theorem IsCut.member {key : String} {value document other : Document}
    (h : IsCut key value document.compact other.compact) (front behind : List (String × Document))
    (name : String) :
    IsCut key value (ofMembers (front ++ (name, document) :: behind)).compact
      (ofMembers (front ++ (name, other) :: behind)).compact := by
  obtain ⟨before, after, hwhole, hcut⟩ := h
  obtain ⟨outer, rest, heq⟩ := exists_separated_append_cons [',']
    (front.map fun member ↦ memberText [] member.1 member.2.compact)
    (behind.map fun member ↦ memberText [] member.1 member.2.compact)
  refine ⟨'\x7b' :: (outer ++ (writeText (some name) ++ ':' :: before)), after ++ rest ++ ['\x7d'],
    ?_, ?_⟩
  · rw [compact_ofMembers, List.map_append, List.map_cons, heq, hwhole]
    simp [memberText]
  · rw [compact_ofMembers, List.map_append, List.map_cons, heq, hcut]
    simp [memberText]

end Json.Document

/-! ## Metrics -/

namespace Metric

/-- A metric whose greatest value is not known. -/
def bare (metric : Metric) : Metric := { metric with max? := none }

/-- The document of a metric, or what is left of it without its greatest value. -/
def cutJson (isCut : Bool) (metric : Metric) : Document :=
  if isCut then metric.toJson.without "max" else metric.toJson

/-- The value of a metric, and the greatest one that it can take. -/
def values (metric : Metric) : List Value := metric.value :: metric.max?.toList

variable {metric : Metric}

theorem isPlain_toJson (h : ∀ value ∈ metric.values, value.ReadsBack) : metric.toJson.IsPlain := by
  have hvalue := Value.isPlain_toJson (h metric.value List.mem_cons_self)
  have hmax : ((metric.max?.map Value.toJson).getD .null).IsPlain := by
    cases hmax : metric.max? with
    | none => exact .null
    | some max => exact Value.isPlain_toJson (h max (by simp [values, hmax]))
  refine .object fun member hmember ↦ ?_
  simp only [List.mem_cons, List.not_mem_nil, or_false] at hmember
  obtain rfl | rfl | rfl := hmember
  · exact .text metric.name
  · exact hvalue
  · exact hmax

theorem ofJson?_toJson (h : ∀ value ∈ metric.values, value.ReadsBack) :
    ofJson? metric.toJson = some metric := by
  have hvalue := Value.ofJson?_toJson (h metric.value List.mem_cons_self)
  have hmax : nullable? Value.ofJson? ((metric.max?.map Value.toJson).getD .null) =
      some metric.max? := by
    cases hmax : metric.max? with
    | none => rfl
    | some max =>
      have hread := Value.ofJson?_toJson (h max (by simp [values, hmax]))
      change (Value.ofJson? max.toJson).map some = _
      rw [hread, Option.map_some]
  have hfields : fields? ["name", "value", "max"] metric.toJson =
      some [some (.ofString metric.name), some metric.value.toJson,
        some ((metric.max?.map Value.toJson).getD .null)] := rfl
  rw [ofJson?, hfields]
  simp [string?, Document.ofString, hvalue, hmax]

theorem ofJson?_without (h : metric.value.ReadsBack) :
    ofJson? (metric.toJson.without "max") = some metric.bare := by
  have hvalue := Value.ofJson?_toJson h
  have hfields : fields? ["name", "value", "max"] (metric.toJson.without "max") =
      some [some (.ofString metric.name), some metric.value.toJson, none] := rfl
  rw [ofJson?, hfields]
  simp [string?, Document.ofString, hvalue, bare]

theorem isPlain_cutJson (h : ∀ value ∈ metric.values, value.ReadsBack) (isCut : Bool) :
    (metric.cutJson isCut).IsPlain := by
  unfold cutJson
  split
  · exact (isPlain_toJson h).without "max"
  · exact isPlain_toJson h

theorem ofJson?_cutJson (h : ∀ value ∈ metric.values, value.ReadsBack) (isCut : Bool) :
    ofJson? (metric.cutJson isCut) = some (if isCut then metric.bare else metric) := by
  unfold cutJson
  split
  · exact ofJson?_without (h metric.value List.mem_cons_self)
  · exact ofJson?_toJson h

end Metric

/-! ## Reports -/

theorem list?_map {α : Type} {read : Document → Option α} {write : α → Document}
    {items : List α} (h : ∀ item ∈ items, read (write item) = some item) :
    list? read (.array (items.map write)) = some items := by
  rw [list?]
  induction items with
  | nil => rfl
  | cons item rest ih =>
    rw [List.map_cons, List.mapM_cons, h item List.mem_cons_self,
      ih fun other hother ↦ h other (List.mem_cons_of_mem _ hother)]
    rfl

/-- The induction is on the elements, whose positions go down by one behind the first. -/
theorem list?_mapIdx {α : Type} {read : Document → Option α} {write : ℕ → α → Document}
    {result : ℕ → α → α} {items : List α}
    (h : ∀ item ∈ items, ∀ i, read (write i item) = some (result i item)) :
    list? read (.array (items.mapIdx write)) = some (items.mapIdx result) := by
  rw [list?]
  induction items generalizing write result with
  | nil => rfl
  | cons item rest ih =>
    rw [List.mapIdx_cons, List.mapM_cons, h item List.mem_cons_self,
      ih fun other hother i ↦ h other (List.mem_cons_of_mem _ hother) (i + 1), List.mapIdx_cons]
    rfl

/-- A document without the greatest values of the metrics at the given positions. -/
def Json.Document.withoutMaxima (cut : ℕ → Bool) (document : Document) : Document :=
  document.editMember "values" (editElements fun i metric ↦
    if cut i then metric.without "max" else metric)

namespace Report

/-- A report without the greatest values of the metrics at the given positions. -/
def withoutMaxima (cut : ℕ → Bool) (report : Report) : Report where
  metrics := report.metrics.mapIdx fun i metric ↦ if cut i then metric.bare else metric
  information := report.information

def values (report : Report) : List Value :=
  report.metrics.flatMap Metric.values ++ report.information

/-- Read a report from the text of its document. -/
def ofText? (text : String) : Option Report := (Document.ofText? text.toList).bind ofJson?

variable {report : Report}

/-- A report is its metrics, and its further information unless that is missing. -/
theorem ofJson?_ofMembers {metrics information : Document}
    (hmetrics : list? Metric.ofJson? metrics = some report.metrics)
    (hinformation : list? Value.ofJson? information = some report.information) :
    ofJson? (.ofMembers [("values", metrics), ("io_info", information)]) = some report := by
  have hfields : fields? ["values", "io_info"]
      (.ofMembers [("values", metrics), ("io_info", information)]) =
        some [some metrics, some information] := rfl
  rw [ofJson?, hfields]
  simp [hmetrics, hinformation]

theorem ofJson?_metrics {metrics : Document}
    (hmetrics : list? Metric.ofJson? metrics = some report.metrics) :
    ofJson? (.ofMembers [("values", metrics)]) = some { report with information := [] } := by
  have hfields : fields? ["values", "io_info"] (.ofMembers [("values", metrics)]) =
      some [some metrics, none] := rfl
  rw [ofJson?, hfields]
  simp [hmetrics]

theorem toJson_withoutMaxima (cut : ℕ → Bool) (report : Report) :
    report.toJson.withoutMaxima cut =
      .ofMembers
        [("values", .array (report.metrics.mapIdx fun i metric ↦ metric.cutJson (cut i))),
          ("io_info", .array (report.information.map Value.toJson))] := by
  have hmap : (report.metrics.map Metric.toJson).mapIdx
      (fun i metric ↦ if cut i then metric.without "max" else metric) =
        report.metrics.mapIdx fun i metric ↦ metric.cutJson (cut i) := by
    simp [List.mapIdx_eq_zipIdx_map, List.zipIdx_map, Function.comp_def, Metric.cutJson]
  rw [← hmap]
  rfl

theorem toJson_without (cut : ℕ → Bool) (report : Report) :
    (report.toJson.withoutMaxima cut).without "io_info" =
      .ofMembers
        [("values", .array (report.metrics.mapIdx fun i metric ↦ metric.cutJson (cut i)))] := by
  rw [toJson_withoutMaxima]
  rfl

theorem readsBack_of_mem_metrics (h : ∀ value ∈ report.values, value.ReadsBack) {metric : Metric}
    (hmetric : metric ∈ report.metrics) : ∀ value ∈ metric.values, value.ReadsBack :=
  fun value hvalue ↦ h value (List.mem_append_left _ (List.mem_flatMap.2 ⟨metric, hmetric, hvalue⟩))

theorem readsBack_of_mem_information (h : ∀ value ∈ report.values, value.ReadsBack) :
    ∀ value ∈ report.information, value.ReadsBack :=
  fun value hvalue ↦ h value (List.mem_append_right _ hvalue)

theorem isPlain_information (h : ∀ value ∈ report.values, value.ReadsBack) :
    (Document.array (report.information.map Value.toJson)).IsPlain :=
  .array (List.forall_mem_map.2 fun value hvalue ↦
    Value.isPlain_toJson (readsBack_of_mem_information h value hvalue))

theorem isPlain_metrics (h : ∀ value ∈ report.values, value.ReadsBack) (cut : ℕ → Bool) :
    (Document.array (report.metrics.mapIdx fun i metric ↦ metric.cutJson (cut i))).IsPlain := by
  refine .array fun element helement ↦ ?_
  obtain ⟨i, hi, rfl⟩ := List.mem_mapIdx.1 helement
  exact Metric.isPlain_cutJson (readsBack_of_mem_metrics h (List.getElem_mem hi)) (cut i)

theorem list?_metrics (h : ∀ value ∈ report.values, value.ReadsBack) (cut : ℕ → Bool) :
    list? Metric.ofJson? (.array (report.metrics.mapIdx fun i metric ↦ metric.cutJson (cut i))) =
      some (report.withoutMaxima cut).metrics :=
  list?_mapIdx fun _ hmetric i ↦ Metric.ofJson?_cutJson (readsBack_of_mem_metrics h hmetric) (cut i)

theorem ofJson?_withoutMaxima (h : ∀ value ∈ report.values, value.ReadsBack) (cut : ℕ → Bool) :
    ofJson? (report.toJson.withoutMaxima cut) = some (report.withoutMaxima cut) := by
  have hinformation : list? Value.ofJson? (.array (report.information.map Value.toJson)) =
      some (report.withoutMaxima cut).information :=
    list?_map fun value hvalue ↦
      Value.ofJson?_toJson (readsBack_of_mem_information h value hvalue)
  rw [toJson_withoutMaxima]
  exact ofJson?_ofMembers (list?_metrics h cut) hinformation

theorem isPlain_withoutMaxima (h : ∀ value ∈ report.values, value.ReadsBack) (cut : ℕ → Bool) :
    (report.toJson.withoutMaxima cut).IsPlain := by
  rw [toJson_withoutMaxima]
  refine .object fun member hmember ↦ ?_
  obtain rfl | hmember := List.mem_cons.1 hmember
  · exact isPlain_metrics h cut
  · rw [List.mem_singleton.1 hmember]
    exact isPlain_information h

theorem mapIdx_eq_map {α β : Type} (f : α → β) (items : List α) :
    items.mapIdx (fun _ item ↦ f item) = items.map f := by
  induction items with
  | nil => rfl
  | cons item rest ih => rw [List.mapIdx_cons, ih, List.map_cons]

theorem withoutMaxima_none (report : Report) : report.withoutMaxima (fun _ ↦ false) = report := by
  change (⟨report.metrics.mapIdx fun _ metric ↦ id metric, report.information⟩ : Report) = report
  rw [mapIdx_eq_map, List.map_id]

theorem toJson_withoutMaxima_none (report : Report) :
    report.toJson.withoutMaxima (fun _ ↦ false) = report.toJson := by
  rw [toJson_withoutMaxima, toJson]
  simp [Metric.cutJson, mapIdx_eq_map]

/-- The document of a report's further information stands behind that of its metrics. -/
theorem isCut_information (cut : ℕ → Bool) (report : Report) :
    Document.IsCut "io_info" (.array (report.information.map Value.toJson))
      (report.toJson.withoutMaxima cut).compact
      ((report.toJson.withoutMaxima cut).without "io_info").compact := by
  rw [toJson_without, toJson_withoutMaxima]
  exact Document.isCut_concat (List.cons_ne_nil _ []) "io_info" _

/-- The greatest value of a metric stands behind its other members, whichever others are cut. -/
theorem isCut_max {cut : ℕ → Bool} {i : ℕ} {metric : Metric}
    (hmetric : report.metrics[i]? = some metric) (hcut : cut i = false) :
    Document.IsCut "max" ((metric.max?.map Value.toJson).getD .null)
      (report.toJson.withoutMaxima cut).compact
      (report.toJson.withoutMaxima (Function.update cut i true)).compact := by
  have hone : Document.IsCut "max" ((metric.max?.map Value.toJson).getD .null)
      metric.toJson.compact (metric.toJson.without "max").compact :=
    Document.isCut_concat (List.cons_ne_nil ("name", .ofString metric.name)
      [("value", metric.value.toJson)]) "max" _
  have helement : (report.metrics.mapIdx fun i metric ↦ metric.cutJson (cut i))[i]? =
      some metric.toJson := by
    simp [hmetric, hcut, Metric.cutJson]
  have hset : (report.metrics.mapIdx fun j metric ↦
      metric.cutJson (Function.update cut i true j)) =
        (report.metrics.mapIdx fun i metric ↦ metric.cutJson (cut i)).set i
          (metric.toJson.without "max") := by
    apply List.ext_getElem?
    intro j
    rw [List.getElem?_set]
    by_cases hj : i = j
    · subst hj
      obtain ⟨hlength, rfl⟩ := List.getElem?_eq_some_iff.1 hmetric
      simp [hlength, Metric.cutJson]
    · simp [hj, Function.update_of_ne (Ne.symm hj)]
  rw [toJson_withoutMaxima, toJson_withoutMaxima, hset]
  exact (hone.element helement).member [] _ "values"

/-- A report comes back from the text of its document. The rest of it comes back where greatest
values are cut out of the text, one after another and any of them, and where the further information
is cut out of that. -/
theorem ofText?_of_isText_toJson (h : ∀ value ∈ report.values, value.ReadsBack) (text : String) :
    (report.toJson.IsText text → ofText? text = some report) ∧
      (∀ cut : ℕ → Bool,
        ((report.toJson.withoutMaxima cut).IsText text →
          ofText? text = some (report.withoutMaxima cut)) ∧
        (((report.toJson.withoutMaxima cut).without "io_info").IsText text →
          ofText? text = some { report.withoutMaxima cut with information := [] })) ∧
      report.toJson.withoutMaxima (fun _ ↦ false) = report.toJson ∧
      (∀ (cut : ℕ → Bool) i metric, report.metrics[i]? = some metric → cut i = false →
        Document.IsCut "max" ((metric.max?.map Value.toJson).getD .null)
          (report.toJson.withoutMaxima cut).compact
          (report.toJson.withoutMaxima (Function.update cut i true)).compact) ∧
      ∀ cut : ℕ → Bool,
        Document.IsCut "io_info" (.array (report.information.map Value.toJson))
          (report.toJson.withoutMaxima cut).compact
          ((report.toJson.withoutMaxima cut).without "io_info").compact := by
  have hcut (cut : ℕ → Bool) (htext : (report.toJson.withoutMaxima cut).IsText text) :
      ofText? text = some (report.withoutMaxima cut) := by
    rw [ofText?, (isPlain_withoutMaxima h cut).ofText?_of_isText htext, Option.bind_some,
      ofJson?_withoutMaxima h cut]
  refine ⟨fun htext ↦ ?_, fun cut ↦ ⟨hcut cut, fun htext ↦ ?_⟩, toJson_withoutMaxima_none report,
    fun cut i metric ↦ isCut_max, fun cut ↦ isCut_information cut report⟩
  · have hread := hcut (fun _ ↦ false)
    rw [toJson_withoutMaxima_none, withoutMaxima_none] at hread
    exact hread htext
  · have hplain := (isPlain_withoutMaxima h cut).without "io_info"
    rw [ofText?, hplain.ofText?_of_isText htext, Option.bind_some, toJson_without]
    exact ofJson?_metrics (list?_metrics h cut)

/-- A report with a name and a text of any characters, the greatest number of 64 bits, numbers with
a fraction, negative zero among them, and a greatest value. -/
def mixedReport : Report where
  metrics :=
    [⟨"\"Käfer\"\n\u0001", .u64 0xffffffffffffffff, none⟩,
      ⟨"EuActive", .f32 (.ofBits .single 0x425e0000),
        some (.f64 (.ofBits .double 0x3fb999999999999a))⟩]
  information := [.text "C:\\😀", .f64 (.ofBits .double 0x8000000000000000), .bool true]

theorem ofText?_mixedReport :
    ofText? mixedReport.toJson.toCompact = some mixedReport ∧
      ofText? ((mixedReport.toJson.withoutMaxima (· = 1)).without "io_info").toIndented =
        some { mixedReport.withoutMaxima (· = 1) with information := [] } ∧
      Document.IsCut "max" (Value.f64 (.ofBits .double 0x3fb999999999999a)).toJson
        mixedReport.toJson.compact
        (mixedReport.toJson.withoutMaxima (Function.update (fun _ ↦ false) 1 true)).compact := by
  have hvalues : ∀ value ∈ mixedReport.values, value.ReadsBack := by decide +kernel
  obtain ⟨-, -, hnone, hmax, -⟩ := ofText?_of_isText_toJson hvalues ""
  refine ⟨(ofText?_of_isText_toJson hvalues _).1 (.inl rfl),
    ((ofText?_of_isText_toJson hvalues _).2.1 (· = 1)).2 (.inr rfl), ?_⟩
  rw [← hnone]
  exact hmax (fun _ ↦ false) 1 _ rfl rfl

end Report

end GpuCounters
