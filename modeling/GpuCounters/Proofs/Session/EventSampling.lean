import GpuCounters.Proofs.Session.AppendOnly
import GpuCounters.Proofs.Summary.Reread

/-!
# Sessions that sample events

A session that is only ever asked to sample the events of one metric set has one dump, and sums up
the very reports that it dumps. This holds through all of its lives, as what was summed up outlives
them and the dump is gone on with.
-/

namespace GpuCounters

open Storage

/-- Whether all connections that a request leads to have the same metrics, and decode whole values
of these. -/
structure Driver.Serves (P : Driver.Provider) (request : Driver.Request)
    (metrics : List Descriptor) (includeMax : Bool) : Prop where
  metrics_eq : ∀ state connection, (P.connect request state).result = .ok connection →
    P.metrics connection = metrics
  includesMax_eq : ∀ state connection, (P.connect request state).result = .ok connection →
    P.includesMax connection = includeMax
  isWhole : ∀ state connection, (P.connect request state).result = .ok connection →
    ∀ bytes later, (P.decode bytes connection later).result.IsWhole metrics

/-- A report of a script has the first metrics, as far as there are numbers for them. -/
theorem Driver.Script.isWhole_decode (script : Driver.Script) (includeMax : Bool)
    (bytes : ByteArray) : (script.decode includeMax bytes).IsWhole script.metrics := by
  have hnames : ∀ (metrics : List Descriptor) (numbers : List UInt32),
      ((metrics.zip numbers).map fun pair ↦ pair.1.name).Sublist (metrics.map (·.name)) := by
    intro metrics
    induction metrics with
    | nil => simp
    | cons metric metrics ih =>
      intro numbers
      cases numbers with
      | nil => simp
      | cons n numbers => simpa using ih numbers
  unfold Driver.Script.decode
  split
  · exact ⟨List.nil_sublist _, by simp, by simp⟩
  · refine ⟨?_, ?_, ?_⟩
    · rw [List.map_map]
      exact hnames script.metrics _
    · intro metric hmetric
      obtain ⟨pair, -, rfl⟩ := List.mem_map.1 hmetric
      trivial
    · intro metric hmetric value hvalue
      obtain ⟨pair, -, rfl⟩ := List.mem_map.1 hmetric
      cases includeMax with
      | false => simp at hvalue
      | true =>
        obtain rfl := Option.some.inj hvalue
        trivial

/-- Drivers that follow a script serve every request. -/
theorem Driver.serves_scripted (script : Driver.Script) (request : Driver.Request) :
    Driver.Serves (Driver.scripted (some script)) request script.metrics request.includeMax := by
  have hconnect : ∀ (state : Driver.Scripted.State) (connection : Driver.Scripted.Connection),
      (Driver.Scripted.connect (some script) request state).result = .ok connection →
        connection = ⟨script, request.includeMax⟩ :=
    fun _ _ h ↦ (Except.ok.inj h).symm
  refine ⟨?_, ?_, ?_⟩
  · intro state connection h
    obtain rfl := hconnect state connection h
    rfl
  · intro state connection h
    obtain rfl := hconnect state connection h
    rfl
  · intro state connection h bytes later
    obtain rfl := hconnect state connection h
    exact script.isWhole_decode request.includeMax bytes

namespace Session

def eventLayout (metrics : List Descriptor) (includeMax : Bool) : Dump.Layout :=
  ⟨.event, metrics, [], includeMax⟩

/-! ## Entries of events -/

/-- The report that an entry writes, under its label. -/
def Entry.report? : Entry → Option (String × Report)
  | .row label report => some (label, report)
  | .opened _ _ => none
  | .closed => none

def reportsOf (entries : List Entry) : List (String × Report) := entries.filterMap Entry.report?

theorem reportsOf_append (entries more : List Entry) :
    reportsOf (entries ++ more) = reportsOf entries ++ reportsOf more := List.filterMap_append

/-- Whether an entry is one of a session that samples the events of one metric set. -/
def Entry.IsOfEvents (path : Path) (metrics : List Descriptor) (includeMax : Bool) :
    Entry → Prop
  | .opened other layout => other = path ∧ layout.mode = .event ∧ layout.metrics = metrics ∧
      layout.includeMax = includeMax
  | .row label report => '\n' ∉ label.toList ∧ report.IsWhole metrics ∧ report.isEmpty = false
  | .closed => True

section Entries

variable {path : Path} {metrics : List Descriptor} {includeMax : Bool} {entries : List Entry}

theorem rowShape_eq_of_event {layout : Dump.Layout} (hmode : layout.mode = .event) :
    layout.rowShape = (eventLayout layout.metrics layout.includeMax).rowShape := by
  simp [Dump.Layout.rowShape, Dump.Layout.shownInformation, eventLayout, hmode]

/-- The dump that is open is always the same one, with the same columns. -/
theorem currentAfter_of_events
    (h : ∀ entry ∈ entries, entry.IsOfEvents path metrics includeMax)
    {current? : Option (Path × Dump.RowShape)}
    (hcurrent : ∀ current ∈ current?, current = (path, (eventLayout metrics includeMax).rowShape)) :
    ∀ current ∈ currentAfter current? entries,
      current = (path, (eventLayout metrics includeMax).rowShape) := by
  induction entries generalizing current? with
  | nil => exact hcurrent
  | cons entry entries ih =>
    obtain ⟨hentry, hrest⟩ := List.forall_mem_cons.1 h
    apply ih hrest
    cases entry with
    | closed => simp [Entry.current?]
    | row label report => exact hcurrent
    | opened other layout =>
      obtain ⟨rfl, hmode, rfl, rfl⟩ := hentry
      intro current hmem
      rw [← Option.some.inj hmem, rowShape_eq_of_event hmode]

theorem isPlain_of_events {directory : Path} (hpath : Dump.IsPlain directory path)
    (h : ∀ entry ∈ entries, entry.IsOfEvents path metrics includeMax) :
    ∀ entry ∈ entries, entry.IsPlain directory := by
  rintro entry hentry other layout rfl
  obtain ⟨rfl, -⟩ := h _ hentry
  exact hpath

end Entries

/-! ## Sessions that keep to events -/

variable {P : Driver.Provider} {C : Compute}

/-- Whether an operation keeps to the events of the metric set that a request asks for. -/
def Op.IsOfEvents (request : Driver.Request) : Op P C → Prop
  | .start other => other = request
  | .sample operation _ => '\n' ∉ operation.toList
  | .write _ _ => False
  | .drain | .close | .outside _ _ => True

/-- Whether a session has kept to the events of a metric set since some system, with the given
entries: what was summed up is what was dumped. -/
structure KeepsToEvents (request : Driver.Request) (metrics : List Descriptor) (includeMax : Bool)
    (base : System P C) (entries : List Entry) (system : System P C) : Prop where
  later : base.Later system
  settles : (ledgerOf entries).Settles base.disk system
  isOfEvents : ∀ entry ∈ entries,
    entry.IsOfEvents (base.dumpFile request.metricSet) metrics includeMax
  rows : rowsTo (base.dumpFile request.metricSet) none entries =
    (reportsOf entries).map fun row ↦ ⟨(eventLayout metrics includeMax).rowShape, row.1, row.2⟩
  aggregator : system.session.aggregator = .ofRows (reportsOf entries)
  active : ∀ active ∈ system.session.active?, active.mode = .event ∧
    ∃ state, (P.connect request state).result = .ok active.connection

namespace KeepsToEvents

open GpuCounters.System GpuCounters.Run

variable {request : Driver.Request} {metrics : List Descriptor} {includeMax : Bool}
  {base system after : System P C} {entries : List Entry}

theorem of_fresh (request : Driver.Request) (metrics : List Descriptor) (includeMax : Bool)
    (hsound : base.disk.Sound) (hfresh : base.session = {}) :
    KeepsToEvents request metrics includeMax base [] base where
  later := refl_of Later base
  settles := settles_of_fresh hsound hfresh
  isOfEvents := by simp
  rows := rfl
  aggregator := by
    rw [hfresh]
    rfl
  active := by simp [hfresh]

theorem idle (h : KeepsToEvents request metrics includeMax base entries system)
    (hidle : Idle system after) : KeepsToEvents request metrics includeMax base entries after where
  later := trans_of Later h.later hidle.toLater
  settles := ⟨h.settles.toDescribes.untouched hidle.toUntouched, by
    rw [hidle.active]
    exact h.settles.live⟩
  isOfEvents := h.isOfEvents
  rows := h.rows
  aggregator := hidle.aggregator.trans h.aggregator
  active := by
    rw [hidle.active]
    exact h.active

/-- While a driver is live, the dump is open. -/
theorem currentAfter_eq (h : KeepsToEvents request metrics includeMax base entries system)
    (hactive : system.session.active?.isSome) :
    currentAfter none entries =
      some (base.dumpFile request.metricSet, (eventLayout metrics includeMax).rowShape) := by
  have hlive := h.settles.live
  rw [hactive, ledgerOf, Ledger.current?_recordAll] at hlive
  obtain ⟨current, hcurrent⟩ := Option.isSome_iff_exists.1 hlive.symm
  have hsame := currentAfter_of_events h.isOfEvents (by simp) current hcurrent
  rw [hsame] at hcurrent
  exact hcurrent

/-- A sampled report was decoded by the driver, and has a value. -/
theorem isWhole_of_sampledReport? (hserves : Driver.Serves P request metrics includeMax)
    (h : KeepsToEvents request metrics includeMax base entries system) {active : Active P}
    (hactive : system.session.active? = some active) {event : Event} {report : Report}
    (hsampled : sampledReport? event active system = some report) :
    report.IsWhole metrics ∧ report.isEmpty = false := by
  obtain ⟨-, state, hconnect⟩ := h.active active hactive
  have hwhole := hserves.isWhole state active.connection hconnect
  unfold sampledReport? at hsampled
  split at hsampled
  · dsimp only at hsampled
    split at hsampled
    · simp at hsampled
    · split at hsampled
      · simp at hsampled
      · rename_i hempty
        rw [← Option.some.inj hsampled]
        exact ⟨hwhole _ _, Bool.eq_false_iff.2 hempty⟩
  · simp at hsampled

/-- What an operation enters: nothing, an opening, a row of a live driver, or a close. -/
theorem entries_cases (hserves : Driver.Serves P request metrics includeMax)
    (hevent : request.mode = .event)
    (h : KeepsToEvents request metrics includeMax base entries system) {op : Op P C}
    (hop : op.IsOfEvents request) :
    op.entries system = [] ∨
      ∃ entry, op.entries system = [entry] ∧
        entry.IsOfEvents (base.dumpFile request.metricSet) metrics includeMax ∧
        (entry.report?.isSome → system.session.active?.isSome) := by
  cases op with
  | write label report => exact absurd hop id
  | close => exact .inr ⟨.closed, rfl, trivial, by simp [Entry.report?]⟩
  | outside driver compute => exact .inl rfl
  | start other =>
    obtain rfl : other = request := hop
    rw [Op.entries]
    cases system.session.active? with
    | some active => exact .inl rfl
    | none =>
      dsimp only
      cases hconnect : (P.connect other system.driver).result with
      | error cause => exact .inl rfl
      | ok connection =>
        have hpath := dumpFile_eq h.later other.metricSet
        have hmetrics := hserves.metrics_eq _ connection hconnect
        have hmax := hserves.includesMax_eq _ connection hconnect
        exact .inr ⟨_, rfl, ⟨hpath, hevent, hmetrics, hmax⟩, by simp [Entry.report?]⟩
  | drain =>
    rw [Op.entries]
    cases hactive : system.session.active? with
    | none => exact .inl rfl
    | some active =>
      obtain ⟨hmode, -⟩ := h.active active hactive
      exact .inl (if_neg (by simp [hmode]))
  | sample operation event =>
    rw [Op.entries]
    cases hactive : system.session.active? with
    | none => exact .inl rfl
    | some active =>
      rw [Option.bind_some]
      cases hsampled : sampledReport? event active system with
      | none => exact .inl rfl
      | some report =>
        have hwhole := h.isWhole_of_sampledReport? hserves hactive hsampled
        exact .inr ⟨_, rfl, ⟨hop, hwhole⟩, fun _ ↦ rfl⟩

/-- The rows of the dump are those of the reports, with one more entry as well. -/
theorem rows_append (h : KeepsToEvents request metrics includeMax base entries system)
    {entry : Entry} (hlive : entry.report?.isSome → system.session.active?.isSome) :
    rowsTo (base.dumpFile request.metricSet) none (entries ++ [entry]) =
      (reportsOf (entries ++ [entry])).map fun row ↦
        ⟨(eventLayout metrics includeMax).rowShape, row.1, row.2⟩ := by
  rw [rowsTo_append, reportsOf_append, List.map_append, h.rows]
  congr 1
  cases entry with
  | opened path layout => rfl
  | closed => rfl
  | row label report =>
    have hcurrent := h.currentAfter_eq (hlive rfl)
    simp [hcurrent, rowsTo, Entry.row?, reportsOf, Entry.report?]

/-! ### Sums -/

/-- Starting sums up nothing, and leads to a driver by the request. -/
theorem aggregator_start (hevent : request.mode = .event)
    (h : KeepsToEvents request metrics includeMax base entries system) :
    (ensureInitialized request system).2.session.aggregator = system.session.aggregator ∧
      ∀ active ∈ (ensureInitialized request system).2.session.active?, active.mode = .event ∧
        ∃ state, (P.connect request state).result = .ok active.connection := by
  rw [ensureInitialized, bind_apply, session_apply]
  cases hactive : system.session.active? with
  | some active =>
    have hold := h.active active hactive
    dsimp only
    split <;> exact ⟨rfl, by rw [pure_apply, hactive]; simpa using hold⟩
  | none =>
    have hstart := start_spec (h.settles.dump?_eq_none hactive) request
    dsimp only
    cases hconnect : (P.connect request system.driver).result with
    | error cause =>
      rw [hconnect] at hstart
      exact ⟨hstart.aggregator, by rw [hstart.active, hactive]; simp⟩
    | ok connection =>
      rw [hconnect] at hstart
      obtain ⟨-, hlive, haggregator⟩ := hstart
      refine ⟨haggregator, ?_⟩
      rw [hlive]
      intro active hmem
      rw [← Option.some.inj hmem]
      exact ⟨hevent, system.driver, hconnect⟩

/-- Sampling sums up the report that it enters. -/
theorem aggregator_sample (h : KeepsToEvents request metrics includeMax base entries system)
    (operation : String) (event : Event) :
    (sampleEvent operation event system).2.session.aggregator =
        .ofRows (reportsOf entries ++ reportsOf (Op.entries (.sample operation event) system)) ∧
      (sampleEvent operation event system).2.session.active? = system.session.active? := by
  have hsample := sampleEvent_spec operation event system
  rw [Op.entries]
  cases hsampled : system.session.active?.bind fun active ↦
      sampledReport? event active system with
  | none =>
    rw [hsampled] at hsample
    have hreports : reportsOf [] = [] := rfl
    dsimp only
    rw [hreports, List.append_nil, hsample.aggregator]
    exact ⟨h.aggregator, hsample.active⟩
  | some report =>
    rw [hsampled] at hsample
    obtain ⟨-, hactive, haggregator⟩ := hsample
    have hreports : reportsOf [.row operation report] = [(operation, report)] := rfl
    dsimp only
    rw [hreports, Summary.Aggregator.ofRows_append_singleton, ← h.aggregator]
    exact ⟨haggregator, hactive⟩

theorem reportsOf_start (system : System P C) :
    reportsOf (Op.entries (.start request) system) = [] := by
  rw [Op.entries]
  cases system.session.active? with
  | some active => rfl
  | none =>
    dsimp only
    cases (P.connect request system.driver).result <;> rfl

/-- There is no stream to drain. -/
theorem reportsOf_drain (h : KeepsToEvents request metrics includeMax base entries system) :
    reportsOf (Op.entries .drain system) = [] := by
  rw [Op.entries]
  cases hactive : system.session.active? with
  | none => rfl
  | some active =>
    obtain ⟨hmode, -⟩ := h.active active hactive
    dsimp only
    rw [if_neg (by simp [hmode])]
    rfl

/-- What an operation makes of the sums and of the live driver. -/
theorem aggregator_run (hevent : request.mode = .event)
    (h : KeepsToEvents request metrics includeMax base entries system) {op : Op P C}
    (hop : op.IsOfEvents request) :
    (op.run system).2.session.aggregator =
        .ofRows (reportsOf (entries ++ op.entries system)) ∧
      ∀ active ∈ (op.run system).2.session.active?, active.mode = .event ∧
        ∃ state, (P.connect request state).result = .ok active.connection := by
  rw [reportsOf_append]
  cases op with
  | write label report => exact absurd hop id
  | outside driver compute =>
    have hreports : reportsOf (Op.entries (.outside driver compute) system) = [] := rfl
    rw [hreports, List.append_nil]
    exact ⟨h.aggregator, h.active⟩
  | close =>
    obtain ⟨-, hactive, haggregator⟩ := close_spec system
    have hnone : (Op.run .close system).2.session.active? = none := hactive
    have hreports : reportsOf (Op.entries .close system) = [] := rfl
    rw [hreports, List.append_nil, ← h.aggregator]
    exact ⟨haggregator, by simp [hnone]⟩
  | drain =>
    obtain ⟨-, hsteady⟩ := drainStream_spec system
    have hactive : (Op.run .drain system).2.session.active? = system.session.active? :=
      hsteady.active
    rw [h.reportsOf_drain, List.append_nil, ← h.aggregator, hactive]
    exact ⟨hsteady.aggregator, h.active⟩
  | sample operation event =>
    obtain ⟨haggregator, hsame⟩ := h.aggregator_sample operation event
    have hactive : (Op.run (.sample operation event) system).2.session.active? =
        system.session.active? := hsame
    rw [hactive]
    exact ⟨haggregator, h.active⟩
  | start other =>
    obtain rfl : other = request := hop
    rw [reportsOf_start, List.append_nil, ← h.aggregator]
    exact h.aggregator_start hevent

/-- An operation that keeps to the events sums up what it dumps. -/
theorem run (hserves : Driver.Serves P request metrics includeMax)
    (hevent : request.mode = .event)
    (h : KeepsToEvents request metrics includeMax base entries system) {op : Op P C}
    (hop : op.IsOfEvents request) (hfaultless : (op.run system).2.IsFaultless) :
    KeepsToEvents request metrics includeMax base (entries ++ op.entries system)
      (op.run system).2 := by
  have hlater := trans_of Later h.later (later_run op system)
  have hsettles := h.settles.run op hfaultless
  rw [← ledgerOf_append] at hsettles
  obtain ⟨haggregator, hactive⟩ := h.aggregator_run hevent hop
  obtain hnone | ⟨entry, hentry, hof, hlive⟩ := h.entries_cases hserves hevent hop
  · rw [hnone, List.append_nil] at hsettles haggregator ⊢
    exact ⟨hlater, hsettles, h.isOfEvents, h.rows, haggregator, hactive⟩
  · rw [hentry] at hsettles haggregator ⊢
    have hentries := List.forall_mem_append.2 ⟨h.isOfEvents, List.forall_mem_singleton.2 hof⟩
    exact ⟨hlater, hsettles, hentries, h.rows_append hlive, haggregator, hactive⟩

/-! ### The dump read back -/

/-- Once a driver was live, there is a dump. -/
theorem isSome_firstLayout? (h : KeepsToEvents request metrics includeMax base entries system)
    {directory : Path} (hpath : Dump.IsPlain directory (base.dumpFile request.metricSet))
    (hactive : system.session.active?.isSome) :
    (firstLayout? (base.dumpFile request.metricSet) entries).isSome := by
  have hplain := isPlain_of_events hpath h.isOfEvents
  have htidy := tidy_ledgerOf hplain
  have hcurrent : (ledgerOf entries).current? = some _ :=
    (Ledger.current?_recordAll {} entries).trans (h.currentAfter_eq hactive)
  have hopened := htidy.current _ hcurrent
  have hvolume := (htidy.mem_opened_iff hpath).1 hopened
  rwa [volumes_ledgerOf hplain hpath, Option.isSome_map] at hvolume

theorem isOfEvents_of_firstLayout? {path : Path}
    (h : ∀ entry ∈ entries, entry.IsOfEvents path metrics includeMax) {layout : Dump.Layout}
    (hfirst : firstLayout? path entries = some layout) :
    layout.mode = .event ∧ layout.metrics = metrics ∧ layout.includeMax = includeMax := by
  obtain ⟨entry, hentry, hlayout⟩ := List.exists_of_findSome?_eq_some hfirst
  have hof := h entry hentry
  cases entry with
  | closed => simp [Entry.layout?] at hlayout
  | row label report => simp [Entry.layout?] at hlayout
  | opened other found =>
    rw [Entry.layout?] at hlayout
    split at hlayout
    · rw [← Option.some.inj hlayout]
      exact hof.2
    · simp at hlayout

/-- The rows of the dump are fit to be read back. -/
theorem row_of_reportsOf (h : KeepsToEvents request metrics includeMax base entries system)
    {row : String × Report} (hrow : row ∈ reportsOf entries) :
    '\n' ∉ row.1.toList ∧ row.2.IsWhole metrics ∧ row.2.isEmpty = false := by
  obtain ⟨entry, hentry, hreport⟩ := List.mem_filterMap.1 hrow
  have hof := h.isOfEvents entry hentry
  cases entry with
  | closed => simp [Entry.report?] at hreport
  | opened path layout => simp [Entry.report?] at hreport
  | row label report =>
    obtain rfl := Option.some.inj hreport
    exact hof

theorem one_lt_width {report : Report} (h : report.IsWhole metrics)
    (hempty : report.isEmpty = false) : 1 < (eventLayout metrics includeMax).rowShape.width := by
  apply Dump.RowShape.one_lt_width
  intro hnone
  have hmetrics : metrics = [] := by
    simpa [eventLayout, Dump.Layout.rowShape] using hnone
  have hnames := h.names
  rw [hmetrics, List.map_nil, List.sublist_nil, List.map_eq_nil_iff] at hnames
  rw [Report.isEmpty, hnames] at hempty
  simp at hempty

theorem isSingleLine_row (h : KeepsToEvents request metrics includeMax base entries system)
    {row : String × Report} (hrow : row ∈ reportsOf entries) :
    (Dump.Row.mk (eventLayout metrics includeMax).rowShape row.1 row.2).IsSingleLine := by
  obtain ⟨hlabel, hwhole, -⟩ := h.row_of_reportsOf hrow
  refine ⟨hlabel, ?_, ?_, ?_⟩
  · exact fun metric hmetric ↦ (hwhole.value metric hmetric).isSingleLine
  · exact fun metric hmetric value hvalue ↦ (hwhole.max metric hmetric value hvalue).isSingleLine
  · simp [eventLayout, Dump.Layout.rowShape, Dump.Layout.shownInformation]

theorem isVisible_row (h : KeepsToEvents request metrics includeMax base entries system)
    {row : String × Report} (hrow : row ∈ reportsOf entries) :
    (Dump.Row.mk (eventLayout metrics includeMax).rowShape row.1 row.2).IsVisible := by
  obtain ⟨-, hwhole, hempty⟩ := h.row_of_reportsOf hrow
  exact .inl (one_lt_width hwhole hempty)

theorem fits_row (h : KeepsToEvents request metrics includeMax base entries system)
    (hnodup : (metrics.map (·.name)).Nodup) {row : String × Report}
    (hrow : row ∈ reportsOf entries) {layout : Dump.Layout}
    (hshape : layout.rowShape = (eventLayout metrics includeMax).rowShape) :
    (Dump.Row.mk (eventLayout metrics includeMax).rowShape row.1 row.2).Fits layout := by
  obtain ⟨-, hwhole, -⟩ := h.row_of_reportsOf hrow
  exact ⟨hshape.symm, hwhole.isDistinct hnodup⟩

/-- The dump of a session that is closed sums up to what the session has summed up. -/
theorem ofRows_read (h : KeepsToEvents request metrics includeMax base entries system)
    {directory : Path} (hpath : Dump.IsPlain directory (base.dumpFile request.metricSet))
    (hlayout : (eventLayout metrics includeMax).IsSingleLine)
    (hlegible : (eventLayout metrics includeMax).Legible)
    (hnodup : (metrics.map (·.name)).Nodup) (hclosed : system.session.active? = none)
    (hfirst : (firstLayout? (base.dumpFile request.metricSet) entries).isSome) :
    ∃ contents, Dump.read (base.dumpFile request.metricSet) system.disk = .ok contents ∧
      Summary.Aggregator.ofRows contents.rows = system.session.aggregator := by
  have hplain := isPlain_of_events hpath h.isOfEvents
  have htidy := tidy_ledgerOf hplain
  obtain ⟨layout, hsome⟩ := Option.isSome_iff_exists.1 hfirst
  obtain ⟨hmode, rfl, rfl⟩ := isOfEvents_of_firstLayout? h.isOfEvents hsome
  have hshape := rowShape_eq_of_event hmode
  have hvolume := volumes_ledgerOf hplain hpath
  rw [hsome, Option.map_some, h.rows] at hvolume
  -- The volume is on the disk, as no dump is open.
  have hopened := (htidy.mem_opened_iff hpath).2 (by rw [hvolume]; rfl)
  obtain ⟨hlocated, hfile, -⟩ := h.settles.known _ hopened
  have hstored := h.settles.stored _ _ hvolume (by
    simp [h.settles.dump?_eq_none hclosed])
  have hread := Dump.read_of_bytes (Disk.read_of_bytesAt? hlocated hfile hstored)
  have hsingle : (Dump.Volume.mk layout ((reportsOf entries).map fun row ↦
      ⟨(eventLayout layout.metrics layout.includeMax).rowShape, row.1, row.2⟩)).IsSingleLine :=
    ⟨⟨hlayout.metrics, by simp [Dump.Layout.shownInformation, hmode]⟩,
      List.forall_mem_map.2 fun _ hrow ↦ h.isSingleLine_row hrow⟩
  have hvisible := List.forall_mem_map.2 fun _ hrow ↦ h.isVisible_row hrow
  have hfits := List.forall_mem_map.2 fun _ hrow ↦ h.fits_row hnodup hrow hshape
  have hlayoutLegible : layout.Legible := ⟨hlegible.unmarked, hlegible.chain⟩
  rw [hsingle.read_of_fits hlayoutLegible hvisible hfits] at hread
  refine ⟨_, hread, ?_⟩
  rw [h.aggregator, List.map_map]
  apply Summary.Aggregator.ofRows_map
  intro row hrow
  obtain ⟨-, hwhole, -⟩ := h.row_of_reportsOf hrow
  exact hwhole.share_readBack hnodup

end KeepsToEvents

end Session

end GpuCounters
