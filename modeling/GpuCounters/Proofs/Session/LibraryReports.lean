import GpuCounters.Proofs.Driver.Reports
import GpuCounters.Proofs.Session.Rows

/-!
# Sessions over a library

The reports of a driver behind a library may lack values, and some of them cannot be read at all.
A session over it samples an event into one row, or into none if the report came to nothing, and
drains a stream into one row for each saved report that could be read. In every row each value
stands in the column of its metric, and there is a column for each value of further information,
whatever the library told of these.
-/

namespace GpuCounters

open Storage

namespace Driver.Loaded

variable {library : Library} {connection : Connection}

/-! ## Rounds of a stream -/

/-- What a poll has found: the saved reports, and the further information as it was told. -/
structure Round where
  saved : List RawReport
  information : List Value

/-- The reports of a round that could be read, in order. -/
def Round.reports (connection : Connection) (round : Round) : List Report :=
  (round.saved.filter (·.status = .success)).map fun raw ↦
    { report connection raw with information := round.information }

/-- The rounds of a stream: it is polled until nothing is saved. -/
inductive Streamed (library : Library) (connection : Connection) :
    library.State → List Round → Prop
  /-- The poll saves nothing. -/
  | silent (state : library.State) (nothing : (library.save connection.handle state).1 ≠ 1) :
      Streamed library connection state []
  /-- What the poll has saved is read and dropped, and the stream is polled again. -/
  | round (state polled : library.State) (rounds : List Round)
      (found : library.save connection.handle state = (1, polled))
      (rest : Streamed library connection (library.reset connection.handle polled) rounds) :
      Streamed library connection state
        (⟨library.saved connection.handle polled,
          (informationValues library connection polled).result⟩ :: rounds)

/-- The rounds come to an end, after no more of them than the library's bound says. The induction
is on that bound. -/
theorem exists_streamed (library : Library) (connection : Connection) (state : library.State) :
    ∃ rounds, Streamed library connection state rounds ∧
      rounds.length ≤ library.backlog connection.handle state := by
  induction hbound : library.backlog connection.handle state using Nat.strong_induction_on
    generalizing state with
  | _ bound ih =>
    by_cases hfound : (library.save connection.handle state).1 = 1
    · have hless := library.backlog_save connection.handle state hfound
      rw [hbound] at hless
      obtain ⟨rounds, hrest, hlength⟩ := ih _ hless _ rfl
      exact ⟨_, .round state _ rounds (Prod.ext hfound rfl) hrest,
        Nat.succ_le_of_lt (Nat.lt_of_le_of_lt hlength hless)⟩
    · exact ⟨[], .silent state hfound, Nat.zero_le _⟩

section StreamedReports

variable {refusal : String → Option String} {state polled : library.State} {fuel : Nat}

theorem streamedReports_of_silent (h : (library.save connection.handle state).1 ≠ 1) :
    Session.streamedReports (P := loaded refusal library) connection (fuel + 1) state = [] := by
  have hpoll : ((loaded refusal library).poll connection state).result = false := decide_eq_false h
  have hstep : Session.streamedReports (P := loaded refusal library) connection (fuel + 1) state =
      if ((loaded refusal library).poll connection state).result then _ else [] := rfl
  rw [hstep, hpoll, if_neg Bool.false_ne_true]

theorem streamedReports_of_found (h : library.save connection.handle state = (1, polled)) :
    Session.streamedReports (P := loaded refusal library) connection (fuel + 1) state =
      Round.reports connection ⟨library.saved connection.handle polled,
        (informationValues library connection polled).result⟩ ++
      Session.streamedReports (P := loaded refusal library) connection fuel
        (library.reset connection.handle polled) := by
  have hpoll : poll library connection state =
      { result := true, state := polled, notes := [.call .save] } := by
    rw [poll, h]
    rfl
  have hstep : Session.streamedReports (P := loaded refusal library) connection (fuel + 1) state =
      if (poll library connection state).result then
        ((savedReports library connection (poll library connection state).state).result.map
          fun report ↦ { report with
            information := (informationValues library connection
              (poll library connection state).state).result }) ++
        Session.streamedReports (P := loaded refusal library) connection fuel
          (library.reset connection.handle
            (informationValues library connection (poll library connection state).state).state)
      else [] := rfl
  rw [hstep, hpoll, if_pos rfl, state_informationValues, savedReports, Round.reports, List.map_map]
  rfl

/-- What a stream has are the reports of its rounds. The induction is on the rounds, of which each
takes one unit of fuel. -/
theorem Streamed.streamedReports {rounds : List Round}
    (h : Streamed library connection state rounds) (hfuel : rounds.length < fuel) :
    Session.streamedReports (P := loaded refusal library) connection fuel state =
      rounds.flatMap (Round.reports connection) := by
  induction h generalizing fuel with
  | silent state nothing =>
    obtain ⟨fuel, rfl⟩ := Nat.exists_eq_succ_of_ne_zero (Nat.ne_zero_of_lt hfuel)
    exact streamedReports_of_silent nothing
  | round state polled rounds found rest ih =>
    obtain ⟨fuel, rfl⟩ := Nat.exists_eq_succ_of_ne_zero (Nat.ne_zero_of_lt hfuel)
    rw [streamedReports_of_found found, ih (Nat.lt_of_succ_lt_succ hfuel), List.flatMap_cons]

end StreamedReports

end Driver.Loaded

/-! ## Rows in their columns -/

deriving instance DecidableEq for Driver.Loaded.Connection

namespace Session

open Driver.Loaded

variable {C : Compute} {refusal : String → Option String} {library : Driver.Library}

/-- The connection of a live driver behind a library. -/
def connectionOf (active : Active (Driver.loaded refusal library)) : Driver.Loaded.Connection :=
  active.connection

section Live

variable {active : Active (Driver.loaded refusal library)}
  {system : System (Driver.loaded refusal library) C} {info : ProfilingInfo}

/-- What sampling an event comes to: a row, unless its report is vacant. -/
theorem sampleEvent_of_library (hactive : system.session.active? = some active)
    (hmode : active.mode = .event) (operation : String) (event : Event)
    (hinfo : (C.profilingInfo event (library.reportSize (connectionOf active).handle
      system.driver).toNat system.compute).result = .ok info) :
    let raw := (library.decode (info.buffer (library.reportSize (connectionOf active).handle
      system.driver).toNat) (connectionOf active).handle system.driver).1
    let report := Driver.Loaded.report (connectionOf active) raw
    let done := sampleEvent operation event system
    (IsVacant (connectionOf active) raw → done.1 = .empty ∧ Writes [] system done.2 ∧
        done.2.session.aggregator = system.session.aggregator) ∧
      (¬ IsVacant (connectionOf active) raw → done.1 = .recorded report.length ∧
        Writes [(operation, report)] system done.2 ∧
        done.2.session.aggregator = system.session.aggregator.add operation report) := by
  intro raw report done
  obtain ⟨hvacant, hknown⟩ := decode_cases library (info.buffer
    (library.reportSize (connectionOf active).handle system.driver).toNat) (connectionOf active)
    system.driver
  constructor
  · intro h
    exact (writes_sampleEvent operation hactive hmode hinfo rfl).1 (hvacant h)
  · intro h
    obtain ⟨hsome, hreport⟩ := hknown h
    rw [hreport] at hsome
    exact (writes_sampleEvent operation hactive hmode hinfo hreport).2 hsome

/-- What draining a stream comes to: a row for each saved report that could be read. -/
theorem drainStream_of_library (hactive : system.session.active? = some active)
    (hmode : active.mode = .time) :
    ∃ rounds, Streamed library (connectionOf active) system.driver rounds ∧
      Writes ((rounds.flatMap (Round.reports (connectionOf active))).map (Mode.time.tag, ·)) system
        (drainStream system).2 ∧
      (drainStream system).1 = (rounds.flatMap (Round.reports (connectionOf active))).length ∧
      (drainStream system).2.session.aggregator = system.session.aggregator := by
  obtain ⟨rounds, hstreamed, hlength⟩ :=
    exists_streamed library (connectionOf active) system.driver
  have hreports : streamedReports active.connection
      ((Driver.loaded refusal library).backlog active.connection system.driver + 1)
      system.driver = rounds.flatMap (Round.reports (connectionOf active)) :=
    hstreamed.streamedReports (Nat.lt_succ_of_le hlength)
  obtain ⟨hrows, hcount⟩ := writes_drainStream hactive hmode
  rw [hreports] at hrows hcount
  exact ⟨rounds, hstreamed, hrows, hcount, (drainStream_spec system).2.aggregator⟩

end Live

/-- In every run over a library whose metrics have distinct names, with or without greatest values:
the open dump has the columns of the live driver; a report lists the metrics of known values in
their order; a row has each value in the column of its own metric, with empty cells for values that
are not known, and one cell for each value of further information; and sampling and draining write
exactly one row for each report that was read and has a value, or that was saved and could be
read. A disk that refuses nothing takes the lines of all these rows. -/
theorem keepsColumns_runAll {system : System (Driver.loaded refusal library) C}
    (hfresh : system.session = {}) (ops : List (Op (Driver.loaded refusal library) C))
    {active : Active (Driver.loaded refusal library)}
    (hactive : (runAll ops system).session.active? = some active)
    (hdistinct : ((connectionOf active).metrics.map (·.name)).Nodup) :
    let now := runAll ops system
    let connection := connectionOf active
    let layout : Dump.Layout :=
      ⟨active.mode, connection.metrics, connection.information, connection.includeMax⟩
    (∀ writer ∈ now.session.dump?, writer.shape = layout.rowShape ∧
        (∀ label report disk next later, writer.output.handle.AtEnd disk →
          writer.writeRow label report disk = (.ok (), next, later) →
            next.output.content later = writer.output.content disk ++
              ((String.ofList (layout.rowShape.line label report)).toUTF8 ++ "\n".toUTF8)) ∧
        (writer.output.IsFree now.disk → writer.output.handle.AtEnd now.disk →
          ∀ rows done, Writes rows now done → ∃ next ∈ done.session.dump?,
            next.output.content done.disk = writer.output.content now.disk ++
              Dump.lineBytes (rows.map fun row ↦ layout.rowShape.line row.1 row.2))) ∧
      (∀ raw, (Driver.Loaded.report connection raw).metrics =
        connection.metrics.zipIdx.filterMap (metricAt? connection raw)) ∧
      (∀ label raw information,
        Dump.splitFields (layout.rowShape.line label
            { Driver.Loaded.report connection raw with information }) =
          label.toList ::
            ((connection.metrics.zipIdx.flatMap fun column ↦
                columnTexts connection raw column.2) ++
              (List.range layout.shownInformation.length).map fun position ↦
                Dump.valueText information[position]?)) ∧
      (active.mode = .event → ∀ operation event info,
        (C.profilingInfo event (library.reportSize connection.handle now.driver).toNat
          now.compute).result = .ok info →
        let raw := (library.decode
          (info.buffer (library.reportSize connection.handle now.driver).toNat)
          connection.handle now.driver).1
        let report := Driver.Loaded.report connection raw
        let done := sampleEvent operation event now
        (IsVacant connection raw → done.1 = .empty ∧ Writes [] now done.2 ∧
            done.2.session.aggregator = now.session.aggregator) ∧
          (¬ IsVacant connection raw → done.1 = .recorded report.length ∧
            Writes [(operation, report)] now done.2 ∧
            done.2.session.aggregator = now.session.aggregator.add operation report)) ∧
      (active.mode = .time → ∃ rounds, Streamed library connection now.driver rounds ∧
        Writes ((rounds.flatMap (Round.reports connection)).map (Mode.time.tag, ·)) now
          (drainStream now).2 ∧
        (drainStream now).1 = (rounds.flatMap (Round.reports connection)).length ∧
        (drainStream now).2.session.aggregator = now.session.aggregator) := by
  intro now connection layout
  have hdump : system.session.dump? = none := congrArg Session.dump? hfresh
  have hfits : FitsDriver now := (fitsDriver_of_none hdump).runAll ops
  refine ⟨?_, metrics_report connection,
    fun label raw information ↦ splitFields_line hdistinct active.mode label raw information,
    fun hmode operation event info hinfo ↦
      sampleEvent_of_library hactive hmode operation event hinfo,
    drainStream_of_library hactive⟩
  intro writer hwriter
  obtain ⟨live, hlive, hshape⟩ := hfits writer hwriter
  obtain rfl : active = live := Option.some.inj (hactive.symm.trans hlive)
  have hcolumns : writer.shape = layout.rowShape := hshape
  rw [← hcolumns]
  refine ⟨rfl, fun label report disk next later ↦ content_writeRow, ?_⟩
  intro hfree hend rows done hwrites
  obtain ⟨next, later, hall, hcontent⟩ := content_writeAll_of_isFree hfree hend rows
  have hdump := hwrites.dump
  rw [Option.mem_def.1 hwriter, hall] at hdump
  obtain ⟨hnext, hlater⟩ := Prod.mk.inj hdump
  exact ⟨next, hnext, by rw [hlater, hcontent]⟩

/-- A library whose reports have gaps: a value of no known kind, one that is not filled in, a saved
report that cannot be read, and further information that cannot be told. -/
def gapScript : Driver.LibraryScript where
  metrics := [⟨some "Time".toUTF8, some "ns".toUTF8⟩, ⟨some "Busy".toUTF8, some "%".toUTF8⟩]
  information := [⟨some "Lost".toUTF8, none⟩]
  saves := [1, 1]
  batches := [
    [⟨0, [some (.number 0 5), some (.number 9 1)], [some (.number 0 8), some (.number 0 9)]⟩,
      ⟨1, [some (.number 0 1), some (.number 0 1)], []⟩],
    [⟨0, [none, some (.number 1 7)], [none, some (.number 9 0)]⟩]]
  informationValuesStatus := 1
  decoded := [⟨0, [none, some (.number 0 3)], [some (.number 0 9), some (.number 0 10)]⟩]

/-- A system that has done nothing yet, with the driver of that library. -/
def gapSystem :
    System (Driver.loaded (fun _ ↦ none) (Driver.scriptedLibrary gapScript))
      Compute.simulated where
  driver := ({} : Driver.LibraryScript.State)
  compute := ({ events := [(⟨1⟩, .ok .empty)] } : Compute.Simulated.State)
  disk := .empty
  dumpRoot := ⟨"/tmp"⟩
  process := "1"

def gapStart (mode : Mode) :
    List (Op (Driver.loaded (fun _ ↦ none) (Driver.scriptedLibrary gapScript))
      Compute.simulated) :=
  [.start (scriptedRequest mode "A" true)]

def gapConnection : Driver.Loaded.Connection where
  handle := 0
  metrics := [⟨"Time", "ns"⟩, ⟨"Busy", "%"⟩]
  information := [⟨"Lost", ""⟩]
  includeMax := true

theorem exists_active_gapStart (mode : Mode) :
    ∃ active, (runAll (gapStart mode) gapSystem).session.active? = some active ∧
      active.mode = mode ∧ connectionOf active = gapConnection := by
  have hlive : (runAll (gapStart mode) gapSystem).session.active?.map
      (fun active ↦ (active.mode, connectionOf active)) = some (mode, gapConnection) := by
    cases mode <;> decide +kernel
  obtain ⟨active, hactive, hboth⟩ := Option.map_eq_some_iff.1 hlive
  exact ⟨active, hactive, congrArg Prod.fst hboth, congrArg Prod.snd hboth⟩

def gapHeader (mode : Mode) : ByteArray :=
  (Dump.Layout.mk mode gapConnection.metrics gapConnection.information true).volume.bytes

/-- Its dump was opened on a disk that refuses nothing. -/
theorem exists_writer_gapStart (mode : Mode) :
    ∃ writer ∈ (runAll (gapStart mode) gapSystem).session.dump?,
      writer.output.IsFree (runAll (gapStart mode) gapSystem).disk ∧
        writer.output.handle.AtEnd (runAll (gapStart mode) gapSystem).disk ∧
        writer.output.content (runAll (gapStart mode) gapSystem).disk = gapHeader mode := by
  let started := runAll (gapStart mode) gapSystem
  have hopen : started.session.dump?.map (fun writer ↦
      (writer.output.handle, writer.output.content started.disk)) =
        some (⟨.file 0, .overwrite, 0⟩, gapHeader mode) := by
    cases mode <;> decide +kernel
  have hwilling : started.disk.IsWilling := by cases mode <;> decide +kernel
  have hfile : 0 < started.disk.files.size := by cases mode <;> decide +kernel
  have hempty : (started.disk.bytes (.file 0)).size = 0 := by cases mode <;> decide +kernel
  obtain ⟨writer, hwriter, hboth⟩ := Option.map_eq_some_iff.1 hopen
  obtain ⟨hhandle, hcontent⟩ := Prod.mk.inj hboth
  refine ⟨writer, hwriter, ⟨⟨0, congrArg (·.target) hhandle⟩, hwilling⟩, ?_, hcontent⟩
  rw [hhandle]
  exact ⟨hfile, fun _ ↦ hempty.symm⟩

/-- An event whose first value is not filled in is one row and is summed up; a drain of three saved
reports, of which one cannot be read, is two rows. Both stand in the dump. -/
theorem keepsColumns_runAll_gaps :
    gapSystem.session = {} ∧ (gapConnection.metrics.map (·.name)).Nodup ∧
      (sampleEvent "copy" ⟨1⟩ (runAll (gapStart .event) gapSystem)).1 = .recorded 1 ∧
      Dump.splitFields
          ((Dump.Layout.mk .event gapConnection.metrics gapConnection.information
            true).rowShape.line "copy" (Driver.Loaded.report gapConnection
              ⟨0, [none, some (.number 0 3)], [some (.number 0 9), some (.number 0 10)]⟩)) =
        ["copy".toList, [], [], "3".toList, "10".toList] ∧
      (∃ next ∈ (sampleEvent "copy" ⟨1⟩ (runAll (gapStart .event) gapSystem)).2.session.dump?,
        next.output.content (sampleEvent "copy" ⟨1⟩ (runAll (gapStart .event) gapSystem)).2.disk =
          gapHeader .event ++ "copy,,,3,10\n".toUTF8) ∧
      (∃ rounds, Streamed (Driver.scriptedLibrary gapScript) gapConnection
          (runAll (gapStart .time) gapSystem).driver rounds ∧
        (drainStream (runAll (gapStart .time) gapSystem)).1 =
          (rounds.flatMap (Round.reports gapConnection)).length) ∧
      (drainStream (runAll (gapStart .time) gapSystem)).1 = 2 ∧
      (∃ next ∈ (drainStream (runAll (gapStart .time) gapSystem)).2.session.dump?,
        next.output.content (drainStream (runAll (gapStart .time) gapSystem)).2.disk =
          gapHeader .time ++ "TBS,5,8,,,\nTBS,,,7,,\n".toUTF8) := by
  have hfresh : gapSystem.session = {} := rfl
  have hdistinct : (gapConnection.metrics.map (·.name)).Nodup := by decide
  obtain ⟨active, hactive, hmode, hconnection⟩ := exists_active_gapStart .event
  obtain ⟨stream, hstream, htime, hsame⟩ := exists_active_gapStart .time
  obtain ⟨hdump, -, hrow, hevents, -⟩ := keepsColumns_runAll hfresh (gapStart .event) hactive
    (hconnection ▸ hdistinct)
  obtain ⟨-, -, -, -, hstreams⟩ := keepsColumns_runAll hfresh (gapStart .time) hstream
    (hsame ▸ hdistinct)
  obtain ⟨rounds, hstreamed, -, hcount, -⟩ := hstreams htime
  rw [hsame] at hstreamed hcount
  rw [hconnection] at hdump hrow hevents
  rw [hmode] at hdump hrow
  let queried := (Compute.simulated.profilingInfo ⟨1⟩
    ((Driver.scriptedLibrary gapScript).reportSize gapConnection.handle
      (runAll (gapStart .event) gapSystem).driver).toNat
    (runAll (gapStart .event) gapSystem).compute).result
  have hqueried : queried.isOk = true := by decide +kernel
  obtain ⟨info, hinfo⟩ : ∃ info, queried = .ok info := by
    cases hresult : queried with
    | ok info => exact ⟨info, rfl⟩
    | error status =>
      rw [hresult] at hqueried
      cases hqueried
  obtain ⟨-, hsampled⟩ := hevents hmode "copy" ⟨1⟩ info hinfo
  have hknown : ¬ IsVacant gapConnection ((Driver.scriptedLibrary gapScript).decode .empty
      gapConnection.handle (runAll (gapStart .event) gapSystem).driver).1 := by
    decide +kernel
  have hlength : (Driver.Loaded.report gapConnection ((Driver.scriptedLibrary gapScript).decode
      .empty gapConnection.handle (runAll (gapStart .event) gapSystem).driver).1).length = 1 := by
    decide +kernel
  obtain ⟨writer, hwriter, hfree, hend, hheader⟩ := exists_writer_gapStart .event
  obtain ⟨next, hnext, hcontent⟩ :=
    (hdump writer hwriter).2.2 hfree hend _ _ (hsampled hknown).2.1
  rw [hheader] at hcontent
  have hdrained : (drainStream (runAll (gapStart .time) gapSystem)).2.session.dump?.map
      (·.output.content (drainStream (runAll (gapStart .time) gapSystem)).2.disk) =
        some (gapHeader .time ++ "TBS,5,8,,,\nTBS,,,7,,\n".toUTF8) := by
    decide +kernel
  refine ⟨hfresh, hdistinct, ?_, ?_, ⟨next, hnext, hcontent.trans ?_⟩, ⟨rounds, hstreamed, hcount⟩,
    by decide +kernel, Option.map_eq_some_iff.1 hdrained⟩
  · rw [(hsampled hknown).1]
    exact congrArg SampleOutcome.recorded hlength
  · exact (hrow "copy"
      ⟨0, [none, some (.number 0 3)], [some (.number 0 9), some (.number 0 10)]⟩ []).trans
      (by decide +kernel)
  · have hline : Dump.lineBytes [(Dump.Layout.mk .event gapConnection.metrics
        gapConnection.information true).rowShape.line "copy" (Driver.Loaded.report gapConnection
          ((Driver.scriptedLibrary gapScript).decode .empty gapConnection.handle
            (runAll (gapStart .event) gapSystem).driver).1)] = "copy,,,3,10\n".toUTF8 := by
      decide +kernel
    exact congrArg (gapHeader .event ++ ·) hline

end Session

end GpuCounters
