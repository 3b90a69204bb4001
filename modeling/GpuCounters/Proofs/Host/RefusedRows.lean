import GpuCounters.Proofs.Host.Accounts
import GpuCounters.Proofs.Session.Rows

/-!
# Rows that a dump refuses

A drain answers how many reports the stream had. Each of them is written as a row, and a row that
the dump refuses, or for which there is no dump, is given up. So the answer is the number of rows
that the dump was given exactly if it took every one of them.
-/

namespace GpuCounters.Session

open Storage GpuCounters.System GpuCounters.Run

variable {P : Driver.Provider} {C : Compute}

/-! ## Rows that are taken -/

/-- Whether a dump takes a row; without a dump no row is taken. -/
def takes : Option Dump.Writer × Disk → String × Report → Bool
  | (some writer, disk), (label, report) => (writer.writeRow label report disk).1.isOk
  | (none, _), _ => false

/-- How many rows a dump takes of some that are written in order. -/
def countTaken : List (String × Report) → Option Dump.Writer × Disk → Nat
  | [], _ => 0
  | row :: rows, dump => (if takes dump row then 1 else 0) + countTaken rows (writeOne dump row)

/-- Whether a dump takes each of some rows that are written in order. -/
def TakesAll : List (String × Report) → Option Dump.Writer × Disk → Prop
  | [], _ => True
  | row :: rows, dump => takes dump row = true ∧ TakesAll rows (writeOne dump row)

variable {rows : List (String × Report)} {dump : Option Dump.Writer × Disk}

theorem countTaken_le_length (rows : List (String × Report)) (dump : Option Dump.Writer × Disk) :
    countTaken rows dump ≤ rows.length := by
  induction rows generalizing dump with
  | nil => exact Nat.le_refl 0
  | cons row rows ih =>
    have hrest := ih (writeOne dump row)
    rw [countTaken, List.length_cons]
    split <;> omega

/-- The induction is on the rows: one that is refused is missing in the count for good. -/
theorem countTaken_eq_length_iff (rows : List (String × Report))
    (dump : Option Dump.Writer × Disk) :
    countTaken rows dump = rows.length ↔ TakesAll rows dump := by
  induction rows generalizing dump with
  | nil => simp [countTaken, TakesAll]
  | cons row rows ih =>
    have hrest := countTaken_le_length rows (writeOne dump row)
    rw [countTaken, List.length_cons, TakesAll, ← ih (writeOne dump row)]
    cases htakes : takes dump row with
    | true => simp [Nat.add_comm 1]
    | false =>
      simp only [Bool.false_eq_true, if_false, false_and, iff_false]
      omega

/-- Without a dump no row is taken, and none is opened for the next ones. -/
theorem countTaken_none (rows : List (String × Report)) (disk : Disk) :
    countTaken rows (none, disk) = 0 := by
  induction rows with
  | nil => rfl
  | cons row rows ih =>
    have hone : writeOne (none, disk) row = (none, disk) := rfl
    rw [countTaken, hone, ih]
    rfl

/-- A dump whose disk refuses nothing takes every row. -/
theorem takesAll_of_isFree {writer : Dump.Writer} {disk : Disk} (h : writer.output.IsFree disk)
    (rows : List (String × Report)) : TakesAll rows (some writer, disk) := by
  induction rows generalizing writer disk with
  | nil => trivial
  | cons row rows ih =>
    obtain ⟨label, report⟩ := row
    obtain ⟨output, later, hwrite, hfree⟩ := Dump.Writer.writeRow_of_isFree h label report
    have hrest : TakesAll rows (some { writer with output, rows := writer.rows + 1 }, later) :=
      ih hfree
    rw [TakesAll, takes, writeOne, hwrite]
    exact ⟨rfl, hrest⟩

/-- The dump itself counts the rows that it takes. -/
theorem rows_writeAll (rows : List (String × Report)) (writer : Dump.Writer) (disk : Disk) :
    ∃ next later, writeAll rows (some writer, disk) = (some next, later) ∧
      next.rows = writer.rows + countTaken rows (some writer, disk) := by
  induction rows generalizing writer disk with
  | nil => exact ⟨writer, disk, rfl, rfl⟩
  | cons row rows ih =>
    obtain ⟨label, report⟩ := row
    rcases hwrite : writer.writeRow label report disk with ⟨result, middle, written⟩
    have hone : writeOne (some writer, disk) (label, report) = (some middle, written) := by
      rw [writeOne, hwrite]
      rfl
    have htakes : takes (some writer, disk) (label, report) = result.isOk := by
      rw [takes, hwrite]
    obtain ⟨next, later, hrest, hrows⟩ := ih middle written
    refine ⟨next, later, ?_, ?_⟩
    · calc writeAll ((label, report) :: rows) (some writer, disk)
        _ = writeAll rows (writeOne (some writer, disk) (label, report)) := rfl
        _ = (some next, later) := by rw [hone, hrest]
    · rw [hrows, Host.rows_writeRow hwrite, countTaken, hone, htakes, Nat.add_assoc]

theorem Writes.openRows {before after : System P C} (h : Writes rows before after) :
    after.openRows =
      before.openRows + countTaken rows (before.session.dump?, before.disk) := by
  have hdump := h.dump
  cases hbefore : before.session.dump? with
  | none =>
    have hnone : ∀ rows : List (String × Report),
        writeAll rows (none, before.disk) = (none, before.disk) := by
      intro rows
      induction rows with
      | nil => rfl
      | cons row rows ih => exact ih
    rw [hbefore, hnone] at hdump
    rw [openRows_of_none hbefore, openRows_of_none (congrArg Prod.fst hdump), countTaken_none]
  | some writer =>
    obtain ⟨next, later, hwritten, hrows⟩ := rows_writeAll rows writer before.disk
    rw [hbefore, hwritten] at hdump
    rw [openRows_of_dump hbefore, openRows_of_dump (congrArg Prod.fst hdump), hrows]

/-! ## Rows of a drain -/

/-- The rows that draining a session writes: a session that samples no stream has none. -/
def drainedRows (system : System P C) : List (String × Report) :=
  match system.session.active? with
  | some active =>
    if active.mode = .time then
      (streamedReports active.connection (P.backlog active.connection system.driver + 1)
        system.driver).map (Mode.time.tag, ·)
    else []
  | none => []

theorem writes_drainedRows (system : System P C) :
    Writes (drainedRows system) system (drainStream system).2 ∧
      (drainStream system).1 = (drainedRows system).length := by
  rw [drainedRows]
  cases hactive : system.session.active? with
  | none =>
    obtain ⟨hnone, hidle, -⟩ := drainStream_of_none hactive
    exact ⟨.of_idle hidle, hnone⟩
  | some active =>
    dsimp only
    split
    · rename_i hmode
      obtain ⟨hwrites, hcount⟩ := writes_drainStream hactive hmode
      exact ⟨hwrites, by rw [hcount, List.length_map]⟩
    · rename_i hmode
      obtain ⟨hnone, hidle⟩ := drainStream_of_event hactive hmode
      exact ⟨.of_idle hidle, hnone⟩

/-- A drain answers how many rows it was to write, and counts those that the dump takes. Both are
the same exactly if the dump takes every row, as one whose disk refuses nothing does; without a dump
none is counted at all. -/
theorem drainStream_eq_rows_iff (system : System P C) :
    let done := drainStream system
    let rows := drainedRows system
    done.1 = rows.length ∧ Writes rows system done.2 ∧
      done.2.telemetry.dumpRows =
        system.telemetry.dumpRows + countTaken rows (system.session.dump?, system.disk) ∧
      (done.2.telemetry.dumpRows = system.telemetry.dumpRows + done.1 ↔
        TakesAll rows (system.session.dump?, system.disk)) ∧
      (system.session.dump? = none →
        done.2.telemetry.dumpRows = system.telemetry.dumpRows) ∧
      ∀ writer ∈ system.session.dump?, writer.output.IsFree system.disk →
        done.2.telemetry.dumpRows = system.telemetry.dumpRows + done.1 := by
  intro done rows
  obtain ⟨hwrites, hcount⟩ := writes_drainedRows system
  have hdumpRows : done.2.telemetry.dumpRows =
      system.telemetry.dumpRows + countTaken rows (system.session.dump?, system.disk) := by
    have hopen : done.2.openRows =
        system.openRows + countTaken rows (system.session.dump?, system.disk) := hwrites.openRows
    have hbalance : system.openRows + done.2.telemetry.dumpRows =
        system.telemetry.dumpRows + 0 + done.2.openRows :=
      (Host.accounts_drainStream system).rows
    omega
  have hiff : done.2.telemetry.dumpRows = system.telemetry.dumpRows + done.1 ↔
      TakesAll rows (system.session.dump?, system.disk) := by
    rw [hdumpRows, hcount, Nat.add_left_cancel_iff]
    exact countTaken_eq_length_iff rows _
  refine ⟨hcount, hwrites, hdumpRows, hiff, ?_, ?_⟩
  · intro hnone
    rw [hdumpRows, hnone, countTaken_none, Nat.add_zero]
  · intro writer hwriter hfree
    rw [hiff, Option.mem_def.1 hwriter]
    exact takesAll_of_isFree hfree rows

def threeReports : Driver.Script :=
  { Driver.Script.computeBasic with
    batches :=
      [[Driver.Script.computeBasic.report [100, 50, 5],
          Driver.Script.computeBasic.report [110, 55, 6]],
        [Driver.Script.computeBasic.report [120, 60, 7]]] }

/-- A session that samples the stream, where a plain file stands in the way of dumps. -/
def rootlessStream : System (Driver.scripted (some threeReports)) Compute.simulated :=
  (ensureInitialized (scriptedRequest .time "Basic" false)
    { scripted threeReports with disk := ⟨[(["tmp"], .target (.file 0))], #[.empty], []⟩ }).2

/-- Three reports are said to be written, and no row is. -/
theorem drainStream_ne_rows_rootless :
    rootlessStream.session.dump? = none ∧ rootlessStream.mode? = some .time ∧
      (drainStream rootlessStream).1 = 3 ∧ rootlessStream.telemetry.dumpRows = 0 ∧
      (drainStream rootlessStream).2.telemetry.dumpRows = 0 := by
  decide +kernel

end GpuCounters.Session
