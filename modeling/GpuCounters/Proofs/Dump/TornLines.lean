import GpuCounters.Proofs.Dump.Labels
import GpuCounters.Proofs.Text.Ascii

/-!
# Torn lines

Any write of an open dump can be refused while later ones are taken. The rows that count are those
that were taken, and each of them is a whole line. A refused row leaves nothing behind, with one
exception: if its text took the last room of a buffer in which something waited, the text is kept
without its end, and the next row goes on with it. So the file is made of the lines of the rows that
were taken exactly if no row met such a buffer.
-/

namespace GpuCounters.Dump

open Storage Disk

/-! ## Calls -/

/-- What an open dump is asked for. -/
inductive Call
  | row (label : String) (report : Report)
  | flush

/-- A call with its answer, and the output that it met. -/
structure Served where
  call : Call
  output : Output
  result : Except Error Unit

namespace Writer

def serve (writer : Writer) (disk : Disk) : Call → Except Error Unit × Writer × Disk
  | .row label report => writer.writeRow label report disk
  | .flush => writer.flush disk

/-- Answer calls one after the other, whatever the answers are. -/
def serveAll (writer : Writer) : List Call → Disk → List Served × Writer × Disk
  | [], disk => ([], writer, disk)
  | call :: calls, disk =>
    match writer.serve disk call with
    | (result, after, later) =>
      match after.serveAll calls later with
      | (served, last, final) => (⟨call, writer.output, result⟩ :: served, last, final)

end Writer

namespace Served

variable {shape : RowShape} {served : Served}

def takenLine? (shape : RowShape) (served : Served) : Option (List Char) :=
  match served.call, served.result with
  | .row label report, .ok () => some (shape.line label report)
  | _, _ => none

def refusedLine? (shape : RowShape) (served : Served) : Option (List Char) :=
  match served.call, served.result with
  | .row label report, .error _ => some (shape.line label report)
  | _, _ => none

/-- Whether a row was refused behind its text: it has one, and the text took the last room of a
buffer in which something waited. -/
def IsTorn (shape : RowShape) (served : Served) : Prop :=
  ∃ line ∈ served.refusedLine? shape,
    line ≠ [] ∧ served.output.IsFilledBy (String.ofList line).toUTF8

instance (shape : RowShape) (served : Served) : Decidable (served.IsTorn shape) :=
  inferInstanceAs (Decidable (∃ _ ∈ served.refusedLine? shape, _))

def bytes (shape : RowShape) (served : Served) : ByteArray :=
  match served.call with
  | .row label report => Writer.recorded served.output (shape.line label report) served.result
  | .flush => .empty

theorem size_leftover (output : Output) (line : List Char) :
    0 < (output.leftover line).size ↔
      line ≠ [] ∧ output.IsFilledBy (String.ofList line).toUTF8 := by
  have hsize : 0 < (String.ofList line).toUTF8.size ↔ line ≠ [] := by
    rw [Nat.pos_iff_ne_zero, Ne, ByteArray.size_eq_zero_iff]
    exact not_congr (String.toByteArray_eq_empty_iff.trans String.ofList_eq_empty_iff)
  unfold Output.leftover
  split
  · rename_i hfilled
    rw [hsize]
    exact (and_iff_left hfilled).symm
  · rename_i hfree
    exact iff_of_false (Nat.lt_irrefl 0) (fun h ↦ hfree h.2)

/-- A call leaves the line of a row that was taken, and more only if a row was torn. -/
theorem bytes_eq (shape : RowShape) (served : Served) :
    ∃ torn : ByteArray, served.bytes shape = torn ++ lineBytes (served.takenLine? shape).toList ∧
      (0 < torn.size ↔ served.IsTorn shape) := by
  obtain ⟨call, output, result⟩ := served
  cases call with
  | flush =>
    exact ⟨.empty, by simp [bytes, takenLine?, lineBytes_nil], by simp [IsTorn, refusedLine?]⟩
  | row label report =>
    cases result with
    | ok taken => exact ⟨.empty, ByteArray.empty_append.symm, by simp [IsTorn, refusedLine?]⟩
    | error cause =>
      refine ⟨output.leftover (shape.line label report), ?_, ?_⟩
      · rw [takenLine?, Option.toList_none, lineBytes_nil, ByteArray.append_empty]
        rfl
      · rw [size_leftover]
        simp [IsTorn, refusedLine?]

end Served

def takenLines (shape : RowShape) (calls : List Served) : List (List Char) :=
  calls.filterMap (Served.takenLine? shape)

def servedBytes (shape : RowShape) : List Served → ByteArray
  | [] => .empty
  | served :: calls => served.bytes shape ++ servedBytes shape calls

/-- Calls leave the lines of the rows that were taken, and nothing else exactly if none was torn. -/
theorem servedBytes_eq_iff (shape : RowShape) (calls : List Served) :
    (lineBytes (takenLines shape calls)).size ≤ (servedBytes shape calls).size ∧
      (servedBytes shape calls = lineBytes (takenLines shape calls) ↔
        ∀ served ∈ calls, ¬ served.IsTorn shape) := by
  induction calls with
  | nil => exact ⟨Nat.le_refl _, by simp [servedBytes, takenLines, lineBytes_nil]⟩
  | cons served calls ih =>
    obtain ⟨hle, hrest⟩ := ih
    obtain ⟨torn, hbytes, htorn⟩ := served.bytes_eq shape
    have hlines : lineBytes (takenLines shape (served :: calls)) =
        lineBytes (served.takenLine? shape).toList ++ lineBytes (takenLines shape calls) := by
      rw [← lineBytes_append, takenLines, List.filterMap_cons]
      cases served.takenLine? shape <;> rfl
    have hall : servedBytes shape (served :: calls) =
        torn ++ (lineBytes (served.takenLine? shape).toList ++ servedBytes shape calls) := by
      rw [servedBytes, hbytes, ByteArray.append_assoc]
    rw [List.forall_mem_cons, ← hrest, ← htorn, hlines, hall]
    constructor
    · simp only [ByteArray.size_append]
      omega
    · constructor
      · intro hsame
        have hsize := congrArg ByteArray.size hsame
        simp only [ByteArray.size_append] at hsize
        have hnone : torn = .empty := ByteArray.size_eq_zero_iff.1 (by omega)
        rw [hnone, ByteArray.empty_append, ByteArray.append_right_inj] at hsame
        exact ⟨by omega, hsame⟩
      · rintro ⟨hnone, hsame⟩
        rw [ByteArray.size_eq_zero_iff.1 (Nat.le_zero.1 (Nat.not_lt.1 hnone)),
          ByteArray.empty_append, hsame]

/-! ## Runs -/

namespace Writer

variable {writer after : Writer} {bytes : ByteArray} {disk later : Disk}

/-- A call counts if it is a row that was taken. -/
theorem rows_serve (writer : Writer) (disk : Disk) (call : Call) :
    (writer.serve disk call).2.1.rows = writer.rows + (Served.takenLine? writer.shape
      ⟨call, writer.output, (writer.serve disk call).1⟩).toList.length := by
  cases call with
  | row label report =>
    simp only [Writer.serve, Writer.writeRow]
    split <;> rfl
  | flush =>
    simp only [Writer.serve, Writer.flush]
    split <;> rfl

/-- One call: what it leaves behind is behind the bytes. -/
theorem Holds.serve (h : writer.Holds bytes disk) {call : Call} {result : Except Error Unit}
    (hserve : writer.serve disk call = (result, after, later)) :
    after.Holds (bytes ++ Served.bytes writer.shape ⟨call, writer.output, result⟩) later ∧
      after.path = writer.path ∧ after.shape = writer.shape := by
  cases call with
  | row label report =>
    obtain ⟨hholds, hpath, hshape, -⟩ := h.writeRow hserve
    exact ⟨hholds, hpath, hshape⟩
  | flush =>
    obtain ⟨hholds, hpath, hshape, -, -⟩ := h.flush hserve
    exact ⟨by rwa [Served.bytes, ByteArray.append_empty], hpath, hshape⟩

/-- The induction is on the calls. -/
theorem Holds.serveAll (h : writer.Holds bytes disk) {calls : List Call} {served : List Served}
    (hserved : writer.serveAll calls disk = (served, after, later)) :
    after.Holds (bytes ++ servedBytes writer.shape served) later ∧
      after.path = writer.path ∧ served.map (·.call) = calls ∧
      after.rows = writer.rows + (takenLines writer.shape served).length := by
  induction calls generalizing writer bytes disk served with
  | nil =>
    simp only [Writer.serveAll, Prod.mk.injEq] at hserved
    obtain ⟨rfl, rfl, rfl⟩ := hserved
    rw [servedBytes, ByteArray.append_empty]
    exact ⟨h, rfl, rfl, rfl⟩
  | cons call calls ih =>
    simp only [Writer.serveAll, Prod.mk.injEq] at hserved
    obtain ⟨rfl, rfl, rfl⟩ := hserved
    have hserve : writer.serve disk call = ((writer.serve disk call).1,
        (writer.serve disk call).2.1, (writer.serve disk call).2.2) := rfl
    obtain ⟨hnext, hpath, hshape⟩ := h.serve hserve
    obtain ⟨hlast, hlastPath, hcalls, hlastRows⟩ := ih hnext rfl
    rw [hshape] at hlast hlastRows
    refine ⟨?_, hlastPath.trans hpath, by rw [List.map_cons, hcalls], ?_⟩
    · rwa [servedBytes, ← ByteArray.append_assoc]
    · rw [hlastRows, rows_serve, takenLines, takenLines, List.filterMap_cons, Nat.add_assoc]
      cases Served.takenLine? writer.shape ⟨call, writer.output, _⟩ with
      | none => simp
      | some line => simp [Nat.add_comm]

/-- What is in the file once a dump is written out: the bytes that it was opened with and those that
its calls left behind. -/
theorem read_of_serveAll (hsound : disk.Sound) {path : Path} {layout : Layout} {access : Access}
    {started : Disk} (hstart : Writer.start path layout access disk = (.ok writer, started))
    {calls : List Call} {served : List Served}
    (hserved : writer.serveAll calls started = (served, after, later)) {last : Writer}
    {final : Disk} (hflush : after.flush later = (.ok (), last, final)) :
    final.read path =
      .ok (layout.opening access (disk.bytesAt? path.place) ++
        servedBytes layout.rowShape served) := by
  have hbegun := begun_of_start hsound hstart
  obtain ⟨hafter, hpath, -, -⟩ := hbegun.holds.serveAll hserved
  obtain ⟨hlast, hlastPath, -, hpending, -⟩ := hafter.flush hflush
  have hread := hlast.read_of_pending (hpending rfl)
  rwa [hlastPath, hpath, hbegun.named, hbegun.shape] at hread

end Writer

/-! ## Torn lines -/

/-- However writes are refused, a dump counts the rows that it took. Whenever it is written out, the
file holds what it was opened with and a line for each of these rows, in order, and nothing else
exactly if no row was torn. -/
theorem read_serveAll (hsound : disk.Sound) {path : Path} {layout : Layout} {access : Access}
    {writer after : Writer} {started later : Disk}
    (hstart : Writer.start path layout access disk = (.ok writer, started))
    {calls : List Call} {served : List Served}
    (hserved : writer.serveAll calls started = (served, after, later)) :
    served.map (·.call) = calls ∧
      after.rows = (takenLines layout.rowShape served).length ∧
      ∀ last final, after.flush later = (.ok (), last, final) →
        final.read path =
            .ok (layout.opening access (disk.bytesAt? path.place) ++
              servedBytes layout.rowShape served) ∧
          (final.read path =
              .ok (layout.opening access (disk.bytesAt? path.place) ++
                lineBytes (takenLines layout.rowShape served)) ↔
            ∀ call ∈ served, ¬ call.IsTorn layout.rowShape) := by
  have hbegun := Writer.begun_of_start hsound hstart
  obtain ⟨-, -, hcalls, hrows⟩ := hbegun.holds.serveAll hserved
  rw [hbegun.fresh, hbegun.shape, Nat.zero_add] at hrows
  refine ⟨hcalls, hrows, fun last final hflush ↦ ?_⟩
  have hread := Writer.read_of_serveAll hsound hstart hserved hflush
  refine ⟨hread, ?_⟩
  rw [hread, Except.ok.injEq, ByteArray.append_right_inj]
  exact (servedBytes_eq_iff layout.rowShape served).2

/-- The disk that refuses the first write that it is asked for. -/
def refusingDisk : Disk := { Disk.empty with refusals := [some .noSpace] }

theorem sound_refusingDisk : refusingDisk.Sound := Disk.sound_empty.congr rfl rfl

def timeReport (time : UInt32) : Report := ⟨[⟨"Time", .u32 time, none⟩], []⟩

/-- Two rows, between which the buffer is to be written out. -/
def flushedCalls : List Call := [.row "a" (timeReport 1), .flush, .row "b" (timeReport 2)]

/-- That the buffer was refused once is not seen in the file. -/
theorem read_serveAll_flushedCalls :
    ∃ writer started served after later last final,
      Writer.start ⟨"/tmp/rows.csv"⟩ timeLayout .overwrite refusingDisk = (.ok writer, started) ∧
        writer.serveAll flushedCalls started = (served, after, later) ∧
        after.flush later = (.ok (), last, final) ∧
        served.map (·.result) =
          [.ok (), .error (.io ⟨"/tmp/rows.csv"⟩ .noSpace), .ok ()] ∧
        after.rows = 2 ∧
        final.read ⟨"/tmp/rows.csv"⟩ = .ok "Operation,Time\n,ns\na,1\nb,2\n".toUTF8 := by
  obtain ⟨writer, started, served, after, later, last, final, hstart, hserved, hflush, hresults,
      hwhole, hlines⟩ :
      ∃ writer started served after later last final,
        Writer.start ⟨"/tmp/rows.csv"⟩ timeLayout .overwrite refusingDisk =
            (.ok writer, started) ∧
          writer.serveAll flushedCalls started = (served, after, later) ∧
          after.flush later = (.ok (), last, final) ∧
          served.map (·.result) =
            [.ok (), .error (.io ⟨"/tmp/rows.csv"⟩ .noSpace), .ok ()] ∧
          (∀ call ∈ served, ¬ call.IsTorn timeLayout.rowShape) ∧
          takenLines timeLayout.rowShape served = ["a,1".toList, "b,2".toList] :=
    ⟨_, _, _, _, _, _, _, rfl, rfl, rfl, by decide +kernel, by decide +kernel, by decide +kernel⟩
  obtain ⟨-, hrows, hfile⟩ := read_serveAll sound_refusingDisk hstart hserved
  refine ⟨writer, started, served, after, later, last, final, hstart, hserved, hflush, hresults,
    ?_, ?_⟩
  · rw [hrows, hlines]
    rfl
  · rw [(hfile last final hflush).2.2 hwhole, hlines]
    decide +kernel

/-- The text of the row of a time, without its end. -/
def timeText (label : String) : ByteArray :=
  (String.ofList (timeLayout.rowShape.line label (timeReport 1))).toUTF8

/-- A row that fills the buffer up behind the header, and is refused with its end, is kept in front
of the next row. -/
theorem read_behind_torn_row {label : String} (hsize : (timeText label).size = 8173) :
    ∃ writer started served after later last final,
      Writer.start ⟨"/tmp/torn.csv"⟩ timeLayout .overwrite refusingDisk = (.ok writer, started) ∧
        writer.serveAll [.row label (timeReport 1), .row "b" (timeReport 2)] started =
          (served, after, later) ∧
        after.flush later = (.ok (), last, final) ∧
        served.map (·.result) = [.error (.io ⟨"/tmp/torn.csv"⟩ .noSpace), .ok ()] ∧
        after.rows = 1 ∧
        final.read ⟨"/tmp/torn.csv"⟩ =
          .ok (timeLayout.volume.bytes ++ timeText label ++ "b,2\n".toUTF8) := by
  obtain ⟨writer, started, hstart, hpending, hrefusals, htarget, hshape, hpath, hfresh⟩ :
      ∃ writer started,
        Writer.start ⟨"/tmp/torn.csv"⟩ timeLayout .overwrite refusingDisk = (.ok writer, started) ∧
          writer.output.pending.size = 19 ∧ started.refusals = [some .noSpace] ∧
          writer.output.handle.target = .file 0 ∧ writer.shape = timeLayout.rowShape ∧
          writer.path = ⟨"/tmp/torn.csv"⟩ ∧ writer.rows = 0 :=
    ⟨_, _, rfl, by decide +kernel, by decide +kernel, by decide +kernel, rfl, rfl, rfl⟩
  have hfilled : writer.output.IsFilledBy (timeText label) := by
    refine ⟨by omega, ?_⟩
    rw [hpending, hsize]
    rfl
  have hrefused : started.refusals.head?.join = some .noSpace := by
    rw [hrefusals]
    rfl
  have hline : writer.output.writeLine (timeLayout.rowShape.line label (timeReport 1)) started =
      (.error .noSpace, writer.output.hold (timeText label),
        { started with refusals := started.refusals.tail }) :=
    Output.writeLine_of_isFilledBy hfilled hrefused
  have hfree : (writer.output.hold (timeText label)).IsFree
      { started with refusals := started.refusals.tail } := by
    refine ⟨⟨0, htarget⟩, ?_⟩
    rw [IsWilling, hrefusals]
    exact fun refusal hrefusal ↦ absurd hrefusal List.not_mem_nil
  obtain ⟨next, written, hnext, hnextFree⟩ :=
    hfree.writeLine (timeLayout.rowShape.line "b" (timeReport 2))
  obtain ⟨output, final, hflush, -⟩ := hnextFree.flush
  have hserved : writer.serveAll [.row label (timeReport 1), .row "b" (timeReport 2)] started =
      ([⟨.row label (timeReport 1), writer.output, .error (.io ⟨"/tmp/torn.csv"⟩ .noSpace)⟩,
          ⟨.row "b" (timeReport 2), writer.output.hold (timeText label), .ok ()⟩],
        { writer with output := next, rows := writer.rows + 1 }, written) := by
    simp only [Writer.serveAll, Writer.serve, Writer.writeRow, hshape, hline, hnext, hpath]
  have hlast : ({ writer with output := next, rows := writer.rows + 1 } : Writer).flush written =
      (.ok (), { writer with output, rows := writer.rows + 1 }, final) := by
    simp only [Writer.flush, hflush]
  refine ⟨writer, started, _, _, written, _, final, hstart, hserved, hlast, rfl, ?_, ?_⟩
  · show writer.rows + 1 = 1
    rw [hfresh]
  · have hleft : writer.output.leftover (timeLayout.rowShape.line label (timeReport 1)) =
        timeText label := if_pos hfilled
    have hnew : lineBytes [timeLayout.rowShape.line "b" (timeReport 2)] = "b,2\n".toUTF8 := by
      decide +kernel
    rw [Writer.read_of_serveAll sound_refusingDisk hstart hserved hlast]
    simp only [servedBytes, Served.bytes, Writer.recorded, hleft, hnew, ByteArray.append_empty,
      ByteArray.append_assoc]
    rfl

theorem size_timeText_replicate (n : Nat) :
    (timeText (String.ofList (List.replicate n 'x'))).size = n + 2 := by
  have hplain : escapeField (List.replicate n 'x') = List.replicate n 'x' := by
    have hnone : ¬ (List.replicate n 'x').any needsQuotes = true := by
      simp [List.any_replicate, needsQuotes]
    rw [escapeField, if_neg hnone]
  have hcells : timeLayout.rowShape.cells (timeReport 1) = [['1']] := by decide +kernel
  have hline : timeLayout.rowShape.line (String.ofList (List.replicate n 'x')) (timeReport 1) =
      List.replicate n 'x' ++ [',', '1'] := by
    rw [RowShape.line, hcells, String.toList_ofList, hplain]
    rfl
  have hlabel : Text.IsAscii (List.replicate n 'x') := by
    intro c hc
    rw [List.eq_of_mem_replicate hc]
    decide
  rw [timeText, hline, (hlabel.append (by decide)).size_toUTF8, List.length_append,
    List.length_replicate]
  rfl

/-- A row that was refused can be in the file all the same, on the line of a row that was taken. -/
theorem refused_row_in_file :
    ∃ writer started served after later last final,
      Writer.start ⟨"/tmp/torn.csv"⟩ timeLayout .overwrite refusingDisk = (.ok writer, started) ∧
        writer.serveAll [.row (String.ofList (List.replicate 8171 'x')) (timeReport 1),
          .row "b" (timeReport 2)] started = (served, after, later) ∧
        after.flush later = (.ok (), last, final) ∧
        served.map (·.result) = [.error (.io ⟨"/tmp/torn.csv"⟩ .noSpace), .ok ()] ∧
        final.read ⟨"/tmp/torn.csv"⟩ ≠ .ok (timeLayout.volume.bytes ++ "b,2\n".toUTF8) := by
  have hsize := size_timeText_replicate 8171
  obtain ⟨writer, started, served, after, later, last, final, hstart, hserved, hflush, hresults, -,
    hread⟩ := read_behind_torn_row hsize
  refine ⟨writer, started, served, after, later, last, final, hstart, hserved, hflush, hresults, ?_⟩
  rw [hread]
  intro hsame
  have hsizes := congrArg ByteArray.size (Except.ok.inj hsame)
  rw [ByteArray.size_append, ByteArray.size_append, ByteArray.size_append, hsize] at hsizes
  omega

end GpuCounters.Dump
