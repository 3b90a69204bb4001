import GpuCounters.Dump.Writer
import GpuCounters.Proofs.Dump.Volume
import GpuCounters.Proofs.Storage.Refusals

/-!
# Dumps as volumes

An open dump holds bytes: those of its file and those that wait in its buffer. They start out as
the header of its layout, or as the bytes of the file that it is gone on with, whatever these are,
and each row that it takes is one more line of them. If they are the bytes of a volume the dump
carries that volume: each row that it takes is one more row of the volume, and once it is written
out the file is the volume.
-/

namespace GpuCounters.Dump

open Storage Disk

/-- The header of a layout, as a volume. -/
def Layout.volume (layout : Layout) : Volume := ⟨layout, []⟩

theorem Layout.bytes_volume (layout : Layout) :
    layout.volume.bytes = lineBytes [layout.nameLine] ++ lineBytes [layout.unitLine] := by
  rw [← lineBytes_append]
  rfl

/-- The bytes of a dump that was just opened: those that its file is left, or the header if there
are none. -/
def Layout.opening (layout : Layout) (access : Access) (content? : Option ByteArray) : ByteArray :=
  if (kept access content?).size = 0 then layout.volume.bytes else kept access content?

namespace Writer

/-- Whether an open dump was given some bytes and nothing else. -/
structure Holds (writer : Writer) (bytes : ByteArray) (disk : Disk) : Prop where
  sound : disk.Sound
  located : disk.locate writer.path = .ok writer.path.place
  plain : writer.path.namesDirectory = false
  node : disk.node? writer.path.place = some (.target writer.output.handle.target)
  atEnd : writer.output.handle.AtEnd disk
  content : writer.output.content disk = bytes

/-- Whether an open dump was given a volume and nothing else. -/
structure Carries (writer : Writer) (volume : Volume) (disk : Disk) : Prop where
  sound : disk.Sound
  located : disk.locate writer.path = .ok writer.path.place
  plain : writer.path.namesDirectory = false
  node : disk.node? writer.path.place = some (.target writer.output.handle.target)
  atEnd : writer.output.handle.AtEnd disk
  content : writer.output.content disk = volume.bytes

theorem carries_iff_holds {writer : Writer} {volume : Volume} {disk : Disk} :
    writer.Carries volume disk ↔ writer.Holds volume.bytes disk :=
  ⟨fun h ↦ ⟨h.sound, h.located, h.plain, h.node, h.atEnd, h.content⟩,
    fun h ↦ ⟨h.sound, h.located, h.plain, h.node, h.atEnd, h.content⟩⟩

/-- An output that took bytes changes the file of its dump alone. -/
theorem changedAt_of_took {output after : Output} {bytes : ByteArray} {disk later : Disk}
    {place : Place} (h : output.Took bytes disk after later) (hsound : disk.Sound)
    (hnode : disk.node? place = some (.target output.handle.target)) :
    ChangedAt place disk later := by
  obtain ⟨written, happended⟩ := h.appended
  exact happended.changedAt hsound hnode

theorem Holds.took {writer : Writer} {bytes more : ByteArray} {disk later : Disk}
    (h : writer.Holds bytes disk) {output : Output}
    (htook : writer.output.Took more disk output later) (rows : Nat) :
    { writer with output, rows }.Holds (bytes ++ more) later := by
  have hchanged := changedAt_of_took htook h.sound h.node
  refine ⟨hchanged.sound, hchanged.grows.locate h.located, h.plain, ?_, htook.atEnd, ?_⟩
  · show later.node? writer.path.place = some (.target output.handle.target)
    rw [htook.target]
    exact hchanged.grows _ _ h.node
  · show output.content later = bytes ++ more
    rw [htook.content, h.content]

variable {writer after : Writer} {bytes : ByteArray} {volume : Volume} {disk later : Disk}

/-- Without waiting bytes the file holds what the dump does. -/
theorem Holds.read_of_pending (h : writer.Holds bytes disk)
    (hpending : writer.output.pending = .empty) : disk.read writer.path = .ok bytes := by
  apply read_of_bytesAt? h.located h.plain
  rw [bytesAt?_of_node? h.node, ← h.content, Output.content, hpending, ByteArray.append_empty]

/-! ## Rows -/

/-- The bytes that an output keeps of a line, by whether it takes the line. -/
def recorded (output : Output) (line : List Char) : Except Error Unit → ByteArray
  | .ok () => lineBytes [line]
  | .error _ => output.leftover line

/-- A disk that refuses nothing takes a row, and is such a disk afterwards. -/
theorem writeRow_of_isFree (h : writer.output.IsFree disk) (label : String) (report : Report) :
    ∃ output later, writer.writeRow label report disk =
        (.ok (), { writer with output, rows := writer.rows + 1 }, later) ∧
      output.IsFree later := by
  obtain ⟨output, later, hline, hfree⟩ := h.writeLine (writer.shape.line label report)
  exact ⟨output, later, by rw [Writer.writeRow, hline], hfree⟩

theorem Holds.writeRow (h : writer.Holds bytes disk) {label : String} {report : Report}
    {result : Except Error Unit}
    (hwrite : writer.writeRow label report disk = (result, after, later)) :
    after.Holds (bytes ++ recorded writer.output (writer.shape.line label report) result) later ∧
      after.path = writer.path ∧ after.shape = writer.shape ∧
      ChangedAt writer.path.place disk later := by
  unfold Writer.writeRow at hwrite
  split at hwrite
  · rename_i output disk' hline
    have htook := Output.took_of_writeLine h.atEnd hline
    simp only [Prod.mk.injEq] at hwrite
    obtain ⟨rfl, rfl, rfl⟩ := hwrite
    rw [← lineBytes_singleton] at htook
    exact ⟨h.took htook _, rfl, rfl, changedAt_of_took htook h.sound h.node⟩
  · rename_i fault output disk' hline
    have htook := Output.took_of_writeLine_error h.atEnd hline
    simp only [Prod.mk.injEq] at hwrite
    obtain ⟨rfl, rfl, rfl⟩ := hwrite
    exact ⟨h.took htook _, rfl, rfl, changedAt_of_took htook h.sound h.node⟩

/-- A dump whose buffer is written out, or is refused to be, holds what it held. -/
theorem Holds.flush (h : writer.Holds bytes disk) {result : Except Error Unit}
    (hflush : writer.flush disk = (result, after, later)) :
    after.Holds bytes later ∧ after.path = writer.path ∧ after.shape = writer.shape ∧
      (result = .ok () → after.output.pending = .empty) ∧
      ChangedAt writer.path.place disk later := by
  have hholds : ∀ {output : Output} {disk' : Disk},
      writer.output.Took .empty disk output disk' →
        { writer with output }.Holds bytes disk' := by
    intro output disk' htook
    have hnext := h.took htook writer.rows
    rwa [ByteArray.append_empty] at hnext
  unfold Writer.flush at hflush
  split at hflush
  · rename_i output disk' hline
    obtain ⟨htook, hempty⟩ := Output.took_of_flush h.atEnd hline
    simp only [Prod.mk.injEq] at hflush
    obtain ⟨rfl, rfl, rfl⟩ := hflush
    exact ⟨hholds htook, rfl, rfl, fun _ ↦ hempty, changedAt_of_took htook h.sound h.node⟩
  · rename_i fault output disk' hline
    obtain ⟨-, htook⟩ := Output.took_of_flush_error h.atEnd hline
    simp only [Prod.mk.injEq] at hflush
    obtain ⟨rfl, rfl, rfl⟩ := hflush
    exact ⟨hholds htook, rfl, rfl, by simp, changedAt_of_took htook h.sound h.node⟩

theorem Carries.writeRow (h : writer.Carries volume disk) {label : String} {report : Report}
    (hwrite : writer.writeRow label report disk = (.ok (), after, later)) :
    after.Carries (volume.push ⟨writer.shape, label, report⟩) later ∧
      after.path = writer.path ∧ after.shape = writer.shape ∧
      ChangedAt writer.path.place disk later := by
  rw [carries_iff_holds, Volume.bytes_push]
  exact (carries_iff_holds.1 h).writeRow hwrite

theorem Carries.flush (h : writer.Carries volume disk)
    (hflush : writer.flush disk = (.ok (), after, later)) :
    after.Carries volume later ∧ after.path = writer.path ∧ after.shape = writer.shape ∧
      after.output.pending = .empty ∧ ChangedAt writer.path.place disk later := by
  obtain ⟨hholds, hpath, hshape, hpending, hchanged⟩ := (carries_iff_holds.1 h).flush hflush
  exact ⟨carries_iff_holds.2 hholds, hpath, hshape, hpending rfl, hchanged⟩

/-- The bytes of the file and those that wait are the volume. -/
theorem Carries.bytesAt? (h : writer.Carries volume disk) :
    ∃ written, disk.bytesAt? writer.path.place = some written ∧
      written ++ writer.output.pending = volume.bytes :=
  ⟨_, bytesAt?_of_node? h.node, h.content⟩

/-- Without waiting bytes the file is the volume. -/
theorem Carries.bytesAt?_of_pending (h : writer.Carries volume disk)
    (hpending : writer.output.pending = .empty) :
    disk.bytesAt? writer.path.place = some volume.bytes := by
  obtain ⟨written, hbytes, hvolume⟩ := h.bytesAt?
  rw [hbytes, ← hvolume, hpending, ByteArray.append_empty]

theorem Carries.read_of_pending (h : writer.Carries volume disk)
    (hpending : writer.output.pending = .empty) : disk.read writer.path = .ok volume.bytes :=
  read_of_bytesAt? h.located h.plain (h.bytesAt?_of_pending hpending)

/-! ## Starting -/

theorem took_of_writeHeader {layout : Layout} {output last : Output}
    (hend : output.handle.AtEnd disk)
    (h : writeHeader layout output disk = (.ok (), last, later)) :
    output.Took layout.volume.bytes disk last later := by
  unfold writeHeader at h
  split at h
  · simp at h
  · rename_i middle disk' hnames
    have hnameLine := Output.took_of_writeLine hend hnames
    have hunitLine := Output.took_of_writeLine hnameLine.atEnd h
    rw [Layout.bytes_volume, lineBytes_singleton, lineBytes_singleton]
    exact hnameLine.trans hunitLine

theorem took_of_writeHeader_error {layout : Layout} {output last : Output} {fault : Fault}
    (hend : output.handle.AtEnd disk)
    (h : writeHeader layout output disk = (.error fault, last, later)) :
    ∃ bytes, output.Took bytes disk last later := by
  unfold writeHeader at h
  split at h
  · rename_i refused middle disk' hnames
    simp only [Prod.mk.injEq] at h
    obtain ⟨-, rfl, rfl⟩ := h
    exact ⟨_, Output.took_of_writeLine_error hend hnames⟩
  · rename_i middle disk' hnames
    have hnameLine := Output.took_of_writeLine hend hnames
    exact ⟨_, hnameLine.trans (Output.took_of_writeLine_error hnameLine.atEnd h)⟩

theorem took_of_close {output : Output} (hend : output.handle.AtEnd disk) :
    ∃ last, output.Took .empty disk last (output.close disk) := by
  rcases hflush : output.flush disk with ⟨_ | ⟨⟩, last, later⟩
  · rw [Output.close, hflush]
    exact ⟨last, (Output.took_of_flush_error hend hflush).2⟩
  · rw [Output.close, hflush]
    exact ⟨last, (Output.took_of_flush hend hflush).1⟩

/-- What starting a dump leaves behind if it is not refused. -/
structure Started (path : Path) (layout : Layout) (access : Access) (disk : Disk)
    (writer : Writer) (later : Disk) : Prop where
  named : writer.path = path
  shape : writer.shape = layout.rowShape
  changed : ChangedAt path.place disk later
  /-- The header is written to a file that holds nothing -/
  carries : ∀ volume : Volume,
    volume.bytes = (if (kept access (disk.bytesAt? path.place)).size = 0 then layout.volume.bytes
      else kept access (disk.bytesAt? path.place)) → writer.Carries volume later

/-- What starting a dump leaves behind if it is not refused, whatever the file held. -/
structure Begun (path : Path) (layout : Layout) (access : Access) (disk : Disk)
    (writer : Writer) (later : Disk) : Prop where
  named : writer.path = path
  shape : writer.shape = layout.rowShape
  fresh : writer.rows = 0
  changed : ChangedAt path.place disk later
  holds : writer.Holds (layout.opening access (disk.bytesAt? path.place)) later

theorem size_eq_size_bytes (disk : Disk) (handle : Disk.Handle) :
    disk.size handle = (disk.bytes handle.target).size := by
  unfold Disk.size
  cases handle.target <;> rfl

theorem content_ofHandle (handle : Disk.Handle) (disk : Disk) :
    (Output.ofHandle handle).content disk = disk.bytes handle.target := ByteArray.append_empty

variable {path : Path} {layout : Layout} {access : Access}

/-- A dump that was just opened holds what is left of its file. -/
theorem holds_of_opened {made opened : Disk} {handle : Disk.Handle} (hmade : disk.Furnished made)
    (hopened : made.Opened path access handle opened) (shape : RowShape) :
    Writer.Holds ⟨path, .ofHandle handle, shape, 0⟩ (kept access (disk.bytesAt? path.place))
      opened := by
  refine ⟨hopened.sound, hopened.located, hopened.plain, hopened.node, hopened.atEnd, ?_⟩
  rw [content_ofHandle, hopened.bytes, hmade.bytesAt?]

/-- A dump that is gone on with holds what its file holds. -/
theorem begun_of_opened {made opened : Disk} {handle : Disk.Handle} (hsound : disk.Sound)
    (hmade : disk.Furnished made) (hopened : made.Opened path access handle opened)
    (hsize : (kept access (disk.bytesAt? path.place)).size ≠ 0) :
    Begun path layout access disk ⟨path, .ofHandle handle, layout.rowShape, 0⟩ opened where
  named := rfl
  shape := rfl
  fresh := rfl
  changed := (hmade.changedAt hsound path.place).trans hopened.changedAt
  holds := by
    rw [Layout.opening, if_neg hsize]
    exact holds_of_opened hmade hopened layout.rowShape

/-- A dump whose file holds nothing holds its header. -/
theorem begun_of_writeHeader {made opened : Disk} {handle : Disk.Handle} (hsound : disk.Sound)
    (hmade : disk.Furnished made) (hopened : made.Opened path access handle opened)
    (hsize : (kept access (disk.bytesAt? path.place)).size = 0) {output : Output}
    (h : writeHeader layout (.ofHandle handle) opened = (.ok (), output, later)) :
    Begun path layout access disk ⟨path, output, layout.rowShape, 0⟩ later := by
  have htook := took_of_writeHeader hopened.atEnd h
  have hwritten := changedAt_of_took htook hopened.sound hopened.node
  have hholds := (holds_of_opened hmade hopened layout.rowShape).took htook 0
  rw [ByteArray.size_eq_zero_iff.1 hsize, ByteArray.empty_append] at hholds
  refine ⟨rfl, rfl, rfl, (hmade.changedAt hsound path.place).trans
    (hopened.changedAt.trans hwritten), ?_⟩
  rw [Layout.opening, if_pos hsize]
  exact hholds

theorem begun_of_start (hsound : disk.Sound)
    (h : start path layout access disk = (.ok writer, later)) :
    Begun path layout access disk writer later := by
  have hfurnished := furnished_makeParents disk path
  unfold start at h
  split at h
  · simp at h
  · rename_i made hmade
    rw [hmade] at hfurnished
    split at h
    · simp at h
    · rename_i handle opened hopen
      have hopened := opened_of_openForWriting (hfurnished.sound hsound) hopen
      have hkept := hopened.bytes
      rw [hfurnished.bytesAt?] at hkept
      dsimp only at h
      split at h
      · rename_i hnonempty
        obtain ⟨rfl, rfl⟩ : _ ∧ opened = later := by simpa using h
        apply begun_of_opened hsound hfurnished hopened
        rw [← hkept, ← size_eq_size_bytes]
        exact Nat.ne_of_gt hnonempty.2
      · rename_i hheader
        split at h
        · rename_i output disk' hwrite
          obtain ⟨rfl, rfl⟩ : _ ∧ disk' = later := by simpa using h
          apply begun_of_writeHeader hsound hfurnished hopened _ hwrite
          cases access with
          | overwrite => rfl
          | append =>
            rw [← hkept, ← size_eq_size_bytes]
            have hzero : ¬ 0 < opened.size handle := fun hlt ↦ hheader ⟨rfl, hlt⟩
            omega
        · simp at h

/-- To start a dump changes its file alone, also if it fails. -/
theorem changedAt_of_start (hsound : disk.Sound)
    {result : Except Error Writer} (h : start path layout access disk = (result, later)) :
    ChangedAt path.place disk later := by
  cases result with
  | ok writer => exact (begun_of_start hsound h).changed
  | error cause =>
    have hfurnished := furnished_makeParents disk path
    unfold start at h
    split at h
    · rename_i made fault hmade
      rw [hmade] at hfurnished
      obtain ⟨-, rfl⟩ := Prod.mk.inj h
      exact hfurnished.changedAt hsound path.place
    · rename_i made hmade
      rw [hmade] at hfurnished
      have hmadeChanged := hfurnished.changedAt hsound path.place
      split at h
      · obtain ⟨-, rfl⟩ := Prod.mk.inj h
        exact hmadeChanged
      · rename_i handle opened hopen
        have hopened := opened_of_openForWriting hmadeChanged.sound hopen
        dsimp only at h
        split at h
        · simp at h
        · split at h
          · simp at h
          · rename_i fault output disk' hwrite
            obtain ⟨_, hheader⟩ := took_of_writeHeader_error hopened.atEnd hwrite
            obtain ⟨_, hclosed⟩ := took_of_close hheader.atEnd
            obtain ⟨-, rfl⟩ := Prod.mk.inj h
            exact hmadeChanged.trans (hopened.changedAt.trans
              (changedAt_of_took (hheader.trans hclosed) hopened.sound hopened.node))

theorem started_of_start (hsound : disk.Sound)
    (h : start path layout access disk = (.ok writer, later)) :
    Started path layout access disk writer later := by
  have hbegun := begun_of_start hsound h
  refine ⟨hbegun.named, hbegun.shape, hbegun.changed, fun volume hvolume ↦ ?_⟩
  rw [carries_iff_holds, hvolume]
  exact hbegun.holds

end Writer

end GpuCounters.Dump
