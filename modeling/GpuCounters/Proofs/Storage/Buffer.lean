import GpuCounters.Proofs.Storage.Files
import GpuCounters.Storage.Output

/-!
# The content of buffered output

What an output was given is the file's bytes followed by those that wait. Whatever the buffer does,
taking a piece puts it behind this content, and writing out leaves the content as it is.
-/

namespace GpuCounters.Storage

open Disk

namespace Output

/-- The bytes of the file followed by those that wait. -/
def content (output : Output) (disk : Disk) : ByteArray :=
  disk.bytes output.handle.target ++ output.pending

/-- What an output that took bytes leaves behind. -/
structure Took (output : Output) (bytes : ByteArray) (disk : Disk) (after : Output)
    (later : Disk) : Prop where
  target : after.handle.target = output.handle.target
  atEnd : after.handle.AtEnd later
  content : after.content later = output.content disk ++ bytes
  /-- Some bytes may have been written out -/
  appended : ∃ written, Appended output.handle.target written disk later

variable {output after last : Output} {disk later final : Disk} {bytes more : ByteArray}

theorem Took.trans (h : output.Took bytes disk after later)
    (hlast : after.Took more later last final) : output.Took (bytes ++ more) disk last final where
  target := by rw [hlast.target, h.target]
  atEnd := hlast.atEnd
  content := by rw [hlast.content, h.content, ByteArray.append_assoc]
  appended := by
    obtain ⟨written, happended⟩ := h.appended
    obtain ⟨second, hsecond⟩ := hlast.appended
    rw [h.target] at hsecond
    exact ⟨written ++ second, happended.trans hsecond⟩

/-- Bytes that wait are part of the content. -/
theorem took_hold (hend : output.handle.AtEnd disk) (piece : ByteArray) :
    output.Took piece disk (output.hold piece) disk where
  target := rfl
  atEnd := hend
  content := ByteArray.append_assoc.symm
  appended := ⟨.empty, Appended.refl _ _⟩

/-- Bytes that are written while none wait are part of the content. -/
theorem took_write (hend : output.handle.AtEnd disk) (hpending : output.pending = .empty)
    {piece : ByteArray} {handle : Disk.Handle}
    (h : disk.write output.handle piece = (.ok (), handle, later)) :
    output.Took piece disk { output with handle } later := by
  obtain ⟨htarget, -, happended, hafter⟩ := wrote_of_write hend h
  refine ⟨htarget, hafter, ?_, ⟨piece, happended⟩⟩
  calc
    later.bytes handle.target ++ output.pending = later.bytes handle.target := by
      rw [hpending, ByteArray.append_empty]
    _ = disk.bytes output.handle.target ++ piece := by rw [htarget, happended.written]
    _ = output.content disk ++ piece := by rw [content, hpending, ByteArray.append_empty]

theorem took_of_flush (hend : output.handle.AtEnd disk)
    (h : output.flush disk = (.ok (), after, later)) :
    output.Took .empty disk after later ∧ after.pending = .empty := by
  unfold flush at h
  split at h
  · rename_i handle written hwrite
    obtain ⟨htarget, -, happended, hafter⟩ := wrote_of_write hend hwrite
    simp only [Prod.mk.injEq, true_and] at h
    obtain ⟨rfl, rfl⟩ := h
    refine ⟨⟨htarget, hafter, ?_, ⟨_, happended⟩⟩, rfl⟩
    simp only [content, htarget, happended.written, ByteArray.append_empty]
  · simp at h

/-- A piece as large as the buffer must not overtake bytes that wait. -/
theorem took_of_settle (hend : output.handle.AtEnd disk) {piece : ByteArray}
    (hpending : capacity ≤ piece.size → output.pending = .empty)
    (h : output.settle piece disk = (.ok (), after, later)) :
    output.Took piece disk after later := by
  unfold settle at h
  split at h
  · rename_i hlarge
    split at h
    rename_i result handle written hwrite
    simp only [Prod.mk.injEq] at h
    obtain ⟨rfl, rfl, rfl⟩ := h
    exact took_write hend (hpending hlarge) hwrite
  · simp only [Prod.mk.injEq, true_and] at h
    obtain ⟨rfl, rfl⟩ := h
    exact took_hold hend piece

theorem took_of_writePiece (hend : output.handle.AtEnd disk) {piece : ByteArray}
    (h : output.write piece disk = (.ok (), after, later)) :
    output.Took piece disk after later := by
  unfold write at h
  split at h
  · rename_i hroom
    apply took_of_settle hend _ h
    intro hlarge
    apply ByteArray.size_eq_zero_iff.1
    omega
  · split at h
    · simp at h
    · rename_i flushed disk' hflush
      obtain ⟨htook, hempty⟩ := took_of_flush hend hflush
      have hsettle := took_of_settle htook.atEnd (fun _ ↦ hempty) h
      rw [← ByteArray.empty_append (b := piece)]
      exact htook.trans hsettle

/-- A line that is taken is behind the content with its end. -/
theorem took_of_writeLine (hend : output.handle.AtEnd disk) {line : List Char}
    (h : output.writeLine line disk = (.ok (), after, later)) :
    output.Took ((String.ofList line).toUTF8 ++ "\n".toUTF8) disk after later := by
  unfold writeLine at h
  split at h
  · simp at h
  · rename_i middle disk' hline
    have htext := took_of_writePiece hend hline
    exact htext.trans (took_of_writePiece htext.atEnd h)

/-- An output without waiting bytes is given up without a trace. -/
theorem close_of_pending (h : output.pending = .empty) (disk : Disk) :
    output.close disk = disk := by
  have hwrite : disk.write output.handle .empty = (.ok (), output.handle, disk) := rfl
  rw [close, flush, h, hwrite]

/-! ## Output to willing disks -/

/-- Whether an output goes to a regular file of a disk that refuses nothing. -/
structure IsFree (output : Output) (disk : Disk) : Prop where
  regular : ∃ number, output.handle.target = .file number
  willing : disk.IsWilling

theorem IsFree.flush (h : output.IsFree disk) :
    ∃ after later, output.flush disk = (.ok (), after, later) ∧ after.IsFree later := by
  obtain ⟨⟨number, htarget⟩, hwilling⟩ := h
  obtain ⟨handle, later, hwrite, hafter, hlater⟩ :=
    write_of_isWilling hwilling htarget output.pending
  refine ⟨⟨handle, .empty⟩, later, ?_, ⟨number, hafter⟩, hlater⟩
  rw [Output.flush, hwrite]

theorem IsFree.settle (h : output.IsFree disk) (piece : ByteArray) :
    ∃ after later, output.settle piece disk = (.ok (), after, later) ∧ after.IsFree later := by
  unfold Output.settle
  split
  · obtain ⟨⟨number, htarget⟩, hwilling⟩ := h
    obtain ⟨handle, later, hwrite, hafter, hlater⟩ := write_of_isWilling hwilling htarget piece
    rw [hwrite]
    exact ⟨_, _, rfl, ⟨number, hafter⟩, hlater⟩
  · exact ⟨_, _, rfl, ⟨h.regular, h.willing⟩⟩

theorem IsFree.writePiece (h : output.IsFree disk) (piece : ByteArray) :
    ∃ after later, output.write piece disk = (.ok (), after, later) ∧ after.IsFree later := by
  unfold Output.write
  split
  · exact h.settle piece
  · obtain ⟨flushed, later, hflush, hfree⟩ := h.flush
    rw [hflush]
    exact hfree.settle piece

theorem IsFree.writeLine (h : output.IsFree disk) (line : List Char) :
    ∃ after later, output.writeLine line disk = (.ok (), after, later) ∧ after.IsFree later := by
  obtain ⟨middle, written, hline, hmiddle⟩ := h.writePiece (String.ofList line).toUTF8
  rw [Output.writeLine, hline]
  exact hmiddle.writePiece _

end Output

end GpuCounters.Storage
