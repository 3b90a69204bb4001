import GpuCounters.Proofs.Storage.Buffer

/-!
# Refused pieces

A disk that refuses a write takes no byte of it, and an output that is refused a piece leaves that
piece out and goes on holding what waited. A line is two pieces. Its end can be refused behind its
text in one case only: the text takes the last room of a buffer in which something waits, so that it
is held without a write, and the end of the line is what makes the buffer be written out. Then, and
only then, an output keeps something of a line that it refuses: all of its text.
-/

namespace GpuCounters.Storage

open Disk

namespace Disk

/-- A refused write leaves the handle and all files as they are. -/
theorem appended_of_write_error {handle after : Handle} {disk later : Disk} {bytes : ByteArray}
    {fault : Fault} (h : disk.write handle bytes = (.error fault, after, later)) :
    after = handle ∧ Appended handle.target .empty disk later := by
  have hlater : ∀ refusals, Appended handle.target .empty disk { disk with refusals } := by
    intro refusals
    refine ⟨rfl, rfl, ByteArray.append_empty.symm, fun other hother ↦ rfl⟩
  unfold write at h
  split at h
  · simp at h
  · dsimp only at h
    split at h
    · simp only [Prod.mk.injEq] at h
      obtain ⟨-, rfl, rfl⟩ := h
      exact ⟨rfl, hlater _⟩
    · split at h
      · simp only [Prod.mk.injEq] at h
        obtain ⟨-, rfl, rfl⟩ := h
        exact ⟨rfl, hlater _⟩
      · simp at h

end Disk

namespace Output

variable {output after : Output} {disk later : Disk} {piece : ByteArray} {fault : Fault}

/-- An output whose file got no byte and that holds what it held took nothing. -/
theorem took_empty (hend : output.handle.AtEnd disk)
    (h : Appended output.handle.target .empty disk later) :
    output.Took .empty disk output later := by
  refine ⟨rfl, ?_, ?_, ⟨.empty, h⟩⟩
  · refine ⟨h.holds hend.holds, fun haccess ↦ ?_⟩
    rw [h.written, ByteArray.append_empty, hend.position haccess]
  · rw [content, content, h.written, ByteArray.append_empty, ByteArray.append_empty]

theorem took_of_flush_error (hend : output.handle.AtEnd disk)
    (h : output.flush disk = (.error fault, after, later)) :
    after = output ∧ output.Took .empty disk after later := by
  unfold flush at h
  split at h
  · simp at h
  · rename_i handle written hwrite
    obtain ⟨rfl, happended⟩ := appended_of_write_error hwrite
    simp only [Prod.mk.injEq] at h
    obtain ⟨-, rfl, rfl⟩ := h
    exact ⟨rfl, took_empty hend happended⟩

theorem took_of_settle_error (hend : output.handle.AtEnd disk)
    (h : output.settle piece disk = (.error fault, after, later)) :
    output.Took .empty disk after later := by
  unfold settle at h
  split at h
  · split at h
    rename_i result handle written hwrite
    simp only [Prod.mk.injEq] at h
    obtain ⟨rfl, rfl, rfl⟩ := h
    obtain ⟨rfl, happended⟩ := appended_of_write_error hwrite
    exact took_empty hend happended
  · simp at h

/-- A refused piece is left out, even if the buffer was written out for it. -/
theorem took_of_writePiece_error (hend : output.handle.AtEnd disk)
    (h : output.write piece disk = (.error fault, after, later)) :
    output.Took .empty disk after later := by
  unfold write at h
  split at h
  · exact took_of_settle_error hend h
  · split at h
    · rename_i flushed written hflush
      simp only [Prod.mk.injEq] at h
      obtain ⟨-, rfl, rfl⟩ := h
      exact (took_of_flush_error hend hflush).2
    · rename_i flushed written hflush
      have htook := (took_of_flush hend hflush).1
      have hsettle := htook.trans (took_of_settle_error htook.atEnd h)
      rwa [ByteArray.append_empty] at hsettle

/-! ## Lines -/

/-- Whether a text takes the last room of a buffer in which something waits. -/
def IsFilledBy (output : Output) (text : ByteArray) : Prop :=
  0 < output.pending.size ∧ output.pending.size + text.size = capacity

instance (output : Output) (text : ByteArray) : Decidable (output.IsFilledBy text) :=
  inferInstanceAs (Decidable (_ ∧ _))

theorem write_of_isFilledBy (h : output.IsFilledBy piece) (disk : Disk) :
    output.write piece disk = (.ok (), output.hold piece, disk) := by
  obtain ⟨hpending, hfull⟩ := h
  have hroom : output.pending.size + piece.size ≤ capacity := Nat.le_of_eq hfull
  have hsmall : ¬ capacity ≤ piece.size := by omega
  rw [write, if_pos hroom, settle, if_neg hsmall]

/-- The end of a line has room in every buffer that is not full. -/
theorem write_lineFeed_of_lt (h : output.pending.size < capacity) (disk : Disk) :
    output.write "\n".toUTF8 disk = (.ok (), output.hold "\n".toUTF8, disk) := by
  have hone : "\n".toUTF8.size = 1 := by decide
  have hroom : output.pending.size + "\n".toUTF8.size ≤ capacity := by omega
  have hsmall : ¬ capacity ≤ "\n".toUTF8.size := by decide
  rw [write, if_pos hroom, settle, if_neg hsmall]

/-- What waits goes on waiting if it is refused. -/
theorem flush_of_refused (h : output.pending.size ≠ 0)
    (hrefused : disk.refusals.head?.join = some fault) :
    output.flush disk = (.error fault, output, { disk with refusals := disk.refusals.tail }) := by
  have hwrite : disk.write output.handle output.pending =
      (.error fault, output.handle, { disk with refusals := disk.refusals.tail }) := by
    simp only [Disk.write, h, if_false, hrefused]
  rw [flush, hwrite]

/-- A line whose text takes the last room is refused with the next write, and its text is kept. -/
theorem writeLine_of_isFilledBy {line : List Char}
    (h : output.IsFilledBy (String.ofList line).toUTF8)
    (hrefused : disk.refusals.head?.join = some fault) :
    output.writeLine line disk =
      (.error fault, output.hold (String.ofList line).toUTF8,
        { disk with refusals := disk.refusals.tail }) := by
  have hone : "\n".toUTF8.size = 1 := by decide
  have hcapacity : 0 < capacity := by decide
  have hfull : (output.hold (String.ofList line).toUTF8).pending.size = capacity :=
    ByteArray.size_append.trans h.2
  have hroom : ¬ (output.hold (String.ofList line).toUTF8).pending.size + "\n".toUTF8.size ≤
      capacity := by omega
  rw [writeLine, write_of_isFilledBy h]
  dsimp only
  rw [write, if_neg hroom, flush_of_refused (by omega) hrefused]

theorem pending_of_settle (h : output.settle piece disk = (.ok (), after, later)) :
    after.pending.size =
      if capacity ≤ piece.size then output.pending.size
      else output.pending.size + piece.size := by
  unfold settle at h
  split at h
  · rename_i hlarge
    split at h
    simp only [Prod.mk.injEq] at h
    obtain ⟨-, rfl, -⟩ := h
    rw [if_pos hlarge]
  · rename_i hsmall
    simp only [Prod.mk.injEq, true_and] at h
    obtain ⟨rfl, -⟩ := h
    rw [if_neg hsmall]
    exact ByteArray.size_append

/-- Behind a piece the buffer is full in one case only: the piece took the last room of it. -/
theorem isFilledBy_of_write (hend : output.handle.AtEnd disk)
    (h : output.write piece disk = (.ok (), after, later)) (hfull : capacity ≤ after.pending.size) :
    output.IsFilledBy piece := by
  have hcapacity : 0 < capacity := by decide
  unfold write at h
  split at h
  · rename_i hroom
    have hsize := pending_of_settle h
    split at hsize
    · omega
    · exact ⟨by omega, by omega⟩
  · split at h
    · simp at h
    · rename_i flushed written hflush
      have hempty := (took_of_flush hend hflush).2
      have hsize := pending_of_settle h
      rw [hempty, ByteArray.size_empty] at hsize
      split at hsize <;> omega

/-- What an output keeps of a line that it refuses. -/
def leftover (output : Output) (line : List Char) : ByteArray :=
  if output.IsFilledBy (String.ofList line).toUTF8 then (String.ofList line).toUTF8 else .empty

/-- A refused line leaves nothing behind, unless its text took the last room of the buffer. -/
theorem took_of_writeLine_error (hend : output.handle.AtEnd disk) {line : List Char}
    (h : output.writeLine line disk = (.error fault, after, later)) :
    output.Took (output.leftover line) disk after later := by
  unfold writeLine at h
  split at h
  · rename_i refused written hline
    simp only [Prod.mk.injEq] at h
    obtain ⟨-, rfl, rfl⟩ := h
    have hfree : ¬ output.IsFilledBy (String.ofList line).toUTF8 := by
      intro hfilled
      rw [write_of_isFilledBy hfilled] at hline
      simp at hline
    rw [leftover, if_neg hfree]
    exact took_of_writePiece_error hend hline
  · rename_i middle written hline
    have hfull : capacity ≤ middle.pending.size := by
      apply Nat.le_of_not_lt
      intro hroom
      rw [write_lineFeed_of_lt hroom] at h
      simp at h
    have htext := took_of_writePiece hend hline
    have htook := htext.trans (took_of_writePiece_error htext.atEnd h)
    rw [ByteArray.append_empty] at htook
    rw [leftover, if_pos (isFilledBy_of_write hend hline hfull)]
    exact htook

end Output

end GpuCounters.Storage
