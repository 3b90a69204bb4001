import GpuCounters.Dump.Error
import GpuCounters.Dump.Row
import GpuCounters.Storage.Output

/-!
# Writing dumps

A dump is opened for a layout. It is made anew, or rows are appended to it; the lines of names and
units are written unless rows are appended to a file that holds something. Lines go through a
buffer, and a row counts once the buffer has taken it.
-/

namespace GpuCounters.Dump

open Storage

/-- An open dump. -/
structure Writer where
  path : Path
  output : Output
  shape : RowShape
  /-- The number of rows written since it was opened -/
  rows : Nat

namespace Writer

def writeHeader (layout : Layout) (output : Output) (disk : Disk) :
    Except Fault Unit × Output × Disk :=
  match output.writeLine layout.nameLine disk with
  | (.error fault, output, disk) => (.error fault, output, disk)
  | (.ok (), output, disk) => output.writeLine layout.unitLine disk

/-- Open a dump, and make the directories it lies in. -/
def start (path : Path) (layout : Layout) (access : Disk.Access) (disk : Disk) :
    Except Error Writer × Disk :=
  match disk.makeParents path with
  | (disk, .error fault) => (.error (.io path fault), disk)
  | (disk, .ok ()) =>
    match disk.openForWriting path access with
    | .error fault => (.error (.io path fault), disk)
    | .ok (handle, disk) =>
      let output := Output.ofHandle handle
      if access = .append ∧ 0 < disk.size handle then
        (.ok ⟨path, output, layout.rowShape, 0⟩, disk)
      else
        match writeHeader layout output disk with
        | (.ok (), output, disk) => (.ok ⟨path, output, layout.rowShape, 0⟩, disk)
        | (.error fault, output, disk) => (.error (.io path fault), output.close disk)

def writeRow (writer : Writer) (label : String) (report : Report) (disk : Disk) :
    Except Error Unit × Writer × Disk :=
  match writer.output.writeLine (writer.shape.line label report) disk with
  | (.ok (), output, disk) => (.ok (), { writer with output, rows := writer.rows + 1 }, disk)
  | (.error fault, output, disk) => (.error (.io writer.path fault), { writer with output }, disk)

/-- Write out what waits in the buffer. -/
def flush (writer : Writer) (disk : Disk) : Except Error Unit × Writer × Disk :=
  match writer.output.flush disk with
  | (.ok (), output, disk) => (.ok (), { writer with output }, disk)
  | (.error fault, output, disk) => (.error (.io writer.path fault), { writer with output }, disk)

/-- The disk once the dump is given up. -/
def close (writer : Writer) (disk : Disk) : Disk := writer.output.close disk

end Writer

end GpuCounters.Dump
