import GpuCounters.Storage.Disk

/-!
# Buffered output

Bytes on their way to a file wait in a buffer of fixed size. A piece that fits waits with the
others. One that does not makes the buffer be written out first, and if it is as large as the
buffer it is then written at once. A piece that meets a fault is left out; what waited goes on
waiting.
-/

namespace GpuCounters.Storage

/-- An open file and the bytes that wait to be written to it. -/
structure Output where
  handle : Disk.Handle
  pending : ByteArray

namespace Output

def capacity : Nat := 8192

def ofHandle (handle : Disk.Handle) : Output := ⟨handle, .empty⟩

def flush (output : Output) (disk : Disk) : Except Fault Unit × Output × Disk :=
  match disk.write output.handle output.pending with
  | (.ok (), handle, disk) => (.ok (), ⟨handle, .empty⟩, disk)
  | (.error fault, handle, disk) => (.error fault, ⟨handle, output.pending⟩, disk)

/-- Put a piece behind what waits. -/
def hold (output : Output) (piece : ByteArray) : Output :=
  { output with pending := output.pending ++ piece }

/-- Take a piece once the buffer has room for it, or is empty. -/
def settle (output : Output) (piece : ByteArray) (disk : Disk) :
    Except Fault Unit × Output × Disk :=
  if capacity ≤ piece.size then
    match disk.write output.handle piece with
    | (result, handle, disk) => (result, { output with handle := handle }, disk)
  else (.ok (), output.hold piece, disk)

def write (output : Output) (piece : ByteArray) (disk : Disk) :
    Except Fault Unit × Output × Disk :=
  if output.pending.size + piece.size ≤ capacity then output.settle piece disk
  else
    match output.flush disk with
    | (.error fault, output, disk) => (.error fault, output, disk)
    | (.ok (), output, disk) => output.settle piece disk

/-- Take a line and then its end, each as a piece. -/
def writeLine (output : Output) (line : List Char) (disk : Disk) :
    Except Fault Unit × Output × Disk :=
  match output.write (String.ofList line).toUTF8 disk with
  | (.error fault, output, disk) => (.error fault, output, disk)
  | (.ok (), output, disk) => output.write "\n".toUTF8 disk

/-- The disk once the output is given up: what waits is written out if the disk takes it. -/
def close (output : Output) (disk : Disk) : Disk := (output.flush disk).2.2

end Output

end GpuCounters.Storage
