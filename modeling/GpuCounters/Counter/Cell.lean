import GpuCounters.Counter.Value
import GpuCounters.Decimal.Integer
import GpuCounters.Decimal.Reading
import GpuCounters.Text.Blank

/-!
# Reading cells

The text of a cell does not say which kind of value it was written for. It is read as the first of
these that fits: a whole number of 32 or of 64 bits, a number of single precision if that has
exactly the cell's text, a number of double precision, a truth value, a text.
-/

namespace GpuCounters.Value

/-- A whole number, of 32 bits if it is small enough. -/
def ofNat (n : Nat) : Value :=
  if n < UInt32.size then .u32 (.ofNat n) else .u64 (.ofNat n)

/-- A number of double precision that the given text was read as, of single precision if that has
the same text. -/
def ofDouble (cell : List Char) (x : Binary64) : Value :=
  let narrow : Binary32 := x.convert _
  if Decimal.plain.render narrow = cell then .f32 narrow else .f64 x

/-- The value of a text that is no number. -/
def ofWord (cell : List Char) : Value :=
  if cell = "true".toList then .bool true
  else if cell = "false".toList then .bool false
  else .text (String.ofList cell)

/-- Read a cell without white space at its ends. -/
def ofTrimmed (cell : List Char) : Value :=
  match Decimal.readUnsigned 10 UInt64.size cell with
  | .ok n => ofNat n
  | .error _ =>
    match Decimal.readDouble? cell with
    | some x => ofDouble cell x
    | none => ofWord cell

def ofCell (cell : String) : Value := ofTrimmed (Text.trim cell.toList)

end GpuCounters.Value
