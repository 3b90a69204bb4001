import GpuCounters.Binary.Arithmetic
import GpuCounters.Decimal.Layout

/-!
# Counter values

A decoded value is of one of six kinds. It has a text, and, unless it is a text itself, a number.
-/

namespace GpuCounters

/-- A decoded counter value. -/
inductive Value
  | u32 (n : UInt32)
  | u64 (n : UInt64)
  | f32 (x : Binary32)
  | f64 (x : Binary64)
  | bool (b : Bool)
  | text (s : String)
  deriving DecidableEq, Repr

namespace Value

def digits (n : Nat) : String := String.ofList (Nat.toDigits 10 n)

/-- The text of a value: whole numbers in decimal, other numbers in the fewest digits that read
back, never with an exponent. -/
def toText : Value → String
  | .u32 n => digits n.toNat
  | .u64 n => digits n.toNat
  | .f32 x => String.ofList (Decimal.plain.render x)
  | .f64 x => String.ofList (Decimal.plain.render x)
  | .bool b => if b then "true" else "false"
  | .text s => s

/-- The number that a value stands for; a text stands for none. -/
def toNumber? : Value → Option Binary64
  | .u32 n => some (.ofNat _ n.toNat)
  | .u64 n => some (.ofNat _ n.toNat)
  | .f32 x => some (x.convert _)
  | .f64 x => some x
  | .bool b => some (.ofNat _ b.toNat)
  | .text _ => none

@[simp] theorem toText_text (s : String) : (Value.text s).toText = s := rfl

@[simp] theorem toNumber?_text (s : String) : (Value.text s).toNumber? = none := rfl

end Value

end GpuCounters
