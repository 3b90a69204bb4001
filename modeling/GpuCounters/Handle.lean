import GpuCounters.Decimal.Integer

/-!
# Handles

The compute API names its objects by addresses, into which nobody looks. The null address names
nothing.
-/

namespace GpuCounters

inductive Handle.Kind
  | platform
  | device
  | context
  | queue
  | event
  deriving DecidableEq, Repr

/-- The handle of an object of the given kind. -/
structure Handle (kind : Handle.Kind) where
  address : UInt64
  deriving DecidableEq, Repr

abbrev Platform := Handle .platform
abbrev Device := Handle .device
abbrev Context := Handle .context
abbrev Queue := Handle .queue
abbrev Event := Handle .event

namespace Handle

variable {kind : Kind}

def isNull (handle : Handle kind) : Bool := handle.address = 0

/-- The text of a handle is its address in base sixteen. -/
def toText (handle : Handle kind) : String := Decimal.hex handle.address.toNat

end Handle

end GpuCounters
