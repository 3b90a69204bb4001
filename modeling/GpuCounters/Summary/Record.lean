import GpuCounters.Binary.Arithmetic

/-!
# Records

A record sums up the numbers that one metric showed under one operation.
-/

namespace GpuCounters.Summary

/-- The sum, the count and the extremes of the numbers seen. -/
structure Record where
  sum : Binary64
  count : Nat
  min : Binary64
  max : Binary64
  deriving DecidableEq, Repr

namespace Record

def first (x : Binary64) : Record := ⟨x, 1, x, x⟩

def observe (record : Record) (x : Binary64) : Record :=
  ⟨record.sum.add x, record.count + 1, record.min.min x, record.max.max x⟩

def average? (record : Record) : Option Binary64 :=
  if record.count = 0 then none else some (record.sum.div (.ofNat _ record.count))

@[simp] theorem count_first (x : Binary64) : (first x).count = 1 := rfl

@[simp] theorem count_observe (record : Record) (x : Binary64) :
    (record.observe x).count = record.count + 1 := rfl

end Record

end GpuCounters.Summary
