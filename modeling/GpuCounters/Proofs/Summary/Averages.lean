import GpuCounters.Proofs.Decimal.Trimmed
import GpuCounters.Summary.Table

/-!
# Averages in thousandths

An average is written by one of two rules, as a small whole number or with three places that lose
their zeros at the end. The first one is seen at negative zero only, where it leaves out the sign:
all other texts are those of the second one. Either way the exact average is rounded to
thousandths and written with no more than that needs.
-/

namespace GpuCounters.Summary

open Decimal

/-! ## Small whole numbers -/

theorem averageText_of_smallWhole {x : Binary64} {n : ℤ} (h : smallWhole? x = some n) :
    averageText x = (toString n).toList := by
  rw [averageText, h, toList_toString_int, signed]
  simp only [decide_eq_true_eq]

theorem toRat?_of_smallWhole {x : Binary64} {n : ℤ} (h : smallWhole? x = some n) :
    x.toRat? = some (n : ℚ) :=
  Binary.toRat?_of_toInt? (Option.filter_eq_some_iff.1 h).1

/-- Both rules write the same text for everything but negative zero. -/
theorem averageText_eq_fixed {x : Binary64} (hzero : x ≠ .zero true) :
    averageText x = dropTrailing '.' (dropTrailing '0' (fixed 3 x)) := by
  cases hsmall : smallWhole? x with
  | none => rw [averageText, hsmall]
  | some n =>
    obtain ⟨count, hnearest, htext⟩ :=
      exists_dropTrailing_fixed_eq hzero (toRat?_of_smallWhole hsmall) 3
    rw [averageText_of_smallWhole hsmall, htext, signed_trimmed_intCast hnearest]

/-! ## All numbers -/

/-- Every number is written as its exact quantity rounded to thousandths, halfway to the even one,
with every digit of the whole part and nothing superfluous. -/
theorem averageText_isTrimmed {x : Binary64} {q : ℚ} (h : x.toRat? = some q) :
    IsTrimmed 3 q (averageText x) := by
  by_cases hzero : x = .zero true
  · have hsmall : smallWhole? x = some 0 := by
      rw [hzero]
      decide +kernel
    obtain rfl := Option.some.inj ((toRat?_of_smallWhole hsmall).symm.trans h)
    rw [averageText_of_smallWhole hsmall]
    exact isTrimmed_toString (by decide) 0
  · obtain ⟨count, hnearest, htext⟩ := exists_dropTrailing_fixed_eq hzero h 3
    rw [averageText_eq_fixed hzero, htext]
    exact isTrimmed_of_isNearest (by decide) hnearest

/-- The number `-2.0625`, halfway between two thousandths. -/
def halfway : Binary64 := .ofBits .double 0xc000800000000000

theorem averageText_isTrimmed_halfway :
    halfway.toRat? = some (-33 / 16) ∧ IsTrimmed 3 (-33 / 16) (averageText halfway) ∧
      averageText halfway = "-2.062".toList := by
  have hq : halfway.toRat? = some (-33 / 16) := by decide +kernel
  exact ⟨hq, averageText_isTrimmed hq, by decide +kernel⟩

/-- A negative number that is rounded to zero keeps its sign. -/
example : averageText (.ofBits .double 0xbf1a36e2eb1c432d) = "-0".toList := by decide +kernel

end GpuCounters.Summary
