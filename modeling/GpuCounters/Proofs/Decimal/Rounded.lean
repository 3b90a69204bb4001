import GpuCounters.Decimal.Fixed
import GpuCounters.Decimal.Reading
import GpuCounters.Proofs.Binary.Intervals
import Mathlib.Data.Nat.Cast.Field

/-!
# Quantities rounded to places

A number of a binary format is an exact quantity, and so is what a decimal says. A quantity is
rounded to a count of places if it is replaced by the multiple of the last place that is nearest to
it, the even one of two that are equally near. Numbers with fixed places are rounded like this.
-/

namespace GpuCounters

/-! ## Quantities -/

/-- A quantity with a minus sign if it is negative. -/
def withSign (negative : Bool) (magnitude : ℚ) : ℚ := if negative then -magnitude else magnitude

/-- The quantity that a number is. -/
def Binary.toRat? {f : Binary.Format} : Binary f → Option ℚ
  | .finite negative m e _ => some (withSign negative (m * 2 ^ e))
  | .nan | .infinite _ => none

/-- The quantity that a decimal says. -/
def Decimal.Reading.toRat? : Decimal.Reading → Option ℚ
  | .number negative significand exponent => some (withSign negative (significand * 10 ^ exponent))
  | .nan | .infinite _ => none

theorem abs_withSign (negative : Bool) {magnitude : ℚ} (h : 0 ≤ magnitude) :
    |withSign negative magnitude| = magnitude := by
  cases negative with
  | false => exact abs_of_nonneg h
  | true => exact (abs_neg magnitude).trans (abs_of_nonneg h)

theorem withSign_lt_zero_iff (negative : Bool) {magnitude : ℚ} (h : 0 < magnitude) :
    withSign negative magnitude < 0 ↔ negative = true := by
  cases negative with
  | false => exact iff_of_false h.not_gt (by decide)
  | true => exact iff_of_true (neg_lt_zero.2 h) rfl

theorem withSign_natCast (negative : Bool) (n : ℕ) :
    withSign negative n = ((if negative then -n else n : ℤ) : ℚ) := by
  cases negative with
  | false => exact (Int.cast_natCast n).symm
  | true => exact (congrArg Neg.neg (Int.cast_natCast n).symm).trans (Int.cast_neg _).symm

/-- Only negative zero has a minus sign and is not negative. -/
theorem Binary.decide_withSign_lt_zero {f : Binary.Format} {negative : Bool} {m : ℕ} {e : ℤ}
    {canonical : f.Canonical m e} (h : Binary.finite negative m e canonical ≠ .zero true) :
    decide (withSign negative (m * 2 ^ e) < 0) = negative := by
  rw [Bool.eq_iff_iff, decide_eq_true_eq]
  obtain rfl | hm := Nat.eq_zero_or_pos m
  · cases negative with
    | false => simp [withSign]
    | true => exact absurd (zero_eq_finite true canonical).symm h
  · have hm' : (0 : ℚ) < m := Nat.cast_pos.2 hm
    exact withSign_lt_zero_iff negative (by positivity)

/-- A whole number is its own quantity. -/
theorem Binary.toRat?_of_toInt? {f : Binary.Format} {x : Binary f} {n : ℤ}
    (h : x.toInt? = some n) : x.toRat? = some (n : ℚ) := by
  cases x with
  | nan => cases h
  | infinite negative => cases h
  | finite negative m e canonical =>
    unfold toInt? at h
    dsimp only at h
    split at h
    · rename_i hmod
      have hden : ((Nat.pow 2 (-e).toNat : ℕ) : ℚ) ≠ 0 :=
        Nat.cast_ne_zero.2 (Nat.two_pow_pos _).ne'
      have hquotient := cast_mul_pow_div two_ne_zero m e
      rw [← Nat.cast_div (Nat.dvd_of_mod_eq_zero hmod) hden, Nat.cast_ofNat] at hquotient
      rw [← Option.some.inj h, toRat?, ← hquotient, withSign_natCast]
    · cases h

/-! ## Roundings -/

/-- Whether a quantity is what another one is rounded to: it is a multiple of the last place, no
other multiple is nearer, and it is the even one if another is as near. -/
def Decimal.IsRounded (places : ℕ) (q rounded : ℚ) : Prop :=
  ∃ count : ℤ, rounded = count / 10 ^ places ∧
    (∀ other : ℤ, |q - rounded| ≤ |q - other / 10 ^ places|) ∧
    ∀ other : ℤ, other ≠ count → |q - rounded| = |q - other / 10 ^ places| → Even count

/-- Only a whole number itself is nearest to it. -/
theorem isNearest_natCast_iff {m n : ℕ} : IsNearest m n ↔ m = n := by
  constructor
  · intro h
    obtain ⟨hlow, hhigh⟩ := h.bounds
    have hlow' : 2 * m ≤ 2 * n + 1 := by
      have hle : (2 * m : ℚ) ≤ 2 * n + 1 := by linarith
      exact_mod_cast hle
    have hhigh' : 2 * n ≤ 2 * m + 1 := by exact_mod_cast hhigh
    omega
  · rintro rfl
    have hlt : (2 * m - 1 : ℚ) < 2 * m ∧ (2 * m : ℚ) < 2 * m + 1 := ⟨by linarith, by linarith⟩
    unfold IsNearest
    split
    · exact ⟨hlt.1.le, hlt.2.le⟩
    · exact hlt

theorem IsNearest.abs_sub_le {m : ℕ} {q : ℚ} (h : IsNearest m q) : |q - m| ≤ 1 / 2 := by
  obtain ⟨hlow, hhigh⟩ := h.bounds
  exact abs_le.2 ⟨by linarith, by linarith⟩

/-- Only an even number is nearest at the distance of a half. -/
theorem IsNearest.even {m : ℕ} {q : ℚ} (h : IsNearest m q) (hhalf : 1 / 2 ≤ |q - m|) :
    Even m := by
  by_contra hodd
  rw [IsNearest, if_neg (fun heven ↦ hodd (Nat.even_iff.2 heven))] at h
  have hlt : |q - m| < 1 / 2 := abs_lt.2 ⟨by linarith, by linarith⟩
  exact hhalf.not_gt hlt

/-- Two whole numbers cannot both be close. -/
theorem one_le_abs_sub_add {count other : ℤ} (h : other ≠ count) (q : ℚ) :
    1 ≤ |q - count| + |q - other| := by
  have hapart : (1 : ℚ) ≤ |(count : ℚ) - other| := by
    exact_mod_cast Int.one_le_abs (sub_ne_zero.2 h.symm)
  calc
    1 ≤ |(count : ℚ) - other| := hapart
    _ ≤ |count - q| + |q - other| := abs_sub_le _ q _
    _ = |q - count| + |q - other| := by rw [abs_sub_comm (count : ℚ) q]

namespace Decimal

/-- The number of steps nearest to a quantity in steps rounds the quantity. -/
theorem isRounded_of_isNearest {places m : ℕ} {q : ℚ} (h : IsNearest m (q * 10 ^ places)) :
    IsRounded places q (m / 10 ^ places) := by
  have hpos : (0 : ℚ) < 10 ^ places := by positivity
  have hscale : ∀ r : ℚ, |q - r / 10 ^ places| = |q * 10 ^ places - r| / 10 ^ places := by
    intro r
    rw [eq_div_iff hpos.ne', ← abs_of_pos hpos, ← abs_mul, abs_of_pos hpos, sub_mul,
      div_mul_cancel₀ _ hpos.ne']
  have hhalf := h.abs_sub_le
  refine ⟨m, rfl, fun other ↦ ?_, fun other hother htie ↦ ?_⟩
  · rw [hscale, hscale]
    refine div_le_div_of_nonneg_right ?_ hpos.le
    by_cases hother : other = m
    · rw [hother, Int.cast_natCast]
    · have hapart := one_le_abs_sub_add hother (q * 10 ^ places)
      rw [Int.cast_natCast] at hapart
      linarith
  · rw [hscale, hscale, div_left_inj' hpos.ne'] at htie
    have hapart := one_le_abs_sub_add hother (q * 10 ^ places)
    rw [Int.cast_natCast] at hapart
    exact_mod_cast h.even (by linarith)

theorem IsRounded.neg {places : ℕ} {q rounded : ℚ} (h : IsRounded places q rounded) :
    IsRounded places (-q) (-rounded) := by
  obtain ⟨count, rfl, hnearest, htie⟩ := h
  have hmirror : ∀ other : ℤ, |-q - other / 10 ^ places| = |q - (-other : ℤ) / 10 ^ places| := by
    intro other
    rw [← abs_neg]
    congr 1
    push_cast
    ring
  have hself : |-q - -(count / 10 ^ places)| = |q - count / 10 ^ places| := by
    rw [← abs_neg]
    congr 1
    ring
  refine ⟨-count, by push_cast; ring, fun other ↦ ?_, fun other hother heq ↦ ?_⟩
  · rw [hself, hmirror]
    exact hnearest (-other)
  · rw [hself, hmirror] at heq
    exact (htie (-other) (by omega) heq).neg

/-- Rounding does not look at the sign. -/
theorem IsRounded.withSign {places : ℕ} {q rounded : ℚ} (h : IsRounded places |q| rounded) :
    IsRounded places q (withSign (q < 0) rounded) := by
  unfold GpuCounters.withSign
  split
  · rename_i hnegative
    rw [abs_of_neg (of_decide_eq_true hnegative)] at h
    simpa using h.neg
  · rename_i hnonneg
    rwa [abs_of_nonneg (not_lt.1 fun hlt ↦ hnonneg (decide_eq_true hlt))] at h

theorem isNearest_steps (places m : ℕ) (e : ℤ) :
    IsNearest (steps places m e) (m * 2 ^ e * 10 ^ places) := by
  have hnearest := isNearest_roundDiv (m * Nat.pow 2 e.toNat * Nat.pow 10 places)
    (Nat.two_pow_pos (-e).toNat)
  have hquotient := cast_mul_pow_div two_ne_zero m e
  rw [Nat.cast_mul, mul_div_right_comm] at hnearest
  rw [Nat.cast_ofNat] at hquotient
  have hvalue : ((m * Nat.pow 2 e.toNat : ℕ) : ℚ) / ((2 ^ (-e).toNat : ℕ) : ℚ) *
      (Nat.pow 10 places : ℕ) = m * 2 ^ e * 10 ^ places := by
    rw [← hquotient]
    push_cast [Nat.pow_eq]
    rfl
  rwa [hvalue] at hnearest

end Decimal

end GpuCounters
