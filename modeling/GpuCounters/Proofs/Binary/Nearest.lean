import GpuCounters.Binary.Rounding
import Mathlib.Algebra.Order.Field.Power
import Mathlib.Algebra.Order.Field.Rat
import Mathlib.Data.Rat.Cast.Order
import Mathlib.Tactic.FieldSimp
import Mathlib.Tactic.Linarith
import Mathlib.Tactic.NormNum
import Mathlib.Tactic.Positivity
import Mathlib.Tactic.Ring

/-!
# Numbers nearest to a quotient

Every positive number of a binary format is the nearest one to a whole interval of quotients: its
upper neighbour is one unit away, and so is the lower one, but half a unit if the number has the
least significand of its unit. A quotient within half of these distances is rounded to the number,
and one at the very half if the significand is even.
-/

namespace GpuCounters

/-! ## Powers with whole exponents -/

/-- A power with a whole exponent as a quotient of natural ones, of which one is one. -/
theorem zpow_eq_div_toNat {base : ℚ} (hbase : base ≠ 0) (e : ℤ) :
    base ^ e = base ^ e.toNat / base ^ (-e).toNat := by
  rw [← zpow_natCast, ← zpow_natCast, ← zpow_sub₀ hbase]
  congr 1
  omega

/-- A power times a whole number is a quotient of natural numbers. -/
theorem cast_mul_pow_div {base : ℕ} (hbase : base ≠ 0) (n : ℕ) (e : ℤ) :
    ((n * Nat.pow base e.toNat : ℕ) : ℚ) / (Nat.pow base (-e).toNat : ℕ) = n * (base : ℚ) ^ e := by
  rw [zpow_eq_div_toNat (Nat.cast_ne_zero.2 hbase) e, mul_div_assoc']
  push_cast [Nat.pow_eq]
  rfl

/-! ## Whole numbers nearest to a quotient -/

/-- Whether a whole number is the nearest one to a quantity, the even one of two that are equally
near. -/
def IsNearest (m : ℕ) (q : ℚ) : Prop :=
  if m % 2 = 0 then 2 * m - 1 ≤ 2 * q ∧ 2 * q ≤ 2 * m + 1
  else 2 * m - 1 < 2 * q ∧ 2 * q < 2 * m + 1

/-- Twice the quotient is within one of twice the whole number, and properly so if that is odd. -/
theorem IsNearest.cross {num den m : ℕ} (hden : 0 < den) (h : IsNearest m (num / den)) :
    2 * m * den ≤ 2 * num + den ∧ 2 * num ≤ (2 * m + 1) * den ∧
      (m % 2 = 1 → 2 * m * den < 2 * num + den ∧ 2 * num < (2 * m + 1) * den) := by
  have hpos : (0 : ℚ) < den := by exact_mod_cast hden
  have hcancel : 2 * ((num : ℚ) / den) * den = 2 * num := by field_simp
  unfold IsNearest at h
  split at h
  · rename_i heven
    obtain ⟨hlow, hhigh⟩ := h
    have hlow' := mul_le_mul_of_nonneg_right hlow hpos.le
    have hhigh' := mul_le_mul_of_nonneg_right hhigh hpos.le
    rw [hcancel] at hlow' hhigh'
    refine ⟨?_, by exact_mod_cast hhigh', by omega⟩
    have hsum : (2 * m * den : ℚ) ≤ 2 * num + den := by linarith
    exact_mod_cast hsum
  · rename_i hodd
    obtain ⟨hlow, hhigh⟩ := h
    have hlow' := mul_lt_mul_of_pos_right hlow hpos
    have hhigh' := mul_lt_mul_of_pos_right hhigh hpos
    rw [hcancel] at hlow' hhigh'
    have hsum : (2 * m * den : ℚ) < 2 * num + den := by linarith
    have hstrict : 2 * m * den < 2 * num + den := by exact_mod_cast hsum
    have hstrict' : 2 * num < (2 * m + 1) * den := by exact_mod_cast hhigh'
    exact ⟨hstrict.le, hstrict'.le, fun _ ↦ ⟨hstrict, hstrict'⟩⟩

theorem roundDiv_of_isNearest {num den m : ℕ} (hden : 0 < den) (h : IsNearest m (num / den)) :
    roundDiv num den = m := by
  obtain ⟨hlow, hhigh, hodd⟩ := h.cross hden
  have hdiv := Nat.div_add_mod num den
  have hmod := Nat.mod_lt num hden
  unfold roundDiv
  dsimp only
  generalize num / den = floor at hdiv ⊢
  generalize num % den = rest at hdiv hmod ⊢
  subst hdiv
  have hfloor : floor ≤ m := by
    by_contra hlt
    have hnext : den * (m + 1) ≤ den * floor := Nat.mul_le_mul_left den (by omega)
    nlinarith
  have hceil : m ≤ floor + 1 := by
    by_contra hlt
    have hnext : den * (floor + 2) ≤ den * m := Nat.mul_le_mul_left den (by omega)
    nlinarith
  obtain rfl | rfl : m = floor ∨ m = floor + 1 := by omega
  · have hrest : 2 * rest ≤ den := by nlinarith
    refine if_pos ?_
    by_contra hnot
    have heq : 2 * rest = den := by omega
    have htie := (hodd (by omega)).2
    nlinarith
  · have hrest : den ≤ 2 * rest := by nlinarith
    refine if_neg ?_
    rintro (hlt | ⟨heq, heven⟩)
    · omega
    · have htie := (hodd (by omega)).1
      nlinarith

namespace Binary

variable {f : Format} {num den : ℕ}

/-! ## Units -/

/-- Scaling is division by the unit. -/
theorem scale_eq (num : ℕ) (hden : 0 < den) (exponent : ℤ) :
    0 < (scale num den exponent).2 ∧
      ((scale num den exponent).1 : ℚ) / (scale num den exponent).2 =
        num / den / 2 ^ exponent := by
  rw [zpow_eq_div_toNat two_ne_zero]
  unfold scale
  split
  · rename_i hexponent
    have hzero : (-exponent).toNat = 0 := by omega
    refine ⟨Nat.mul_pos hden (Nat.two_pow_pos _), ?_⟩
    rw [hzero, pow_zero, div_one, div_div]
    push_cast [Nat.pow_eq]
    rfl
  · rename_i hexponent
    have hzero : exponent.toNat = 0 := by omega
    refine ⟨hden, ?_⟩
    rw [hzero, pow_zero, one_div, div_inv_eq_mul, div_mul_eq_mul_div]
    push_cast [Nat.pow_eq]
    rfl

/-- A unit at which a quantity fills the digits of a format, or the smallest unit. -/
structure IsUnit (f : Format) (v : ℚ) (e : ℤ) : Prop where
  minimal : f.minExponent ≤ e
  lt : v < 2 ^ (e + f.precision)
  le : e = f.minExponent ∨ 2 ^ (e + f.precision - 1) ≤ v

/-- A quantity has no two units. -/
theorem IsUnit.unique {v : ℚ} {e k : ℤ} (h : IsUnit f v e) (hother : IsUnit f v k) : e = k := by
  have hle : ∀ {e k : ℤ}, IsUnit f v e → IsUnit f v k → e ≤ k := by
    intro e k h hother
    obtain hmin | hlow := h.le
    · rw [hmin]
      exact hother.minimal
    · have hpow : (2 : ℚ) ^ (e + f.precision - 1) < 2 ^ (k + f.precision) :=
        lt_of_le_of_lt hlow hother.lt
      have hexponent := (zpow_lt_zpow_iff_right₀ one_lt_two).1 hpow
      omega
  exact le_antisymm (hle h hother) (hle hother h)

/-- A quotient is within a factor of two of that of the leading places. -/
theorem log2_bounds (hnum : 0 < num) (hden : 0 < den) :
    (2 : ℚ) ^ ((num.log2 : ℤ) - den.log2 - 1) ≤ num / den ∧
      (num / den : ℚ) < 2 ^ ((num.log2 : ℤ) - den.log2 + 1) := by
  have hpos : (0 : ℚ) < den := by exact_mod_cast hden
  have hnumLow : (2 : ℚ) ^ (num.log2 : ℤ) ≤ num := by
    rw [zpow_natCast]
    exact_mod_cast Nat.log2_self_le hnum.ne'
  have hnumHigh : (num : ℚ) < 2 ^ ((num.log2 : ℤ) + 1) := by
    exact_mod_cast Nat.lt_log2_self (n := num)
  have hdenLow : (2 : ℚ) ^ (den.log2 : ℤ) ≤ den := by
    rw [zpow_natCast]
    exact_mod_cast Nat.log2_self_le hden.ne'
  have hdenHigh : (den : ℚ) < 2 ^ ((den.log2 : ℤ) + 1) := by
    exact_mod_cast Nat.lt_log2_self (n := den)
  constructor
  · rw [le_div_iff₀ hpos]
    calc (2 : ℚ) ^ ((num.log2 : ℤ) - den.log2 - 1) * den
      _ ≤ 2 ^ ((num.log2 : ℤ) - den.log2 - 1) * 2 ^ ((den.log2 : ℤ) + 1) := by gcongr
      _ = 2 ^ (num.log2 : ℤ) := by
        rw [← zpow_add₀ two_ne_zero]
        congr 1
        omega
      _ ≤ num := hnumLow
  · rw [div_lt_iff₀ hpos]
    calc (num : ℚ)
      _ < 2 ^ ((num.log2 : ℤ) + 1) := hnumHigh
      _ = 2 ^ ((num.log2 : ℤ) - den.log2 + 1) * 2 ^ (den.log2 : ℤ) := by
        rw [← zpow_add₀ two_ne_zero]
        congr 1
        omega
      _ ≤ 2 ^ ((num.log2 : ℤ) - den.log2 + 1) * den := by gcongr

/-- The estimate of a unit is right or one too small. -/
theorem isUnit_unitExponent (f : Format) (hnum : 0 < num) (hden : 0 < den) :
    IsUnit f (num / den) (unitExponent f num den) := by
  obtain ⟨hlow, hhigh⟩ := log2_bounds hnum hden
  unfold unitExponent
  dsimp only
  generalize hestimate : (num.log2 : ℤ) - den.log2 - f.precision = estimate
  obtain ⟨hscaled, hratio⟩ := scale_eq num hden estimate
  generalize scale num den estimate = scaled at hscaled hratio ⊢
  have hpos : (0 : ℚ) < scaled.2 := by exact_mod_cast hscaled
  have hiff : scaled.1 < scaled.2 * Nat.pow 2 f.precision ↔
      (num / den : ℚ) < 2 ^ (estimate + f.precision) := by
    rw [zpow_add₀ two_ne_zero, ← div_lt_iff₀' (by positivity), ← hratio, div_lt_iff₀ hpos,
      zpow_natCast, mul_comm]
    exact_mod_cast Iff.rfl
  split
  · rename_i hfits
    have hfits' := hiff.1 hfits
    refine ⟨le_max_left _ _, lt_of_lt_of_le hfits' ?_, ?_⟩
    · apply zpow_le_zpow_right₀ one_le_two
      omega
    · by_cases hmin : estimate ≤ f.minExponent
      · exact .inl (max_eq_left hmin)
      · rw [max_eq_right (by omega)]
        refine .inr (le_trans (le_of_eq ?_) hlow)
        congr 1
        omega
  · rename_i hbig
    have hbig' := not_lt.1 (mt hiff.2 hbig)
    refine ⟨le_max_left _ _, lt_of_lt_of_le hhigh ?_, ?_⟩
    · apply zpow_le_zpow_right₀ one_le_two
      omega
    · by_cases hmin : estimate + 1 ≤ f.minExponent
      · exact .inl (max_eq_left hmin)
      · rw [max_eq_right (by omega)]
        refine .inr (le_trans (le_of_eq ?_) hbig')
        congr 1
        omega

/-! ## Intervals -/

/-- Rounding to a format is rounding to a whole number of units. -/
theorem ofRatio_of_isUnit (negative : Bool) (hnum : 0 < num) (hden : 0 < den) {e : ℤ}
    (hunit : IsUnit f (num / den) e) {k : ℕ} (hnearest : IsNearest k (num / den / 2 ^ e)) :
    ofRatio f negative num den =
      if k = 2 ^ f.precision then ofCanonical negative (2 ^ (f.precision - 1)) (e + 1)
      else ofCanonical negative k e := by
  have hexponent : unitExponent f num den = e := (isUnit_unitExponent f hnum hden).unique hunit
  obtain ⟨hscaled, hratio⟩ := scale_eq num hden e
  rw [← hratio] at hnearest
  unfold ofRatio
  rw [if_neg hnum.ne', hexponent]
  dsimp only
  rw [roundDiv_of_isNearest hscaled hnearest]
  rfl

/-- The lower end of the quotients that are nearest to a number, in quarters of its unit. -/
def lowerQuarters (f : Format) (m : ℕ) (e : ℤ) : ℚ :=
  if m = 2 ^ (f.precision - 1) ∧ e ≠ f.minExponent then 4 * m - 1 else 4 * m - 2

/-- Whether a quantity is nearest to the number `m * 2 ^ e`. -/
def RoundsTo (f : Format) (m : ℕ) (e : ℤ) (v : ℚ) : Prop :=
  if m % 2 = 0 then lowerQuarters f m e * 2 ^ (e - 2) ≤ v ∧ v ≤ (4 * m + 2) * 2 ^ (e - 2)
  else lowerQuarters f m e * 2 ^ (e - 2) < v ∧ v < (4 * m + 2) * 2 ^ (e - 2)

section RoundsTo

variable {m : ℕ} {e : ℤ} {v : ℚ}

theorem lowerQuarters_mem (f : Format) (m : ℕ) (e : ℤ) :
    4 * (m : ℚ) - 2 ≤ lowerQuarters f m e ∧ lowerQuarters f m e ≤ 4 * m - 1 := by
  unfold lowerQuarters
  split <;> constructor <;> linarith

theorem zpow_quarter (e : ℤ) : (2 : ℚ) ^ e = 4 * 2 ^ (e - 2) := by
  rw [zpow_sub₀ two_ne_zero]
  norm_num
  ring

theorem zpow_half (e : ℤ) : (2 : ℚ) ^ (e - 1) = 2 * 2 ^ (e - 2) := by
  rw [← zpow_one_add₀ two_ne_zero]
  congr 1
  omega

/-- The ends belong to the interval of an even significand only. -/
theorem RoundsTo.bounds (h : RoundsTo f m e v) :
    lowerQuarters f m e * 2 ^ (e - 2) ≤ v ∧ v ≤ (4 * m + 2) * 2 ^ (e - 2) := by
  unfold RoundsTo at h
  split at h
  · exact h
  · exact ⟨h.1.le, h.2.le⟩

/-- Quantities properly inside are nearest to the number, whichever significand it has. -/
theorem roundsTo_of_lt (hlow : lowerQuarters f m e * 2 ^ (e - 2) < v)
    (hhigh : v < (4 * m + 2) * 2 ^ (e - 2)) : RoundsTo f m e v := by
  unfold RoundsTo
  split
  · exact ⟨hlow.le, hhigh.le⟩
  · exact ⟨hlow, hhigh⟩

/-- The number is nearest to itself. -/
theorem roundsTo_self (f : Format) (m : ℕ) (e : ℤ) : RoundsTo f m e (m * 2 ^ e) := by
  have hquarter := zpow_quarter e
  have hpos : (0 : ℚ) < 2 ^ (e - 2) := by positivity
  obtain ⟨-, hlow⟩ := lowerQuarters_mem f m e
  apply roundsTo_of_lt
  · rw [hquarter]
    nlinarith
  · rw [hquarter]
    nlinarith

theorem RoundsTo.isNearest (h : RoundsTo f m e v) : IsNearest m (v / 2 ^ e) := by
  have hpos : (0 : ℚ) < 2 ^ (e - 2) := by positivity
  obtain ⟨hlow, -⟩ := lowerQuarters_mem f m e
  have hends := mul_le_mul_of_nonneg_right hlow hpos.le
  have hcancel : 2 * (v / 2 ^ e) = v / 2 ^ (e - 2) / 2 := by
    rw [zpow_quarter e]
    field_simp
    ring
  unfold RoundsTo at h
  unfold IsNearest
  rw [hcancel]
  split
  · rename_i heven
    rw [if_pos heven] at h
    rw [le_div_iff₀ two_pos, le_div_iff₀ hpos, div_le_iff₀ two_pos, div_le_iff₀ hpos]
    constructor <;> linarith [h.1, h.2]
  · rename_i hodd
    rw [if_neg hodd] at h
    rw [lt_div_iff₀ two_pos, lt_div_iff₀ hpos, div_lt_iff₀ two_pos, div_lt_iff₀ hpos]
    constructor <;> linarith [h.1, h.2]

theorem ofCanonical_of_canonical (negative : Bool) (canonical : f.Canonical m e) :
    ofCanonical negative m e = (.finite negative m e canonical : Binary f) :=
  dif_pos canonical

/-- Quantities nearest to a number are less than all those with more digits. -/
theorem RoundsTo.lt_pow (canonical : f.Canonical m e) (h : RoundsTo f m e v) :
    v < 2 ^ (e + f.precision) := by
  have hlt : m < 2 ^ f.precision := canonical.1
  have hnext : (m + 1 : ℚ) ≤ 2 ^ f.precision := by exact_mod_cast hlt
  have hpos : (0 : ℚ) < 2 ^ (e - 2) := by positivity
  refine lt_of_le_of_lt h.bounds.2 ?_
  rw [zpow_add₀ two_ne_zero, zpow_natCast, zpow_quarter e]
  nlinarith

/-- Quantities nearest to a positive number are at least half its unit. -/
theorem RoundsTo.pow_le (hm : 0 < m) (h : RoundsTo f m e v) : 2 ^ (e - 1) ≤ v := by
  have hone : (1 : ℚ) ≤ m := by exact_mod_cast hm
  have hpos : (0 : ℚ) < 2 ^ (e - 2) := by positivity
  obtain ⟨hlow, -⟩ := lowerQuarters_mem f m e
  refine le_trans ?_ h.bounds.1
  rw [zpow_half]
  nlinarith

/-- Quantities nearest to a number have its unit, unless they are less than all that fill the digits
of the format with it. -/
theorem RoundsTo.isUnit (canonical : f.Canonical m e) (h : RoundsTo f m e v)
    (hfull : e = f.minExponent ∨ 2 ^ (e + f.precision - 1) ≤ v) : IsUnit f v e :=
  ⟨canonical.2.1, h.lt_pow canonical, hfull⟩

/-- Other quantities nearest to a number are so to the least number of its unit, and round up to it
from the unit below. -/
theorem RoundsTo.narrow (hprecision : 0 < f.precision) (canonical : f.Canonical m e)
    (h : RoundsTo f m e v) (hmin : e ≠ f.minExponent) (hlt : v < 2 ^ (e + f.precision - 1)) :
    m = 2 ^ (f.precision - 1) ∧ IsUnit f v (e - 1) ∧
      IsNearest (2 ^ f.precision) (v / 2 ^ (e - 1)) := by
  obtain ⟨-, hlow, -, hdigits⟩ := canonical
  have hpos : (0 : ℚ) < 2 ^ (e - 2) := by positivity
  have hhalf := zpow_half e
  have hdouble : (2 : ℚ) ^ f.precision = 2 * 2 ^ (f.precision - 1) := by
    rw [← pow_succ']
    congr 1
    omega
  have hfull : (2 : ℚ) ^ (e + f.precision - 1) = 2 ^ (f.precision - 1) * (4 * 2 ^ (e - 2)) := by
    rw [← zpow_quarter e, ← zpow_natCast, ← zpow_add₀ two_ne_zero]
    congr 1
    omega
  have hm : m = 2 ^ (f.precision - 1) := by
    by_contra hne
    have hmore : 2 ^ (f.precision - 1) + 1 ≤ m :=
      Nat.lt_of_le_of_ne (hdigits.resolve_right hmin) (Ne.symm hne)
    have hmore' : (2 : ℚ) ^ (f.precision - 1) + 1 ≤ m := by exact_mod_cast hmore
    obtain ⟨hquarters, -⟩ := lowerQuarters_mem f m e
    have hends := h.bounds.1
    rw [hfull] at hlt
    nlinarith
  have hquarters : lowerQuarters f m e = 4 * m - 1 := if_pos ⟨hm, hmin⟩
  have hends := h.bounds.1
  have hcast : (m : ℚ) = 2 ^ (f.precision - 1) := by exact_mod_cast hm
  have hone : (1 : ℚ) ≤ 2 ^ (f.precision - 1) := one_le_pow₀ one_le_two
  rw [hquarters, hcast] at hends
  refine ⟨hm, ⟨by omega, ?_, .inr (le_trans ?_ hends)⟩, ?_⟩
  · calc v
      _ < 2 ^ (e + f.precision - 1) := hlt
      _ = 2 ^ (e - 1 + f.precision) := by
        congr 1
        omega
  · calc (2 : ℚ) ^ (e - 1 + f.precision - 1)
      _ = 2 ^ (f.precision - 1) * 2 ^ (e - 1) := by
        rw [← zpow_natCast, ← zpow_add₀ two_ne_zero]
        congr 1
        omega
      _ ≤ (4 * 2 ^ (f.precision - 1) - 1) * 2 ^ (e - 2) := by
        rw [hhalf]
        nlinarith
  · have heven : 2 ^ f.precision % 2 = 0 := by
      rw [← Nat.sub_add_cancel hprecision, pow_succ]
      exact Nat.mul_mod_left _ 2
    unfold IsNearest
    rw [if_pos heven]
    push_cast
    rw [hdouble, hhalf, ← mul_div_assoc, mul_div_mul_left _ _ two_ne_zero, le_div_iff₀ hpos,
      div_le_iff₀ hpos]
    rw [hfull] at hlt
    constructor <;> linarith

/-- A quotient is rounded to the number whose interval it lies in. -/
theorem ofRatio_of_roundsTo (hprecision : 0 < f.precision) (negative : Bool) (hnum : 0 < num)
    (hden : 0 < den) (canonical : f.Canonical m e) (h : RoundsTo f m e (num / den)) :
    ofRatio f negative num den = .finite negative m e canonical := by
  by_cases hfull : e = f.minExponent ∨ 2 ^ (e + f.precision - 1) ≤ (num / den : ℚ)
  · have hlt : m < 2 ^ f.precision := canonical.1
    rw [ofRatio_of_isUnit negative hnum hden (h.isUnit canonical hfull) h.isNearest,
      if_neg hlt.ne, ofCanonical_of_canonical negative canonical]
  · obtain ⟨hmin, hlt⟩ := not_or.1 hfull
    obtain ⟨hm, hunit, hnearest⟩ := h.narrow hprecision canonical hmin (not_le.1 hlt)
    rw [ofRatio_of_isUnit negative hnum hden hunit hnearest, if_pos rfl, ← hm, sub_add_cancel,
      ofCanonical_of_canonical negative canonical]

theorem ofDyadic_of_roundsTo (hprecision : 0 < f.precision) (negative : Bool) {n : ℕ} (hn : 0 < n)
    {exponent : ℤ} (canonical : f.Canonical m e) (h : RoundsTo f m e (n * 2 ^ exponent)) :
    ofDyadic f negative n exponent = .finite negative m e canonical :=
  ofRatio_of_roundsTo hprecision negative (Nat.mul_pos hn (Nat.two_pow_pos _)) (Nat.two_pow_pos _)
    canonical ((cast_mul_pow_div two_ne_zero n exponent).symm ▸ h)

end RoundsTo

/-! ## Zeros -/

theorem zero_eq_finite (negative : Bool) {e : ℤ} (canonical : f.Canonical 0 e) :
    (zero negative : Binary f) = .finite negative 0 e canonical := by
  obtain hdigits | hmin := canonical.2.2.2
  · exact absurd hdigits (Nat.not_le.2 (Nat.two_pow_pos _))
  · subst hmin
    exact ofCanonical_of_canonical negative canonical

theorem ofDyadic_zero (f : Format) (negative : Bool) (exponent : ℤ) :
    ofDyadic f negative 0 exponent = zero negative := by
  unfold ofDyadic ofRatio
  rw [if_pos (Nat.zero_mul _)]

end Binary

end GpuCounters
