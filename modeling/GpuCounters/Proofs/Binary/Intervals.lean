import GpuCounters.Proofs.Binary.Nearest

/-!
# Intervals of numbers

The quantities nearest to a number are an interval one unit wide at most, and none of them is less
than half the number or more than three halves of it. Every quantity with a unit between those of a
format is nearest to one of its numbers, which uses all digits of the format.
-/

namespace GpuCounters

/-! ## Whole numbers nearest to a quotient -/

theorem isNearest_iff_cross {num den m : ℕ} (hden : 0 < den) :
    IsNearest m (num / den) ↔ 2 * m * den ≤ 2 * num + den ∧ 2 * num ≤ (2 * m + 1) * den ∧
      (m % 2 = 1 → 2 * m * den < 2 * num + den ∧ 2 * num < (2 * m + 1) * den) := by
  refine ⟨fun h ↦ h.cross hden, fun ⟨hlow, hhigh, hodd⟩ ↦ ?_⟩
  have hpos : (0 : ℚ) < den := by exact_mod_cast hden
  unfold IsNearest
  rw [mul_div_assoc']
  split
  · rw [le_div_iff₀ hpos, div_le_iff₀ hpos, sub_mul, sub_le_iff_le_add, one_mul]
    exact ⟨by exact_mod_cast hlow, by exact_mod_cast hhigh⟩
  · rename_i hne
    obtain ⟨hlow', hhigh'⟩ := hodd (Nat.mod_two_ne_zero.1 hne)
    rw [lt_div_iff₀ hpos, div_lt_iff₀ hpos, sub_mul, sub_lt_iff_lt_add, one_mul]
    exact ⟨by exact_mod_cast hlow', by exact_mod_cast hhigh'⟩

theorem IsNearest.bounds {m : ℕ} {q : ℚ} (h : IsNearest m q) :
    2 * m - 1 ≤ 2 * q ∧ 2 * q ≤ 2 * m + 1 := by
  unfold IsNearest at h
  split at h
  · exact h
  · exact ⟨h.1.le, h.2.le⟩

theorem isNearest_roundDiv (num : ℕ) {den : ℕ} (hden : 0 < den) :
    IsNearest (roundDiv num den) (num / den) := by
  have hdiv := Nat.div_add_mod num den
  have hmod := Nat.mod_lt num hden
  rw [isNearest_iff_cross hden]
  unfold roundDiv
  dsimp only
  generalize num / den = floor at hdiv ⊢
  generalize num % den = rest at hdiv hmod ⊢
  subst hdiv
  have hmul : 2 * floor * den = 2 * (den * floor) := by ring
  have hnext : 2 * (floor + 1) * den = 2 * (den * floor) + 2 * den := by ring
  split
  · rename_i hdown
    rw [Nat.add_mul, hmul]
    refine ⟨by omega, by omega, fun hodd ↦ ?_⟩
    omega
  · rename_i hup
    rw [Nat.add_mul, hnext]
    refine ⟨by omega, by omega, fun hodd ↦ ?_⟩
    omega
namespace Binary

variable {f : Format} {m : ℕ} {e : ℤ}

/-! ## Quantities in an interval -/

theorem RoundsTo.convex {u v w : ℚ} (hu : RoundsTo f m e u) (hw : RoundsTo f m e w) (huv : u ≤ v)
    (hvw : v ≤ w) : RoundsTo f m e v := by
  unfold RoundsTo at *
  split at hu
  · rename_i heven
    rw [if_pos heven] at hw ⊢
    exact ⟨hu.1.trans huv, hvw.trans hw.2⟩
  · rename_i hodd
    rw [if_neg hodd] at hw ⊢
    exact ⟨hu.1.trans_le huv, hvw.trans_lt hw.2⟩

/-- An interval is no wider than the unit. -/
theorem RoundsTo.le_add {u v : ℚ} (hu : RoundsTo f m e u) (hv : RoundsTo f m e v) :
    v ≤ u + 2 ^ e := by
  have hpos : (0 : ℚ) < 2 ^ (e - 2) := by positivity
  have hlow := (lowerQuarters_mem f m e).1
  have hu' := hu.bounds.1
  have hv' := hv.bounds.2
  rw [zpow_quarter e]
  nlinarith

/-- A quantity in the interval of a positive number is at least half the number, and at most three
halves of it. -/
theorem RoundsTo.halves (hm : 0 < m) {v : ℚ} (h : RoundsTo f m e v) :
    m * 2 ^ e ≤ 2 * v ∧ 2 * v ≤ 3 * (m * 2 ^ e) := by
  have hpos : (0 : ℚ) < 2 ^ (e - 2) := by positivity
  have hone : (1 : ℚ) ≤ m := by exact_mod_cast hm
  have hlow := (lowerQuarters_mem f m e).1
  obtain ⟨hlow', hhigh'⟩ := h.bounds
  rw [zpow_quarter e]
  constructor <;> nlinarith

/-! ## Numbers nearest to a quantity -/

/-- Whole numbers of units in quarters of the unit. -/
theorem isNearest_iff_quarters {v : ℚ} :
    IsNearest m (v / 2 ^ e) ↔
      if m % 2 = 0 then (4 * m - 2) * 2 ^ (e - 2) ≤ v ∧ v ≤ (4 * m + 2) * 2 ^ (e - 2)
      else (4 * m - 2) * 2 ^ (e - 2) < v ∧ v < (4 * m + 2) * 2 ^ (e - 2) := by
  have hpos : (0 : ℚ) < 2 ^ (e - 2) := by positivity
  have hcancel : 2 * (v / 2 ^ e) = v / 2 ^ (e - 2) / 2 := by
    rw [zpow_quarter e]
    field_simp
    ring
  have hlow : (4 * m - 2) * 2 ^ (e - 2) = (2 * (m : ℚ) - 1) * 2 * 2 ^ (e - 2) := by ring
  have hhigh : (4 * m + 2) * 2 ^ (e - 2) = (2 * (m : ℚ) + 1) * 2 * 2 ^ (e - 2) := by ring
  unfold IsNearest
  rw [hcancel, hlow, hhigh, le_div_iff₀ two_pos, le_div_iff₀ hpos, div_le_iff₀ two_pos,
    div_le_iff₀ hpos, lt_div_iff₀ two_pos, lt_div_iff₀ hpos, div_lt_iff₀ two_pos, div_lt_iff₀ hpos]

/-- A quantity nearest to a whole number of units is nearest to the number with that significand. -/
theorem IsUnit.roundsTo {v : ℚ} (hprecision : 0 < f.precision) (hunit : IsUnit f v e)
    (hnearest : IsNearest m (v / 2 ^ e)) : RoundsTo f m e v := by
  rw [isNearest_iff_quarters] at hnearest
  unfold RoundsTo
  by_cases hnarrow : m = 2 ^ (f.precision - 1) ∧ e ≠ f.minExponent
  · -- The quantity fills the digits, so it is not below the number.
    have hpos : (0 : ℚ) < 2 ^ (e - 2) := by positivity
    have hfull : (m : ℚ) * (4 * 2 ^ (e - 2)) ≤ v := by
      refine le_of_eq_of_le ?_ (hunit.le.resolve_left hnarrow.2)
      rw [hnarrow.1, ← zpow_quarter e, Nat.cast_pow, Nat.cast_ofNat, ← zpow_natCast,
        ← zpow_add₀ two_ne_zero]
      congr 1
      omega
    have hlower : lowerQuarters f m e = 4 * m - 1 := if_pos hnarrow
    rw [hlower]
    split
    · rename_i heven
      rw [if_pos heven] at hnearest
      exact ⟨by linarith, hnearest.2⟩
    · rename_i hodd
      rw [if_neg hodd] at hnearest
      exact ⟨by linarith, hnearest.2⟩
  · have hlower : lowerQuarters f m e = 4 * m - 2 := if_neg hnarrow
    rwa [hlower]

/-- A quantity that rounds up to all digits and one more is nearest to the least number of the unit
above. -/
theorem IsUnit.roundsTo_next {v : ℚ} (hprecision : 1 < f.precision) (hunit : IsUnit f v e)
    (hnearest : IsNearest (2 ^ f.precision) (v / 2 ^ e)) :
    RoundsTo f (2 ^ (f.precision - 1)) (e + 1) v := by
  obtain ⟨digits, hdigits⟩ : ∃ digits, f.precision = digits + 2 := ⟨f.precision - 2, by omega⟩
  have hpos : (0 : ℚ) < 2 ^ (e - 2) := by positivity
  have hmin := hunit.minimal
  have hlower : lowerQuarters f (2 ^ (f.precision - 1)) (e + 1) =
      4 * (2 ^ (f.precision - 1) : ℕ) - 1 := if_pos ⟨rfl, by omega⟩
  have hunits : (2 : ℚ) ^ (e + 1 - 2) = 2 * 2 ^ (e - 2) := by
    rw [← zpow_one_add₀ two_ne_zero]
    congr 1
    omega
  have hdouble : 2 ^ f.precision = 2 * 2 ^ (f.precision - 1) := by
    rw [← pow_succ']
    congr 1
    omega
  have heven : 2 ^ (f.precision - 1) % 2 = 0 := by
    have hless : f.precision - 1 = digits + 1 := by omega
    rw [hless, pow_succ, Nat.mul_mod_left]
  have hlt : v < (2 ^ f.precision : ℕ) * (4 * 2 ^ (e - 2)) := by
    refine lt_of_lt_of_eq hunit.lt ?_
    rw [zpow_add₀ two_ne_zero, zpow_natCast, zpow_quarter e, mul_comm]
    push_cast
    rfl
  rw [isNearest_iff_quarters] at hnearest
  unfold RoundsTo
  rw [hlower, hunits, if_pos heven]
  rw [hdouble] at hlt hnearest
  rw [if_pos (Nat.mul_mod_right 2 _)] at hnearest
  push_cast at hnearest hlt ⊢
  constructor
  · linarith [hnearest.1]
  · linarith

/-- A quantity among the numbers that use all digits of the format is nearest to one of them. -/
theorem exists_roundsTo (hprecision : 1 < f.precision) {num den : ℕ} (hnum : 0 < num)
    (hden : 0 < den) (hlow : (2 : ℚ) ^ (f.minExponent + f.precision) ≤ num / den)
    (hhigh : (num / den : ℚ) < 2 ^ (f.maxExponent + f.precision - 1)) :
    ∃ m e, f.Canonical m e ∧ 2 ^ (f.precision - 1) ≤ m ∧ RoundsTo f m e (num / den) := by
  have hunit := isUnit_unitExponent f hnum hden
  generalize unitExponent f num den = e at hunit
  have hpos : (0 : ℚ) < 2 ^ e := by positivity
  obtain ⟨hscaled, hratio⟩ := scale_eq num hden e
  obtain ⟨k, hnearest⟩ : ∃ k, IsNearest k (num / den / 2 ^ e : ℚ) :=
    ⟨_, hratio ▸ isNearest_roundDiv _ hscaled⟩
  have hmin : f.minExponent < e := by
    have hlt := (zpow_lt_zpow_iff_right₀ one_lt_two).1 (hlow.trans_lt hunit.lt)
    omega
  have hfull := hunit.le.resolve_left hmin.ne'
  have hmax : e < f.maxExponent := by
    have hlt := (zpow_lt_zpow_iff_right₀ one_lt_two).1 (hfull.trans_lt hhigh)
    omega
  obtain ⟨hbelow, habove⟩ := hnearest.bounds
  have hleast : (2 ^ (f.precision - 1) : ℕ) ≤ (num / den / 2 ^ e : ℚ) := by
    rw [le_div_iff₀ hpos]
    refine le_of_eq_of_le ?_ hfull
    rw [Nat.cast_pow, Nat.cast_ofNat, ← zpow_natCast, ← zpow_add₀ two_ne_zero]
    congr 1
    omega
  have hmost : (num / den / 2 ^ e : ℚ) < (2 ^ f.precision : ℕ) := by
    rw [div_lt_iff₀ hpos]
    refine lt_of_lt_of_eq hunit.lt ?_
    rw [zpow_add₀ two_ne_zero, zpow_natCast, mul_comm]
    push_cast
    rfl
  have hlower : 2 ^ (f.precision - 1) ≤ k := by
    by_contra hlt
    have hnext : ((k + 1 : ℕ) : ℚ) ≤ (2 ^ (f.precision - 1) : ℕ) := by
      exact_mod_cast Nat.succ_le_of_lt (not_le.1 hlt)
    push_cast at hnext hleast
    linarith
  have hupper : k ≤ 2 ^ f.precision := by
    by_contra hlt
    have hnext : ((2 ^ f.precision + 1 : ℕ) : ℚ) ≤ k := by
      exact_mod_cast Nat.succ_le_of_lt (not_le.1 hlt)
    push_cast at hnext hmost
    linarith
  obtain rfl | hlt := hupper.eq_or_lt
  · refine ⟨2 ^ (f.precision - 1), e + 1, ⟨?_, by omega, by omega, .inl le_rfl⟩, le_rfl,
      hunit.roundsTo_next hprecision hnearest⟩
    exact Nat.pow_lt_pow_right one_lt_two (by omega)
  · exact ⟨k, e, ⟨hlt, hmin.le, hmax.le, .inl hlower⟩, hlower,
      hunit.roundsTo (by omega) hnearest⟩

end Binary

end GpuCounters
