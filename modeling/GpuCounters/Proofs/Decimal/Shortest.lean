import GpuCounters.Decimal.Shortest
import GpuCounters.Proofs.Binary.Nearest
import Mathlib.Data.Nat.Cast.Order.Field

/-!
# Shortest decimals round back

The decimal that is chosen for a number lies in the interval of those nearest to it. With seventeen
digits there always is one: their step is less than a unit, so one of the neighbours of the number
is within half a unit, and above a number with the least significand of its unit the step is less
than half a unit.
-/

namespace GpuCounters.Decimal

open Binary

/-! ## Leading places -/

theorem lt_pow_length (n : ℕ) : n < 10 ^ length n :=
  (Nat.length_toDigits_le_iff (by decide) Nat.length_toDigits_pos).1 (le_refl _)

theorem length_pos (n : ℕ) : 0 < length n := Nat.length_toDigits_pos

theorem pow_length_le {n : ℕ} (h : 0 < n) : 10 ^ (length n - 1) ≤ n := by
  by_cases hone : length n = 1
  · rw [hone]
    exact h
  · have hpos := length_pos n
    by_contra hlt
    have hle := (Nat.length_toDigits_le_iff (b := 10) (by decide) (by omega)).2 (not_le.1 hlt)
    unfold length at hle hpos hone
    omega

/-- The power of ten of the leading place is not above the quotient. -/
theorem pow_leadingPlace_le {num den : ℕ} (hnum : 0 < num) (hden : 0 < den) :
    (10 : ℚ) ^ leadingPlace num den ≤ num / den := by
  have hpos : (0 : ℚ) < den := by exact_mod_cast hden
  unfold leadingPlace
  split
  · rename_i hle
    have hwhole : 0 < num / den := Nat.div_pos hle hden
    have hlength := length_pos (num / den)
    have hexponent : (length (num / den) : ℤ) - 1 = (length (num / den) - 1 : ℕ) := by omega
    rw [hexponent, zpow_natCast]
    calc (10 : ℚ) ^ (length (num / den) - 1)
      _ ≤ (num / den : ℕ) := by exact_mod_cast pow_length_le hwhole
      _ ≤ num / den := Nat.cast_div_le
  · have hlt := lt_pow_length ((den + num - 1) / num - 1)
    generalize length ((den + num - 1) / num - 1) = places at hlt ⊢
    have hceil : (den + num - 1) / num < 10 ^ places + 1 := by omega
    rw [Nat.div_lt_iff_lt_mul hnum, Nat.add_mul, Nat.one_mul] at hceil
    have hden' : (den : ℚ) ≤ 10 ^ places * num := by
      have hnat : den ≤ 10 ^ places * num := by omega
      exact_mod_cast hnat
    rw [zpow_neg, zpow_natCast, inv_le_iff_one_le_mul₀ (by positivity), mul_comm, mul_div_assoc',
      le_div_iff₀ hpos, one_mul]
    exact hden'

/-! ## Neighbours -/

section Neighbours

variable {f : Format} {tie : Tie} {m : ℕ} {e place : ℤ}

/-- A quarter of a number's unit, in the scale that makes both it and a step of digits whole. -/
def quarter (e place : ℤ) : ℕ := Nat.pow 2 (e - 2).toNat * Nat.pow 10 (-place).toNat

/-- A step of the digits that end at a place, in the same scale. -/
def step (e place : ℤ) : ℕ := Nat.pow 10 place.toNat * Nat.pow 2 (2 - e).toNat

/-- Whether so many steps are in the interval of a number. -/
def isInside (f : Format) (m : ℕ) (e place : ℤ) (n : ℕ) : Bool :=
  let narrow := m = Nat.pow 2 (f.precision - 1) ∧ e ≠ f.minExponent
  let low := (if narrow then 4 * m - 1 else 4 * m - 2) * quarter e place
  let high := (4 * m + 2) * quarter e place
  let point := n * step e place
  if m % 2 = 0 then low ≤ point ∧ point ≤ high else low < point ∧ point < high

/-- The number of whole steps in a number. -/
def stepsBelow (m : ℕ) (e place : ℤ) : ℕ := 4 * m * quarter e place / step e place

theorem step_mul (e place : ℤ) :
    (step e place : ℚ) * 2 ^ (e - 2) = quarter e place * 10 ^ place := by
  have hneg : (-(e - 2)).toNat = (2 - e).toNat := by omega
  have hten : (10 : ℚ) ≠ 0 := by norm_num
  rw [zpow_eq_div_toNat two_ne_zero, zpow_eq_div_toNat hten, hneg]
  unfold step quarter
  push_cast [Nat.pow_eq]
  field_simp

theorem quarter_pos (e place : ℤ) : (0 : ℚ) < quarter e place := by
  exact_mod_cast Nat.mul_pos (Nat.two_pow_pos _) (Nat.pow_pos (by decide))

theorem step_pos (e place : ℤ) : 0 < step e place :=
  Nat.mul_pos (Nat.pow_pos (by decide)) (Nat.two_pow_pos _)

theorem steps_mul (n : ℕ) (e place : ℤ) :
    ((n * step e place : ℕ) : ℚ) * 2 ^ (e - 2) = n * 10 ^ place * quarter e place := by
  rw [Nat.cast_mul, mul_assoc, step_mul, mul_left_comm, mul_comm]

/-- Steps and quarters compare like the quantities that they stand for. -/
theorem steps_le_iff (n : ℕ) (bound : ℚ) (e place : ℤ) :
    ((n * step e place : ℕ) : ℚ) ≤ bound * quarter e place ↔
      n * 10 ^ place ≤ bound * 2 ^ (e - 2) := by
  have hpos : (0 : ℚ) < 2 ^ (e - 2) := by positivity
  rw [← mul_le_mul_iff_left₀ hpos, steps_mul, mul_right_comm bound,
    mul_le_mul_iff_left₀ (quarter_pos e place)]

theorem le_steps_iff (n : ℕ) (bound : ℚ) (e place : ℤ) :
    bound * quarter e place ≤ ((n * step e place : ℕ) : ℚ) ↔
      bound * 2 ^ (e - 2) ≤ n * 10 ^ place := by
  have hpos : (0 : ℚ) < 2 ^ (e - 2) := by positivity
  rw [← mul_le_mul_iff_left₀ hpos, steps_mul, mul_right_comm bound,
    mul_le_mul_iff_left₀ (quarter_pos e place)]

theorem lt_steps_iff (n : ℕ) (bound : ℚ) (e place : ℤ) :
    bound * quarter e place < ((n * step e place : ℕ) : ℚ) ↔
      bound * 2 ^ (e - 2) < n * 10 ^ place :=
  lt_iff_lt_of_le_iff_le (steps_le_iff n bound e place)

theorem steps_lt_iff (n : ℕ) (bound : ℚ) (e place : ℤ) :
    ((n * step e place : ℕ) : ℚ) < bound * quarter e place ↔
      n * 10 ^ place < bound * 2 ^ (e - 2) :=
  lt_iff_lt_of_le_iff_le (le_steps_iff n bound e place)

/-- The lower end of an interval as a whole number. -/
theorem cast_lowerQuarters (f : Format) (hm : 0 < m) (e : ℤ) :
    ((if m = Nat.pow 2 (f.precision - 1) ∧ e ≠ f.minExponent then 4 * m - 1 else 4 * m - 2 : ℕ) :
      ℚ) = lowerQuarters f m e := by
  unfold lowerQuarters
  simp only [Nat.pow_eq]
  split
  · rw [Nat.cast_sub (by omega)]
    push_cast
    rfl
  · rw [Nat.cast_sub (by omega)]
    push_cast
    rfl

theorem isInside_iff (f : Format) (hm : 0 < m) (e place : ℤ) (n : ℕ) :
    isInside f m e place n = true ↔ RoundsTo f m e (n * 10 ^ place) := by
  have hlow := cast_lowerQuarters f hm e
  unfold isInside RoundsTo
  dsimp only
  split
  · rw [decide_eq_true_iff, ← le_steps_iff, ← steps_le_iff, ← hlow]
    exact_mod_cast Iff.rfl
  · rw [decide_eq_true_iff, ← lt_steps_iff, ← steps_lt_iff, ← hlow]
    exact_mod_cast Iff.rfl

/-- A number lies between its whole steps and one more. -/
theorem stepsBelow_spec (m : ℕ) (e place : ℤ) :
    (stepsBelow m e place : ℚ) * 10 ^ place ≤ m * 2 ^ e ∧
      (m : ℚ) * 2 ^ e < (stepsBelow m e place + 1 : ℕ) * 10 ^ place := by
  have hvalue : (m : ℚ) * 2 ^ e = ((4 * m : ℕ) : ℚ) * 2 ^ (e - 2) := by
    rw [zpow_quarter e]
    push_cast
    ring
  rw [hvalue, ← steps_le_iff, ← lt_steps_iff]
  constructor
  · exact_mod_cast Nat.div_mul_le_self (4 * m * quarter e place) (step e place)
  · exact_mod_cast Nat.lt_mul_of_div_lt (Nat.lt_succ_self _) (step_pos e place)

/-- A neighbour that is chosen is inside. -/
theorem neighbour?_eq_some {n : ℕ} (h : neighbour? f tie m e place = some n) :
    isInside f m e place n = true ∧ stepsBelow m e place ≤ n := by
  have hnext : stepsBelow m e place ≤ stepsBelow m e place + 1 := Nat.le_succ _
  unfold neighbour? at h
  dsimp only at h
  split at h
  · cases h
  · rename_i hbelow _
    obtain rfl := Option.some.inj h
    exact ⟨hbelow, le_refl _⟩
  · rename_i _ habove
    obtain rfl := Option.some.inj h
    exact ⟨habove, hnext⟩
  · -- Both are inside, so whichever is chosen is.
    rename_i hbelow habove
    have hchosen : n = stepsBelow m e place ∨ n = stepsBelow m e place + 1 := by
      split at h
      · exact .inl (Option.some.inj h).symm
      · split at h
        · exact .inr (Option.some.inj h).symm
        · cases tie with
          | up => exact .inr (Option.some.inj h).symm
          | even =>
            rw [← Option.some.inj h]
            split
            · exact .inl rfl
            · exact .inr rfl
    obtain rfl | rfl := hchosen
    · exact ⟨hbelow, le_refl _⟩
    · exact ⟨habove, hnext⟩

/-- If no neighbour is chosen, none is inside. -/
theorem neighbour?_eq_none (h : neighbour? f tie m e place = none) :
    isInside f m e place (stepsBelow m e place) = false ∧
      isInside f m e place (stepsBelow m e place + 1) = false := by
  unfold neighbour? at h
  dsimp only at h
  split at h
  · rename_i hbelow habove
    exact ⟨hbelow, habove⟩
  · cases h
  · cases h
  · split at h
    · cases h
    · split at h
      · cases h
      · cases tie <;> cases h

end Neighbours

/-! ## Seventeen digits -/

/-- What is asked of a format for its numbers to have decimals of seventeen digits: sixteen digits
count further than its significands, and one is among its units. -/
structure HasDecimals (f : Format) : Prop where
  precision_pos : 0 < f.precision
  precision_le : 2 ^ f.precision ≤ 10 ^ 16
  minExponent_le : f.minExponent ≤ 0
  maxExponent_nonneg : 0 ≤ f.maxExponent

theorem hasDecimals_single : HasDecimals .single := ⟨by decide, by decide, by decide, by decide⟩

theorem hasDecimals_double : HasDecimals .double := ⟨by decide, by decide, by decide, by decide⟩

section Shortest

variable {f : Format} {m : ℕ} {e place : ℤ}

/-- The place of the leading digit of a number. -/
def leadOf (m : ℕ) (e : ℤ) : ℤ := leadingPlace (m * Nat.pow 2 e.toNat) (Nat.pow 2 (-e).toNat)

theorem pow_leadOf_le (hm : 0 < m) (e : ℤ) : (10 : ℚ) ^ leadOf m e ≤ m * 2 ^ e := by
  refine le_of_le_of_eq ?_ (cast_mul_pow_div two_ne_zero m e)
  exact pow_leadingPlace_le (Nat.mul_pos hm (Nat.two_pow_pos _)) (Nat.two_pow_pos _)

/-- Where a step is less than a unit, and not more than half of one at the least significand, one of
the neighbours is nearest to the number. -/
theorem isInside_of_step_lt (hm : 0 < m) (hstep : (10 : ℚ) ^ place < 2 ^ e)
    (hnarrow : m = 2 ^ (f.precision - 1) → 2 * (10 : ℚ) ^ place ≤ 2 ^ e) :
    isInside f m e place (stepsBelow m e place) = true ∨
      isInside f m e place (stepsBelow m e place + 1) = true := by
  obtain ⟨hbelow, habove⟩ := stepsBelow_spec m e place
  obtain ⟨-, hquarters⟩ := lowerQuarters_mem f m e
  have hpos : (0 : ℚ) < 2 ^ (e - 2) := by positivity
  rw [zpow_quarter e] at hbelow habove hstep hnarrow
  by_cases hlow : lowerQuarters f m e * 2 ^ (e - 2) < stepsBelow m e place * 10 ^ place
  · refine .inl ((isInside_iff f hm e place _).2 (roundsTo_of_lt hlow ?_))
    linarith
  · refine .inr ((isInside_iff f hm e place _).2 (roundsTo_of_lt ?_ ?_))
    · nlinarith
    · -- The step leads from below the interval to its other side, and is shorter than it.
      have hwidth : lowerQuarters f m e * 2 ^ (e - 2) + 10 ^ place < (4 * m + 2) * 2 ^ (e - 2) := by
        unfold lowerQuarters
        split
        · rename_i hleast
          linarith [hnarrow hleast.1]
        · linarith
      push_cast
      linarith

/-- Behind as many digits as the significands of the format have, one digit more is less than the
unit of a number. -/
theorem ten_pow_lt_unit (hprecision : 0 < f.precision) {count : ℕ}
    (hcount : 2 ^ f.precision ≤ 10 ^ count) (hm : 0 < m) (hlt : m < 2 ^ f.precision) :
    (10 : ℚ) ^ (leadOf m e - count) < 2 ^ e ∧
      (m = 2 ^ (f.precision - 1) → 2 * (10 : ℚ) ^ (leadOf m e - count) ≤ 2 ^ e) := by
  have hpos : (0 : ℚ) < 2 ^ e := by positivity
  have hlead := pow_leadOf_le hm e
  have hscale : (10 : ℚ) ^ leadOf m e = 10 ^ (leadOf m e - count) * 10 ^ count := by
    rw [← zpow_natCast, ← zpow_add₀ (by norm_num), sub_add_cancel]
  rw [hscale] at hlead
  have hcount' : (2 : ℚ) ^ f.precision ≤ 10 ^ count := by exact_mod_cast hcount
  constructor
  · have hlt' : (m : ℚ) < 2 ^ f.precision := by exact_mod_cast hlt
    nlinarith
  · intro hleast
    have hdouble : 2 * m = 2 ^ f.precision := by
      rw [hleast, ← pow_succ', Nat.sub_add_cancel hprecision]
    have hdouble' : 2 * (m : ℚ) = 2 ^ f.precision := by exact_mod_cast hdouble
    have hunits : 2 * (m : ℚ) * 2 ^ e ≤ 10 ^ count * 2 ^ e :=
      mul_le_mul_of_nonneg_right (hdouble'.trans_le hcount') hpos.le
    refine le_of_mul_le_mul_right ?_ (by positivity : (0 : ℚ) < 10 ^ count)
    linarith

theorem stepsBelow_pos (hm : 0 < m) (hplace : place ≤ leadOf m e) : 0 < stepsBelow m e place := by
  by_contra hzero
  obtain ⟨-, habove⟩ := stepsBelow_spec m e place
  have hle : (10 : ℚ) ^ place ≤ 10 ^ leadOf m e := zpow_le_zpow_right₀ (by norm_num) hplace
  rw [Nat.eq_zero_of_not_pos hzero, Nat.zero_add, Nat.cast_one, one_mul] at habove
  linarith [pow_leadOf_le hm e]

/-- What is tried for one count of digits. -/
def attempt (f : Format) (tie : Tie) (m : ℕ) (e : ℤ) (further : ℕ) : Option Scientific :=
  (neighbour? f tie m e (leadOf m e - further)).map fun n ↦ ⟨n, leadOf m e - further⟩

/-- What is found is positive and nearest to the number. -/
theorem attempt_spec {tie : Tie} (hm : 0 < m) {further : ℕ} {decimal : Scientific}
    (h : attempt f tie m e further = some decimal) :
    0 < decimal.significand ∧
      RoundsTo f m e (decimal.significand * 10 ^ decimal.exponent) := by
  obtain ⟨n, hneighbour, rfl⟩ := Option.map_eq_some_iff.1 h
  obtain ⟨hinside, hle⟩ := neighbour?_eq_some hneighbour
  have hpos : 0 < stepsBelow m e (leadOf m e - further) := stepsBelow_pos hm (by omega)
  exact ⟨lt_of_lt_of_le hpos hle, (isInside_iff f hm e _ _).1 hinside⟩

theorem attempt_ne_none (hprecision : 0 < f.precision) {count : ℕ}
    (hcount : 2 ^ f.precision ≤ 10 ^ count) (tie : Tie) (hm : 0 < m) (hlt : m < 2 ^ f.precision) :
    attempt f tie m e count ≠ none := by
  intro hnone
  obtain ⟨hbelow, habove⟩ := neighbour?_eq_none (Option.map_eq_none_iff.1 hnone)
  obtain ⟨hstep, hnarrow⟩ := ten_pow_lt_unit (e := e) hprecision hcount hm hlt
  obtain hinside | hinside := isInside_of_step_lt hm hstep hnarrow
  · rw [hinside] at hbelow
    cases hbelow
  · rw [hinside] at habove
    cases habove

/-- One of the counts of digits finds a decimal. -/
theorem findSome?_attempt_ne_none (hf : HasDecimals f) (tie : Tie) (hm : 0 < m)
    (hlt : m < 2 ^ f.precision) : digitCounts.findSome? (attempt f tie m e) ≠ none := by
  intro hnone
  have hlast : attempt f tie m e 16 = none := List.findSome?_eq_none_iff.1 hnone 16 (by decide)
  exact attempt_ne_none hf.precision_pos hf.precision_le tie hm hlt hlast

/-- The decimal chosen for a positive number is positive and nearest to it. -/
theorem shortest_spec (hf : HasDecimals f) (tie : Tie) (hm : 0 < m) (hlt : m < 2 ^ f.precision) :
    0 < (shortest f tie m e).significand ∧
      RoundsTo f m e
        ((shortest f tie m e).significand * 10 ^ (shortest f tie m e).exponent) := by
  obtain ⟨decimal, hfound⟩ := Option.ne_none_iff_exists'.1
    (findSome?_attempt_ne_none (e := e) hf tie hm hlt)
  obtain ⟨further, -, hattempt⟩ := List.exists_of_findSome?_eq_some hfound
  have hspec := attempt_spec hm hattempt
  unfold shortest
  dsimp only
  split
  · -- A carry into the leading digit only drops the zero behind it.
    rename_i place heq
    obtain rfl := Option.some.inj (hfound.symm.trans heq)
    refine ⟨Nat.one_pos, ?_⟩
    have hvalue : ((10 : ℕ) : ℚ) * 10 ^ place = (1 : ℕ) * 10 ^ (place + 1) := by
      rw [zpow_add_one₀ (by norm_num)]
      push_cast
      ring
    exact hvalue ▸ hspec.2
  · rename_i heq
    obtain rfl := Option.some.inj (hfound.symm.trans heq)
    exact hspec
  · rename_i heq
    cases hfound.symm.trans heq

end Shortest

end GpuCounters.Decimal
