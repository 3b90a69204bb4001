import GpuCounters.Proofs.Binary.Intervals
import GpuCounters.Proofs.Decimal.RoundTrip

/-!
# Digits shared by two precisions

The shortest decimal of a number ends in no zero, as the count of digits before would have found it
without. Of the decimals with few digits there is at most one in the interval of a number with all
digits of its format in use, so it is the shortest decimal of that number. The shortest decimals of
single precision have that few digits: read in double precision they are the shortest decimals of
what they are read as, whatever single that is nearest to.
-/

namespace GpuCounters.Decimal

open Binary

/-! ## Leading places -/

/-- The power of ten behind the leading place is above the quotient. -/
theorem lt_pow_leadingPlace {num den : ℕ} (hnum : 0 < num) (hden : 0 < den) :
    (num / den : ℚ) < 10 ^ (leadingPlace num den + 1) := by
  have hpos : (0 : ℚ) < den := by exact_mod_cast hden
  unfold leadingPlace
  split
  · have hlt := Nat.lt_mul_of_div_lt (lt_pow_length (num / den)) hden
    rw [sub_add_cancel, zpow_natCast, div_lt_iff₀ hpos]
    exact_mod_cast hlt
  · rename_i hlt
    have hceil : 1 < (den + num - 1) / num := by
      rw [← Nat.succ_le_iff, Nat.le_div_iff_mul_le hnum]
      omega
    have hplaces := length_pos ((den + num - 1) / num - 1)
    have hle := pow_length_le (Nat.sub_pos_of_lt hceil)
    generalize length ((den + num - 1) / num - 1) = places at hplaces hle ⊢
    have hcross : (10 ^ (places - 1) + 1) * num ≤ den + num - 1 :=
      (Nat.le_div_iff_mul_le hnum).1 (by omega)
    have hcross' : 10 ^ (places - 1) * num < den := by
      rw [Nat.add_mul, Nat.one_mul] at hcross
      omega
    have hexponent : -(places : ℤ) + 1 = -(places - 1 : ℕ) := by omega
    rw [hexponent, zpow_neg, zpow_natCast, div_lt_iff₀ hpos, inv_mul_eq_div,
      lt_div_iff₀ (by positivity), mul_comm]
    exact_mod_cast hcross'

section Shortest

variable {f : Format} {tie : Tie} {m : ℕ} {e : ℤ}

theorem lt_pow_leadOf (hm : 0 < m) (e : ℤ) : (m : ℚ) * 2 ^ e < 10 ^ (leadOf m e + 1) := by
  refine lt_of_eq_of_lt (cast_mul_pow_div two_ne_zero m e).symm ?_
  exact lt_pow_leadingPlace (Nat.mul_pos hm (Nat.two_pow_pos _)) (Nat.two_pow_pos _)

/-! ## Counts of digits -/

/-- A decimal in the interval of a number is found with the digits that it has. -/
theorem attempt_ne_none_of_roundsTo (hm : 0 < m) {n further : ℕ}
    (h : RoundsTo f m e (n * 10 ^ (leadOf m e - further))) :
    attempt f tie m e further ≠ none := by
  intro hnone
  obtain ⟨hbelow, habove⟩ := neighbour?_eq_none (Option.map_eq_none_iff.1 hnone)
  obtain ⟨hle, hlt⟩ := stepsBelow_spec m e (leadOf m e - further)
  generalize leadOf m e - further = place at h hbelow habove hle hlt
  have hpos : (0 : ℚ) < 10 ^ place := by positivity
  have hself := roundsTo_self f m e
  -- A neighbour of the number stands between it and the decimal.
  obtain hn | hn : n ≤ stepsBelow m e place ∨ stepsBelow m e place + 1 ≤ n := by omega
  · have hn' : (n : ℚ) ≤ stepsBelow m e place := by exact_mod_cast hn
    have hinside := h.convex hself (mul_le_mul_of_nonneg_right hn' hpos.le) hle
    rw [(isInside_iff f hm e place _).2 hinside] at hbelow
    cases hbelow
  · have hn' : ((stepsBelow m e place + 1 : ℕ) : ℚ) ≤ n := by exact_mod_cast hn
    have hinside := hself.convex h hlt.le (mul_le_mul_of_nonneg_right hn' hpos.le)
    rw [(isInside_iff f hm e place _).2 hinside] at habove
    cases habove

/-- A decimal without the zero that a carry leaves behind its first digit. -/
def Scientific.carried (n : ℕ) (place : ℤ) : Scientific :=
  if n = 10 then ⟨1, place + 1⟩ else ⟨n, place⟩

theorem exists_least_of_findSome?_range {α : Type} {g : ℕ → Option α} {count : ℕ} {found : α}
    (h : (List.range count).findSome? g = some found) :
    ∃ i, g i = some found ∧ ∀ j < i, g j = none := by
  obtain ⟨front, i, behind, hrange, hfound, hfront⟩ := List.findSome?_eq_some_iff.1 h
  rw [List.range_eq_range', List.range'_eq_append_iff] at hrange
  obtain ⟨split, -, rfl, hbehind⟩ := hrange
  obtain ⟨rfl, -⟩ := List.range'_eq_cons_iff.1 hbehind.symm
  refine ⟨_, hfound, fun j hj ↦ hfront j (List.mem_range'_1.2 (by omega))⟩

/-- The shortest decimal is found by the least count of digits that finds one. -/
theorem exists_shortest_eq_carried (hf : HasDecimals f) (tie : Tie) (hm : 0 < m)
    (hlt : m < 2 ^ f.precision) :
    ∃ further n : ℕ, 0 < n ∧ RoundsTo f m e (n * 10 ^ (leadOf m e - further)) ∧
      (∀ fewer < further, attempt f tie m e fewer = none) ∧
      shortest f tie m e = .carried n (leadOf m e - further) := by
  obtain ⟨decimal, hfound⟩ := Option.ne_none_iff_exists'.1
    (findSome?_attempt_ne_none (e := e) hf tie hm hlt)
  obtain ⟨further, hattempt, hfewer⟩ := exists_least_of_findSome?_range hfound
  obtain ⟨hn, hrounds⟩ := attempt_spec hm hattempt
  obtain ⟨n, -, rfl⟩ := Option.map_eq_some_iff.1 hattempt
  refine ⟨further, n, hn, hrounds, hfewer, ?_⟩
  unfold shortest Scientific.carried
  dsimp only
  split
  · rename_i heq
    obtain ⟨rfl, rfl⟩ := Scientific.mk.inj (Option.some.inj (hfound.symm.trans heq))
    rfl
  · rename_i hcarry heq
    obtain rfl := Option.some.inj (hfound.symm.trans heq)
    exact (if_neg fun hten ↦ hcarry (leadOf m e - further) (by rw [hten])).symm
  · rename_i heq
    cases hfound.symm.trans heq

/-- A decimal in the interval of a number is less than three halves of the next power of ten. -/
theorem lt_of_roundsTo_leadOf (hm : 0 < m) {n further : ℕ}
    (h : RoundsTo f m e (n * 10 ^ (leadOf m e - further))) : n < 15 * 10 ^ further := by
  have hpos : (0 : ℚ) < 10 ^ (leadOf m e - further) := by positivity
  have hlead : (10 : ℚ) ^ (leadOf m e + 1) = 10 * 10 ^ further * 10 ^ (leadOf m e - further) := by
    rw [mul_assoc, ← zpow_natCast, ← zpow_add₀ (by norm_num), ← zpow_one_add₀ (by norm_num)]
    congr 1
    omega
  have hupper := (h.halves hm).2
  have hnumber := lt_pow_leadOf hm e
  rw [hlead] at hnumber
  have hcast : (n : ℚ) < 15 * 10 ^ further := by
    refine lt_of_mul_lt_mul_right ?_ hpos.le
    linarith
  exact_mod_cast hcast

/-- The shortest decimal ends in no zero: without it, the decimal would have been found with fewer
digits. -/
theorem shortest_significand_mod (hf : HasDecimals f) (tie : Tie) (hm : 0 < m)
    (hlt : m < 2 ^ f.precision) : (shortest f tie m e).significand % 10 ≠ 0 := by
  obtain ⟨further, n, hn, hrounds, hfewer, hshortest⟩ :=
    exists_shortest_eq_carried (e := e) hf tie hm hlt
  have hsmall := lt_of_roundsTo_leadOf hm hrounds
  rw [hshortest, Scientific.carried]
  split
  · exact Nat.one_ne_zero
  · rename_i hten
    intro hzero
    obtain ⟨k, rfl⟩ := Nat.dvd_of_mod_eq_zero hzero
    cases further with
    | zero =>
      rw [pow_zero] at hsmall
      omega
    | succ fewer =>
      refine attempt_ne_none_of_roundsTo (n := k) hm ?_ (hfewer fewer (Nat.lt_succ_self fewer))
      have hvalue : ((10 * k : ℕ) : ℚ) * 10 ^ (leadOf m e - (fewer + 1 : ℕ)) =
          k * 10 ^ (leadOf m e - fewer) := by
        have hexponent : leadOf m e - fewer = leadOf m e - (fewer + 1 : ℕ) + 1 := by omega
        rw [hexponent, zpow_add_one₀ (by norm_num)]
        push_cast
        ring
      exact hvalue ▸ hrounds

/-- Digits that count as far as the significands of the format are enough, but for a carry. -/
theorem shortest_significand_lt (hf : HasDecimals f) {count : ℕ}
    (hcount : 2 ^ f.precision ≤ 10 ^ count) (tie : Tie) (hm : 0 < m) (hlt : m < 2 ^ f.precision) :
    (shortest f tie m e).significand < 15 * 10 ^ count := by
  obtain ⟨further, n, -, hrounds, hfewer, hshortest⟩ :=
    exists_shortest_eq_carried (e := e) hf tie hm hlt
  have hle : further ≤ count := by
    by_contra hmore
    exact attempt_ne_none hf.precision_pos hcount tie hm hlt (hfewer count (not_le.1 hmore))
  have hsmall := lt_of_roundsTo_leadOf hm hrounds
  have hpow : 10 ^ further ≤ 10 ^ count := Nat.pow_le_pow_right (by decide) hle
  rw [hshortest, Scientific.carried]
  split
  · have hone : 1 ≤ 10 ^ count := Nat.one_le_pow _ _ (by decide)
    dsimp only
    omega
  · exact hsmall.trans_le (Nat.mul_le_mul_left 15 hpow)

/-! ## Decimals with few digits -/

/-- A decimal in steps of a lower place. -/
theorem mul_zpow_eq_of_le {low place : ℤ} (h : low ≤ place) (n : ℕ) :
    (n : ℚ) * 10 ^ place = (n * 10 ^ (place - low).toNat : ℕ) * 10 ^ low := by
  have hplace : place = (place - low).toNat + low := by omega
  conv_lhs => rw [hplace, zpow_add₀ (by norm_num), zpow_natCast]
  push_cast
  ring

theorem eq_mul_pow_of_eq {low place : ℤ} (h : low ≤ place) {n k : ℕ}
    (heq : (k : ℚ) * 10 ^ low = n * 10 ^ place) : k = n * 10 ^ (place - low).toNat := by
  rw [mul_zpow_eq_of_le h] at heq
  exact_mod_cast mul_right_cancel₀ (by positivity) heq

/-- Where a step is more than the unit, one decimal at most is in the interval of a number. -/
theorem eq_of_roundsTo {place : ℤ} (hstep : (2 : ℚ) ^ e < 10 ^ place) {n k : ℕ}
    (hn : RoundsTo f m e (n * 10 ^ place)) (hk : RoundsTo f m e (k * 10 ^ place)) : n = k := by
  have hle : ∀ {n k : ℕ}, RoundsTo f m e (n * 10 ^ place) → RoundsTo f m e (k * 10 ^ place) →
      n ≤ k := by
    intro n k hn hk
    by_contra hlt
    have hnext : ((k + 1 : ℕ) : ℚ) ≤ n := by exact_mod_cast Nat.succ_le_of_lt (not_le.1 hlt)
    have hwidth := hk.le_add hn
    push_cast at hnext
    have hscaled := mul_le_mul_of_nonneg_right hnext (by positivity : (0 : ℚ) ≤ 10 ^ place)
    linarith
  exact le_antisymm (hle hn hk) (hle hk hn)

theorem unit_lt_ten_pow {count : ℕ} (hprecision : 10 ^ (count + 1) ≤ 2 ^ (f.precision - 1))
    (hfull : 2 ^ (f.precision - 1) ≤ m) : (2 : ℚ) ^ e < 10 ^ (leadOf m e - count) := by
  have hm : 0 < m := lt_of_lt_of_le (Nat.two_pow_pos _) hfull
  have hnumber := lt_pow_leadOf hm e
  have hlead : (10 : ℚ) ^ (leadOf m e + 1) = 10 ^ (leadOf m e - count) * 10 ^ (count + 1) := by
    rw [← zpow_natCast, ← zpow_add₀ (by norm_num)]
    congr 1
    push_cast
    ring
  have hdigits : ((10 ^ (count + 1) : ℕ) : ℚ) ≤ m := by exact_mod_cast hprecision.trans hfull
  have hunits := mul_le_mul_of_nonneg_right hdigits (by positivity : (0 : ℚ) ≤ 2 ^ e)
  rw [hlead] at hnumber
  push_cast at hunits
  refine lt_of_mul_lt_mul_right ?_ (by positivity : (0 : ℚ) ≤ 10 ^ (count + 1))
  linarith

/-- A decimal in the interval of a number has its last digit as many places behind the leading one
as it has digits, at most. -/
theorem leadOf_sub_le_of_roundsTo (hm : 0 < m) {count n : ℕ} {place : ℤ} (hn : n < 10 ^ count)
    (h : RoundsTo f m e (n * 10 ^ place)) : leadOf m e - count ≤ place := by
  by_contra hlt
  have hlower := (h.halves hm).1
  have hlead := pow_leadOf_le hm e
  have hcast : (n : ℚ) < 10 ^ count := by exact_mod_cast hn
  have hdecimal : (n : ℚ) * 10 ^ place < 10 ^ (count + place) := by
    rw [zpow_add₀ (by norm_num), zpow_natCast]
    exact mul_lt_mul_of_pos_right hcast (by positivity)
  have hless : (10 : ℚ) ^ (count + place) ≤ 10 ^ (leadOf m e - 1) :=
    zpow_le_zpow_right₀ (by norm_num) (by omega)
  have hten : (10 : ℚ) ^ leadOf m e = 10 * 10 ^ (leadOf m e - 1) := by
    rw [← zpow_one_add₀ (by norm_num)]
    congr 1
    omega
  have hpos : (0 : ℚ) < 10 ^ (leadOf m e - 1) := by positivity
  linarith

/-- A decimal that is not found before its last digit is found there. -/
theorem carried_of_le {n k : ℕ} {place low : ℤ} (hmod : n % 10 ≠ 0) (hle : place ≤ low)
    (heq : (k : ℚ) * 10 ^ low = n * 10 ^ place) : Scientific.carried k low = ⟨n, place⟩ := by
  have hshift := eq_mul_pow_of_eq hle heq.symm
  cases hzeros : (low - place).toNat with
  | zero =>
    rw [hzeros, pow_zero, mul_one] at hshift
    have hsame : low = place := by omega
    rw [Scientific.carried, if_neg (by omega), hshift, hsame]
  | succ zeros =>
    rw [hzeros, pow_succ, ← mul_assoc] at hshift
    exact absurd (hshift ▸ Nat.mul_mod_left _ 10) hmod

/-- A decimal behind the leading place is the power of ten there, found with the first digit by a
carry. -/
theorem carried_of_lead_lt (hm : 0 < m) {n k further : ℕ} {place : ℤ} (hn : 0 < n)
    (hgt : leadOf m e < place) (h : RoundsTo f m e (n * 10 ^ place))
    (hfewer : ∀ fewer < further, attempt f tie m e fewer = none)
    (heq : (k : ℚ) * 10 ^ (leadOf m e - further) = n * 10 ^ place) :
    Scientific.carried k (leadOf m e - further) = ⟨n, place⟩ := by
  have hrounds : RoundsTo f m e
      ((n * 10 ^ (place - leadOf m e).toNat : ℕ) * 10 ^ (leadOf m e - (0 : ℕ))) := by
    rw [Nat.cast_zero, sub_zero, ← mul_zpow_eq_of_le hgt.le]
    exact h
  have hsmall := lt_of_roundsTo_leadOf hm hrounds
  have hfirst : further = 0 := by
    by_contra hne
    exact attempt_ne_none_of_roundsTo hm hrounds (hfewer 0 (Nat.pos_of_ne_zero hne))
  subst hfirst
  rw [Nat.cast_zero, sub_zero] at heq ⊢
  have hshift := eq_mul_pow_of_eq hgt.le heq
  obtain ⟨zeros, hzeros⟩ : ∃ zeros, (place - leadOf m e).toNat = zeros + 1 :=
    ⟨(place - leadOf m e).toNat - 1, by omega⟩
  rw [hzeros, pow_succ, ← mul_assoc] at hshift hsmall
  have hone : n * 10 ^ zeros = 1 := by
    have hpos : 0 < n * 10 ^ zeros := Nat.mul_pos hn (Nat.pow_pos (by decide))
    rw [pow_zero] at hsmall
    omega
  have hnone : zeros = 0 := by
    by_contra hne
    exact absurd (Nat.eq_one_of_mul_eq_one_left hone) (Nat.one_lt_pow hne (by decide)).ne'
  have hten : k = 10 := by omega
  have hlast : leadOf m e + 1 = place := by omega
  rw [Scientific.carried, if_pos hten, hlast, Nat.eq_one_of_mul_eq_one_right hone]

/-- A decimal with few digits and no zero at its end is the shortest one of each number that it is
nearest to and that uses all digits of its format. -/
theorem shortest_eq_of_roundsTo (hf : HasDecimals f) {count : ℕ}
    (hprecision : 10 ^ (count + 1) ≤ 2 ^ (f.precision - 1)) (tie : Tie)
    (hfull : 2 ^ (f.precision - 1) ≤ m) (hlt : m < 2 ^ f.precision) {n : ℕ} {place : ℤ}
    (hn : n < 10 ^ count) (hmod : n % 10 ≠ 0) (h : RoundsTo f m e (n * 10 ^ place)) :
    shortest f tie m e = ⟨n, place⟩ := by
  have hm : 0 < m := lt_of_lt_of_le (Nat.two_pow_pos _) hfull
  have hplace := leadOf_sub_le_of_roundsTo hm hn h
  have hgrid := mul_zpow_eq_of_le hplace n ▸ h
  obtain ⟨further, k, -, hk, hfewer, hshortest⟩ :=
    exists_shortest_eq_carried (e := e) hf tie hm hlt
  have hfurther : further ≤ count := by
    by_contra hmore
    exact attempt_ne_none_of_roundsTo hm hgrid (hfewer count (not_le.1 hmore))
  have hlow : leadOf m e - count ≤ leadOf m e - further := by omega
  rw [mul_zpow_eq_of_le hlow] at hk
  have heq : (k : ℚ) * 10 ^ (leadOf m e - further) = n * 10 ^ place := by
    rw [mul_zpow_eq_of_le hplace, mul_zpow_eq_of_le hlow,
      eq_of_roundsTo (unit_lt_ten_pow hprecision hfull) hk hgrid]
  rw [hshortest]
  obtain hle | hgt := le_or_gt place (leadOf m e - further)
  · exact carried_of_le hmod hle heq
  · obtain hbelow | habove := le_or_gt place (leadOf m e)
    · -- Fewer digits would have found the decimal as it stands.
      have hcount : place = leadOf m e - (leadOf m e - place).toNat := by omega
      rw [hcount] at h
      exact absurd (hfewer _ (by omega)) (attempt_ne_none_of_roundsTo hm h)
    · exact carried_of_lead_lt hm (by omega) habove h hfewer heq

end Shortest

/-! ## Single precision read in double -/

/-- Every decimal of a positive number of single precision is nearest to a number that uses all
digits of double precision. -/
theorem exists_double_of_roundsTo {m : ℕ} {e : ℤ} (canonical : Format.single.Canonical m e)
    (hm : 0 < m) {n : ℕ} (hn : 0 < n) {place : ℤ} (h : RoundsTo .single m e (n * 10 ^ place)) :
    ∃ k unit, Format.double.Canonical k unit ∧ 2 ^ (Format.double.precision - 1) ≤ k ∧
      RoundsTo .double k unit (n * 10 ^ place) := by
  have hvalue : ((n * Nat.pow 10 place.toNat : ℕ) : ℚ) / (Nat.pow 10 (-place).toNat : ℕ) =
      n * 10 ^ place := cast_mul_pow_div (by decide) n place
  have hmin : Format.single.minExponent ≤ e := canonical.2.1
  have hmax : e ≤ Format.single.maxExponent := canonical.2.2.1
  have hlow : (2 : ℚ) ^ (Format.double.minExponent + Format.double.precision) ≤ n * 10 ^ place :=
    (zpow_le_zpow_right₀ one_le_two (by
      have hunits : Format.double.minExponent + Format.double.precision ≤
        Format.single.minExponent - 1 := by decide
      omega)).trans (h.pow_le hm)
  have hhigh : (n * 10 ^ place : ℚ) <
      2 ^ (Format.double.maxExponent + Format.double.precision - 1) :=
    (h.lt_pow canonical).trans_le (zpow_le_zpow_right₀ one_le_two (by
      have hunits : Format.single.maxExponent + Format.single.precision ≤
        Format.double.maxExponent + Format.double.precision - 1 := by decide
      omega))
  rw [← hvalue] at hlow hhigh ⊢
  exact exists_roundsTo (by decide) (Nat.mul_pos hn (Nat.pow_pos (by decide)))
    (Nat.pow_pos (by decide)) hlow hhigh

/-- Every text of single precision is one of double precision. -/
theorem exists_render_eq (x : Binary32) : ∃ y : Binary64, plain.render y = plain.render x := by
  cases x with
  | nan => exact ⟨.nan, rfl⟩
  | infinite negative => exact ⟨.infinite negative, rfl⟩
  | finite negative m e canonical =>
    by_cases hm : m = 0
    · subst hm
      refine ⟨.finite negative 0 Format.double.minExponent (by decide),
        congrArg (signed negative) ?_⟩
      rw [if_pos rfl, if_pos rfl]
    · have hpos : 0 < m := Nat.pos_of_ne_zero hm
      have hmod := shortest_significand_mod (e := e) hasDecimals_single plain.tie hpos canonical.1
      have hsmall : (shortest .single plain.tie m e).significand < 15 * 10 ^ 8 :=
        shortest_significand_lt hasDecimals_single (by decide) plain.tie hpos canonical.1
      obtain ⟨hsignificand, hrounds⟩ :=
        shortest_spec (e := e) hasDecimals_single plain.tie hpos canonical.1
      obtain ⟨k, unit, hcanonical, hfull, hdouble⟩ :=
        exists_double_of_roundsTo canonical hpos hsignificand hrounds
      have hdigits : 10 ^ (14 + 1) ≤ 2 ^ (Format.double.precision - 1) := by decide
      have hshortest : shortest .double plain.tie k unit = shortest .single plain.tie m e :=
        shortest_eq_of_roundsTo hasDecimals_double hdigits plain.tie hfull hcanonical.1
          (hsmall.trans (by decide)) hmod hdouble
      have hk : k ≠ 0 := (lt_of_lt_of_le (Nat.two_pow_pos _) hfull).ne'
      refine ⟨.finite negative k unit hcanonical, congrArg (signed negative) ?_⟩
      rw [if_neg hk, if_neg hm, hshortest]

/-- A single that rounding twice takes for its neighbour keeps its text all the same. -/
example : (readDouble? (plain.render (.ofBits .single 0x15ae43fd : Binary32))).map plain.render =
    some (plain.render (.ofBits .single 0x15ae43fd : Binary32)) := by
  decide +kernel

end GpuCounters.Decimal
