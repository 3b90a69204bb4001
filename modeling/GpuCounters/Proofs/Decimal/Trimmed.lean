import GpuCounters.Decimal.Integer
import GpuCounters.Proofs.Decimal.Fixed
import GpuCounters.Proofs.Decimal.Numerals
import GpuCounters.Proofs.Decimal.RoundTrip
import GpuCounters.Proofs.Decimal.Rounded
import Mathlib.Algebra.Order.Floor.Semifield
import Mathlib.Data.Rat.Floor

/-!
# Fixed places without trailing zeros

A number with fixed places loses the zeros at the end of its fraction, and the point if nothing is
left behind it. There always is a point, so no zero of the whole part is lost, and what is left
still denotes the rounded quantity.
-/

namespace GpuCounters.Decimal

/-! ## Texts of rounded quantities -/

/-- Whether a text is that of a quantity rounded to at most so many places, with every digit of the
whole part and nothing superfluous. -/
structure IsTrimmed (places : ℕ) (q : ℚ) (text : List Char) : Prop where
  /-- The text says the rounded quantity in digits around at most one point, behind a minus sign if
  the quantity is negative. -/
  denotes : ∃ rounded fraction, IsRounded places q rounded ∧
    (read? text).bind Reading.toRat? = some rounded ∧
    IsDigits fraction ∧ fraction.length ≤ places ∧
    text = signed (q < 0) (pointed (Nat.toDigits 10 ⌊|rounded|⌋₊) fraction)
  /-- There is no exponent. -/
  exponentless : 'e' ∉ text ∧ 'E' ∉ text
  /-- There is no point without a digit behind it. -/
  point : text.getLast? ≠ some '.'
  /-- A fraction has no zero at its end. -/
  zero : '.' ∈ text → text.getLast? ≠ some '0'
  /-- A whole number keeps all its digits, whatever its size. -/
  whole : ∀ n : ℤ, q = n → text = (toString n).toList

/-! ## Signs and points -/

section Pointed

variable {whole fraction : List Char}

theorem signed_append (negative : Bool) (front rest : List Char) :
    signed negative (front ++ rest) = signed negative front ++ rest := by
  cases negative <;> rfl

theorem signed_pointed (negative : Bool) (whole fraction : List Char) :
    signed negative (pointed whole fraction) = pointed (signed negative whole) fraction := by
  unfold pointed
  split
  · rfl
  · exact signed_append negative whole ('.' :: fraction)

theorem toList_toString_int (n : ℤ) :
    (toString n).toList = signed (n < 0) (Nat.toDigits 10 n.natAbs) := by
  by_cases hnegative : n < 0
  · obtain ⟨m, rfl⟩ : ∃ m : ℕ, n = -(m : ℤ) := ⟨n.natAbs, by omega⟩
    rw [toList_toString_neg (by omega), Int.natAbs_neg, Int.natAbs_natCast,
      decide_eq_true hnegative]
    rfl
  · obtain ⟨m, rfl⟩ := Int.eq_ofNat_of_zero_le (Int.not_lt.1 hnegative)
    rw [toList_toString_natCast, Int.natAbs_natCast, decide_eq_false hnegative]
    rfl

theorem notMem_signed {c : Char} (hc : c.isDigit = false) (hminus : c ≠ '-') (negative : Bool)
    (hwhole : IsDigits whole) : c ∉ signed negative whole := by
  have hdigits : c ∉ whole := fun hmem ↦ ne_of_isDigit (hwhole c hmem) hc rfl
  cases negative with
  | false => exact hdigits
  | true => exact List.not_mem_cons_of_ne_of_not_mem hminus hdigits

theorem notMem_pointed {c : Char} (hc : c.isDigit = false) (hpoint : c ≠ '.')
    (hwhole : c ∉ whole) (hfraction : IsDigits fraction) : c ∉ pointed whole fraction := by
  have hdigits : c ∉ fraction := fun hmem ↦ ne_of_isDigit (hfraction c hmem) hc rfl
  unfold pointed
  split
  · exact hwhole
  · simp [hwhole, hpoint, hdigits]

theorem getLast?_signed (negative : Bool) (hne : whole ≠ []) :
    (signed negative whole).getLast? = whole.getLast? := by
  cases negative with
  | false => rfl
  | true => exact List.getLast?_cons_of_ne_nil hne

theorem getLast?_pointed_of_ne_nil (hne : fraction ≠ []) :
    (pointed whole fraction).getLast? = fraction.getLast? := by
  rw [pointed, if_neg hne, List.getLast?_append_of_ne_nil _ (List.cons_ne_nil _ _),
    List.getLast?_cons_of_ne_nil hne]

theorem IsDigits.getLast?_ne {digits : List Char} (h : IsDigits digits) {c : Char}
    (hc : c.isDigit = false) : digits.getLast? ≠ some c := fun hlast ↦
  ne_of_isDigit (h c (List.mem_of_getLast? hlast)) hc rfl

/-- Zeros are dropped behind the point, and then the point if it is the last character. -/
theorem dropTrailing_point (hwhole : '.' ∉ whole) (hfraction : IsDigits fraction) :
    dropTrailing '.' (dropTrailing '0' (whole ++ '.' :: fraction)) =
      pointed whole (dropTrailing '0' fraction) := by
  have hkept : '.' ∉ dropTrailing '0' fraction := fun hmem ↦
    ne_of_isDigit (hfraction '.' (dropTrailing_subset _ _ hmem)) (by decide) rfl
  rw [dropTrailing_append_cons (by decide), pointed]
  generalize dropTrailing '0' fraction = kept at hkept ⊢
  cases kept with
  | nil =>
    rw [if_pos rfl, dropTrailing_eq_rdropWhile, List.rdropWhile_concat_pos _ _ _ (by decide),
      ← dropTrailing_eq_rdropWhile, dropTrailing_of_notMem hwhole]
  | cons digit kept =>
    have hdigit : digit ≠ '.' := (List.ne_of_not_mem_cons hkept).symm
    have hrest : '.' ∉ kept := List.not_mem_of_not_mem_cons hkept
    rw [if_neg (List.cons_ne_nil _ _), ← List.singleton_append, ← List.append_assoc,
      dropTrailing_append_cons hdigit, dropTrailing_of_notMem hrest]

end Pointed

/-! ## Counts of steps -/

/-- The digits behind the point of a count of steps. -/
def fractionDigits (places count : ℕ) : List Char :=
  padZeros places (Nat.toDigits 10 (count % Nat.pow 10 places))

/-- A count of steps with the point set before its last `places` digits, less the zeros at the end
of its fraction. -/
def trimmed (places count : ℕ) : List Char :=
  pointed (Nat.toDigits 10 (count / Nat.pow 10 places))
    (dropTrailing '0' (fractionDigits places count))

section Steps

variable {places count : ℕ}

theorem isDigits_fractionDigits (places count : ℕ) : IsDigits (fractionDigits places count) :=
  (isDigits_replicate_zero _).append (isDigits_toDigits _)

theorem isDigits_kept (places count : ℕ) :
    IsDigits (dropTrailing '0' (fractionDigits places count)) :=
  (isDigits_fractionDigits places count).of_subset (dropTrailing_subset _ _)

theorem length_fractionDigits (hplaces : 0 < places) (count : ℕ) :
    (fractionDigits places count).length = places := by
  have hle : (Nat.toDigits 10 (count % Nat.pow 10 places)).length ≤ places :=
    (Nat.length_toDigits_le_iff (by decide) hplaces).2
      (Nat.mod_lt count (Nat.pow_pos (by decide)))
  rw [fractionDigits, padZeros, List.length_append, List.length_replicate]
  omega

/-- The digits in front of the point and all digits behind it are those of the count. -/
theorem ofDigits_fractionDigits (hplaces : 0 < places) (count : ℕ) :
    ofDigits (Nat.toDigits 10 (count / Nat.pow 10 places) ++ fractionDigits places count) =
      count := by
  have hlength := length_fractionDigits hplaces count
  have hfraction : ofDigits (fractionDigits places count) = count % Nat.pow 10 places :=
    (ofDigits_zeros_append _ _).trans (ofDigits_toDigits _)
  have hwhole := ofDigits_toDigits (count / Nat.pow 10 places)
  change Nat.ofDigitChars 10 _ 0 = _ at hfraction hwhole ⊢
  rw [Nat.ofDigitChars_append, hwhole, Nat.ofDigitChars_eq_ofDigitChars_zero, hfraction, hlength]
  exact Nat.div_add_mod count (Nat.pow 10 places)

/-- What is left of the digits says as much as all of them. -/
theorem ofDigits_kept (hplaces : 0 < places) (count : ℕ) :
    (dropTrailing '0' (fractionDigits places count)).length ≤ places ∧
      (ofDigits (Nat.toDigits 10 (count / Nat.pow 10 places) ++
        dropTrailing '0' (fractionDigits places count)) : ℚ) *
          10 ^ (-((dropTrailing '0' (fractionDigits places count)).length : ℤ)) =
        count / 10 ^ places := by
  obtain ⟨zeros, hzeros⟩ := exists_dropTrailing_append '0' (fractionDigits places count)
  have hlength := length_fractionDigits hplaces count
  have hcount := ofDigits_fractionDigits hplaces count
  generalize dropTrailing '0' (fractionDigits places count) = kept at hzeros ⊢
  rw [← hzeros, List.length_append, List.length_replicate] at hlength
  rw [← hzeros, ← List.append_assoc, ofDigits_append_zeros] at hcount
  refine ⟨by omega, ?_⟩
  have hpos : ∀ n : ℕ, (10 : ℚ) ^ n ≠ 0 := fun n ↦ by positivity
  have hscaled : (count : ℚ) =
      ofDigits (Nat.toDigits 10 (count / Nat.pow 10 places) ++ kept) * 10 ^ zeros := by
    exact_mod_cast hcount.symm
  rw [hscaled, ← hlength, pow_add, zpow_neg, zpow_natCast, mul_div_mul_right _ _ (hpos zeros)]
  rfl

/-- A whole number of units is written without a fraction. -/
theorem trimmed_mul (places n : ℕ) : trimmed places (n * 10 ^ places) = Nat.toDigits 10 n := by
  have hpos : 0 < 10 ^ places := Nat.pow_pos (by decide)
  have hzeros : dropTrailing '0' (fractionDigits places (n * 10 ^ places)) = [] := by
    rw [dropTrailing_eq_rdropWhile, List.rdropWhile_eq_nil_iff, fractionDigits, Nat.pow_eq,
      Nat.mul_mod_left]
    intro c hc
    obtain hc | hc := List.mem_append.1 hc
    · exact decide_eq_true (List.eq_of_mem_replicate hc)
    · exact decide_eq_true (List.mem_singleton.1 hc)
  rw [trimmed, hzeros, pointed, if_pos rfl, Nat.pow_eq, Nat.mul_div_cancel n hpos]

end Steps

/-! ## Rounded quantities -/

section Rounded

variable {places count : ℕ} {q : ℚ}

theorem toRat?_read?_trimmed (hplaces : 0 < places) (negative : Bool) (count : ℕ) :
    (read? (signed negative (trimmed places count))).bind Reading.toRat? =
      some (withSign negative (count / 10 ^ places)) := by
  rw [trimmed, read?_pointed negative Nat.toDigits_ne_nil (isDigits_toDigits _)
    (isDigits_kept places count), Option.bind_some, Reading.toRat?,
    (ofDigits_kept hplaces count).2]

theorem floor_abs_withSign (negative : Bool) (places count : ℕ) :
    ⌊|withSign negative ((count : ℚ) / 10 ^ places)|⌋₊ = count / Nat.pow 10 places := by
  have hquotient : (count : ℚ) / 10 ^ places = count / (Nat.pow 10 places : ℕ) := by
    push_cast [Nat.pow_eq]
    rfl
  rw [abs_withSign negative (by positivity), hquotient, Nat.floor_div_eq_div]

theorem getLast?_trimmed_ne_point (negative : Bool) (places count : ℕ) :
    (signed negative (trimmed places count)).getLast? ≠ some '.' := by
  have hkept := isDigits_kept places count
  rw [trimmed, signed_pointed]
  generalize dropTrailing '0' (fractionDigits places count) = kept at hkept ⊢
  by_cases hne : kept = []
  · rw [hne, pointed, if_pos rfl, getLast?_signed negative Nat.toDigits_ne_nil]
    exact (isDigits_toDigits _).getLast?_ne (by decide)
  · rw [getLast?_pointed_of_ne_nil hne]
    exact hkept.getLast?_ne (by decide)

theorem getLast?_trimmed_ne_zero {negative : Bool}
    (h : '.' ∈ signed negative (trimmed places count)) :
    (signed negative (trimmed places count)).getLast? ≠ some '0' := by
  have hlast := getLast?_dropTrailing_ne '0' (fractionDigits places count)
  rw [trimmed, signed_pointed] at h ⊢
  generalize dropTrailing '0' (fractionDigits places count) = kept at hlast h ⊢
  by_cases hne : kept = []
  · rw [hne, pointed, if_pos rfl] at h
    exact absurd h (notMem_signed (by decide) (by decide) negative (isDigits_toDigits _))
  · rwa [getLast?_pointed_of_ne_nil hne]

theorem abs_intCast_mul (places : ℕ) (n : ℤ) :
    |(n : ℚ)| * 10 ^ places = ((n.natAbs * 10 ^ places : ℕ) : ℚ) := by
  push_cast [Nat.cast_natAbs]
  rfl

/-- The steps nearest to a whole number are its units. -/
theorem signed_trimmed_intCast {n : ℤ} (h : IsNearest count (|(n : ℚ)| * 10 ^ places)) :
    signed ((n : ℚ) < 0) (trimmed places count) = (toString n).toList := by
  rw [abs_intCast_mul, isNearest_natCast_iff] at h
  rw [h, trimmed_mul, toList_toString_int]
  simp only [Int.cast_lt_zero]

/-- The steps nearest to the magnitude of a quantity are a trimmed text of the quantity, behind its
sign. -/
theorem isTrimmed_of_isNearest (hplaces : 0 < places)
    (h : IsNearest count (|q| * 10 ^ places)) :
    IsTrimmed places q (signed (q < 0) (trimmed places count)) where
  denotes := by
    refine ⟨withSign (q < 0) (count / 10 ^ places),
      dropTrailing '0' (fractionDigits places count), (isRounded_of_isNearest h).withSign,
      toRat?_read?_trimmed hplaces _ count, isDigits_kept places count,
      (ofDigits_kept hplaces count).1, ?_⟩
    rw [floor_abs_withSign, trimmed]
  exponentless := by
    have hletter : ∀ c : Char, c.isDigit = false → c ≠ '-' → c ≠ '.' →
        c ∉ signed (q < 0) (trimmed places count) := by
      intro c hc hminus hpoint
      rw [trimmed, signed_pointed]
      exact notMem_pointed hc hpoint (notMem_signed hc hminus _ (isDigits_toDigits _))
        (isDigits_kept places count)
    exact ⟨hletter 'e' (by decide) (by decide) (by decide),
      hletter 'E' (by decide) (by decide) (by decide)⟩
  point := getLast?_trimmed_ne_point _ places count
  zero := getLast?_trimmed_ne_zero
  whole := by
    rintro n rfl
    exact signed_trimmed_intCast h

theorem isTrimmed_toString (hplaces : 0 < places) (n : ℤ) :
    IsTrimmed places n (toString n).toList := by
  have hnearest : IsNearest (n.natAbs * 10 ^ places) (|(n : ℚ)| * 10 ^ places) := by
    rw [abs_intCast_mul, isNearest_natCast_iff]
  rw [← signed_trimmed_intCast hnearest]
  exact isTrimmed_of_isNearest hplaces hnearest

/-- A number with fixed places, other than negative zero, is the steps nearest to its magnitude
behind the sign of its quantity. -/
theorem exists_dropTrailing_fixed_eq {f : Binary.Format} {x : Binary f} (hzero : x ≠ .zero true)
    (h : x.toRat? = some q) (places : ℕ) :
    ∃ count, IsNearest count (|q| * 10 ^ places) ∧
      dropTrailing '.' (dropTrailing '0' (fixed places x)) =
        signed (q < 0) (trimmed places count) := by
  cases x with
  | nan => cases h
  | infinite negative => cases h
  | finite negative m e canonical =>
    obtain rfl : withSign negative (m * 2 ^ e) = q := Option.some.inj h
    have htext : fixed places (.finite negative m e canonical : Binary f) =
        signed negative (Nat.toDigits 10 (steps places m e / Nat.pow 10 places)) ++
          '.' :: fractionDigits places (steps places m e) :=
      signed_append negative _ _
    refine ⟨steps places m e, ?_, ?_⟩
    · rw [abs_withSign negative (by positivity)]
      exact isNearest_steps places m e
    · rw [htext, dropTrailing_point (notMem_signed (by decide) (by decide) negative
        (isDigits_toDigits _)) (isDigits_fractionDigits _ _), Binary.decide_withSign_lt_zero hzero,
        trimmed, signed_pointed]

end Rounded

end GpuCounters.Decimal
