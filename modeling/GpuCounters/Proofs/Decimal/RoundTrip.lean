import GpuCounters.Decimal.Layout
import GpuCounters.Decimal.Reading
import GpuCounters.Proofs.Decimal.Shortest
import Mathlib.Data.List.TakeWhile

/-!
# Plain digits read back

The plain digits of a number are digits around at most one point. They read as the shortest decimal
of the number, which lies in its interval, so the number nearest to them is the one that was
written. No datum shares its text with another one.
-/

namespace GpuCounters.Decimal

open Binary

/-! ## Digits -/

def IsDigits (text : List Char) : Prop := ∀ c ∈ text, c.isDigit = true

theorem isDigits_toDigits (n : ℕ) : IsDigits (Nat.toDigits 10 n) := fun _ hc ↦
  Nat.isDigit_of_mem_toDigits (by decide) (by decide) hc

theorem isDigits_replicate_zero (count : ℕ) : IsDigits (List.replicate count '0') := by
  intro c hc
  rw [List.eq_of_mem_replicate hc]
  rfl

theorem IsDigits.append {text more : List Char} (h : IsDigits text) (hmore : IsDigits more) :
    IsDigits (text ++ more) := by
  intro c hc
  obtain hc | hc := List.mem_append.1 hc
  · exact h c hc
  · exact hmore c hc

theorem IsDigits.of_subset {text more : List Char} (h : IsDigits more) (hsub : text ⊆ more) :
    IsDigits text := fun c hc ↦ h c (hsub hc)

theorem ofDigits_toDigits (n : ℕ) : ofDigits (Nat.toDigits 10 n) = n :=
  Nat.ofDigitChars_ten_toDigits

theorem ofDigits_append_zeros (digits : List Char) (count : ℕ) :
    ofDigits (digits ++ List.replicate count '0') = ofDigits digits * 10 ^ count := by
  change Nat.ofDigitChars 10 _ 0 = Nat.ofDigitChars 10 _ 0 * _
  rw [Nat.ofDigitChars_append, Nat.ofDigitChars_replicate_zero, Nat.mul_comm]

theorem ofDigits_zeros_append (count : ℕ) (digits : List Char) :
    ofDigits (List.replicate count '0' ++ digits) = ofDigits digits := by
  change Nat.ofDigitChars 10 _ 0 = Nat.ofDigitChars 10 _ 0
  rw [Nat.ofDigitChars_append, Nat.ofDigitChars_replicate_zero, Nat.mul_zero]

/-! ## Digits around a point -/

/-- Digits with a point before the fractional ones, if there are any. -/
def pointed (whole fraction : List Char) : List Char :=
  if fraction = [] then whole else whole ++ '.' :: fraction

theorem takeWhile_isDigit_append {digits : List Char} (h : IsDigits digits) {rest : List Char}
    (hrest : rest.takeWhile Char.isDigit = []) :
    (digits ++ rest).takeWhile Char.isDigit = digits := by
  rw [List.takeWhile_append_of_pos h, hrest, List.append_nil]

theorem readMagnitude?_pointed (negative : Bool) {whole fraction : List Char} (hne : whole ≠ [])
    (hwhole : IsDigits whole) (hfraction : IsDigits fraction) :
    readMagnitude? negative (pointed whole fraction) =
      some (.number negative (ofDigits (whole ++ fraction)) (-(fraction.length : ℤ))) := by
  have htakeFraction : fraction.takeWhile Char.isDigit = fraction :=
    List.takeWhile_eq_self_iff.2 hfraction
  have hdropFraction : fraction.dropWhile Char.isDigit = [] :=
    List.dropWhile_eq_nil_iff.2 hfraction
  unfold readMagnitude? pointed
  split
  · rename_i hnil
    have htake : whole.takeWhile Char.isDigit = whole := List.takeWhile_eq_self_iff.2 hwhole
    have hdrop : whole.dropWhile Char.isDigit = [] := List.dropWhile_eq_nil_iff.2 hwhole
    simp only [htake, hdrop, hnil]
    rw [if_neg fun h ↦ hne h.1]
  · have htake : (whole ++ '.' :: fraction).takeWhile Char.isDigit = whole :=
      takeWhile_isDigit_append hwhole rfl
    have hdrop : (whole ++ '.' :: fraction).dropWhile Char.isDigit = '.' :: fraction :=
      List.dropWhile_append_of_pos hwhole
    simp only [htake, hdrop, htakeFraction, hdropFraction]
    rw [if_neg fun h ↦ hne h.1]

/-! ## Signs -/

theorem ne_of_isDigit {c d : Char} (hc : c.isDigit = true) (hd : d.isDigit = false) : c ≠ d := by
  rintro rfl
  rw [hc] at hd
  cases hd

theorem toLower_of_isDigit {c : Char} (hc : c.isDigit = true) : c.toLower = c := by
  have hhigh : c.val ≤ '9'.val := by
    simp only [Char.isDigit, Bool.and_eq_true, decide_eq_true_eq] at hc
    exact hc.2
  unfold Char.toLower
  refine dif_neg fun h ↦ ?_
  exact absurd (UInt32.le_trans h.1 hhigh) (by decide)

/-- A text that starts with a digit is no word. -/
theorem word_ne_of_isDigit {c d : Char} (hc : c.isDigit = true) (hd : d.isDigit = false)
    (rest word : List Char) :
    String.ofList ((c :: rest).map Char.toLower) ≠ String.ofList (d :: word) := by
  intro heq
  have hlists := String.ofList_injective heq
  rw [List.map_cons, toLower_of_isDigit hc] at hlists
  exact ne_of_isDigit hc hd (List.cons.inj hlists).1

theorem not_infinity_of_isDigit {c : Char} (hc : c.isDigit = true) (rest : List Char) :
    ¬(String.ofList ((c :: rest).map Char.toLower) = "inf" ∨
      String.ofList ((c :: rest).map Char.toLower) = "infinity") := by
  rintro (h | h)
  · exact word_ne_of_isDigit hc (by decide) rest ['n', 'f'] h
  · exact word_ne_of_isDigit hc (by decide) rest ['n', 'f', 'i', 'n', 'i', 't', 'y'] h

theorem not_nan_of_isDigit {c : Char} (hc : c.isDigit = true) (rest : List Char) :
    String.ofList ((c :: rest).map Char.toLower) ≠ "nan" :=
  word_ne_of_isDigit hc (by decide) rest ['a', 'n']

/-- A text with a minus sign if it is negative. -/
def signed (negative : Bool) (magnitude : List Char) : List Char :=
  if negative then '-' :: magnitude else magnitude

theorem read?_signed (negative : Bool) {c : Char} (hc : c.isDigit = true) (rest : List Char) :
    read? (signed negative (c :: rest)) = readMagnitude? negative (c :: rest) := by
  have hinfinity := not_infinity_of_isDigit hc rest
  have hnan := not_nan_of_isDigit hc rest
  unfold read? signed
  cases negative with
  | true => exact (if_neg hinfinity).trans (if_neg hnan)
  | false =>
    split
    rename_i heq
    split at heq
    · rename_i hminus
      exact absurd (List.cons.inj hminus).1 (ne_of_isDigit hc (by decide))
    · rename_i hplus
      exact absurd (List.cons.inj hplus).1 (ne_of_isDigit hc (by decide))
    · obtain ⟨rfl, rfl⟩ := Prod.mk.inj heq
      exact (if_neg hinfinity).trans (if_neg hnan)

theorem read?_plus {c : Char} (hc : c.isDigit = true) (rest : List Char) :
    read? ('+' :: c :: rest) = readMagnitude? false (c :: rest) :=
  (if_neg (not_infinity_of_isDigit hc rest)).trans (if_neg (not_nan_of_isDigit hc rest))

/-- Digits around a point read as they stand. -/
theorem read?_pointed (negative : Bool) {whole fraction : List Char} (hne : whole ≠ [])
    (hwhole : IsDigits whole) (hfraction : IsDigits fraction) :
    read? (signed negative (pointed whole fraction)) =
      some (.number negative (ofDigits (whole ++ fraction)) (-(fraction.length : ℤ))) := by
  rw [← readMagnitude?_pointed negative hne hwhole hfraction]
  obtain ⟨c, rest, rfl⟩ := List.exists_cons_of_ne_nil hne
  have hc := hwhole c List.mem_cons_self
  unfold pointed
  split
  · exact read?_signed negative hc rest
  · exact read?_signed negative hc (rest ++ '.' :: fraction)

/-! ## Plain digits -/

/-- What a positive decimal is written as, with the quantity that the digits stand for. -/
theorem aroundPoint_eq_pointed (layout : Layout) (hmark : layout.wholeMark = []) (n : ℕ)
    (exponent : ℤ) :
    ∃ whole fraction, whole ≠ [] ∧ IsDigits whole ∧ IsDigits fraction ∧
      layout.aroundPoint (Nat.toDigits 10 n) exponent = pointed whole fraction ∧
      (ofDigits (whole ++ fraction) : ℚ) * 10 ^ (-(fraction.length : ℤ)) = n * 10 ^ exponent := by
  have hne : Nat.toDigits 10 n ≠ [] := Nat.toDigits_ne_nil
  have hdigits := isDigits_toDigits n
  have hvalue := ofDigits_toDigits n
  unfold Layout.aroundPoint
  generalize Nat.toDigits 10 n = digits at hne hdigits hvalue ⊢
  split
  · rename_i hwhole
    refine ⟨digits ++ List.replicate exponent.toNat '0', [], by simp [hne],
      hdigits.append (isDigits_replicate_zero _), fun _ hc ↦ absurd hc List.not_mem_nil, ?_, ?_⟩
    · rw [hmark, List.append_nil]
      rfl
    · have hexponent : (10 : ℚ) ^ exponent = 10 ^ exponent.toNat := by
        rw [← zpow_natCast, Int.toNat_of_nonneg hwhole]
      rw [List.append_nil, ofDigits_append_zeros, hvalue, hexponent]
      simp
  · rename_i hfractional
    have hexponent : -((-exponent).toNat : ℤ) = exponent := by omega
    dsimp only
    split
    · rename_i hlt
      refine ⟨digits.take (digits.length - (-exponent).toNat),
        digits.drop (digits.length - (-exponent).toNat), ?_,
        hdigits.of_subset (List.take_subset _ _), hdigits.of_subset (List.drop_subset _ _), ?_, ?_⟩
      · intro hnil
        have hlength := congrArg List.length hnil
        rw [List.length_take, List.length_nil] at hlength
        omega
      · refine (if_neg fun hnil ↦ ?_).symm
        have hlength := congrArg List.length hnil
        rw [List.length_drop, List.length_nil] at hlength
        omega
      · have hlength : (digits.drop (digits.length - (-exponent).toNat)).length =
            (-exponent).toNat := by
          rw [List.length_drop]
          omega
        rw [List.take_append_drop, hvalue, hlength, hexponent]
    · rename_i hle
      refine ⟨['0'], List.replicate ((-exponent).toNat - digits.length) '0' ++ digits,
        List.cons_ne_nil _ _, isDigits_replicate_zero 1,
        (isDigits_replicate_zero _).append hdigits, (if_neg (by simp [hne])).symm, ?_⟩
      have hlength : (List.replicate ((-exponent).toNat - digits.length) '0' ++ digits).length =
          (-exponent).toNat := by
        rw [List.length_append, List.length_replicate]
        omega
      have hzeros : ofDigits (['0'] ++
          (List.replicate ((-exponent).toNat - digits.length) '0' ++ digits)) = ofDigits digits :=
        (ofDigits_zeros_append 1 _).trans (ofDigits_zeros_append _ _)
      rw [hzeros, hvalue, hlength, hexponent]

/-! ## Numbers nearest to a decimal -/

/-- A decimal lies between the powers of ten around its leading digit. -/
theorem decimal_bounds {n : ℕ} (hn : 0 < n) (place : ℤ) :
    (10 : ℚ) ^ (place + length n - 1) ≤ n * 10 ^ place ∧
      (n : ℚ) * 10 ^ place < 10 ^ (place + length n) := by
  have hpos : (0 : ℚ) < 10 ^ place := by positivity
  have hlength := length_pos n
  have hlow : ((10 : ℕ) : ℚ) ^ (length n - 1) ≤ n := by exact_mod_cast pow_length_le hn
  have hhigh : (n : ℚ) < ((10 : ℕ) : ℚ) ^ length n := by exact_mod_cast lt_pow_length n
  constructor
  · have hexponent : place + length n - 1 = place + (length n - 1 : ℕ) := by omega
    rw [hexponent, zpow_add₀ (by norm_num), zpow_natCast, mul_comm]
    exact mul_le_mul_of_nonneg_right (by exact_mod_cast hlow) hpos.le
  · rw [zpow_add₀ (by norm_num), zpow_natCast, mul_comm]
    exact mul_lt_mul_of_pos_left (by exact_mod_cast hhigh) hpos

theorem two_zpow_le_ten_zpow {n : ℤ} (h : 0 ≤ n) : (2 : ℚ) ^ n ≤ 10 ^ n := by
  obtain ⟨k, rfl⟩ := Int.eq_ofNat_of_zero_le h
  rw [zpow_natCast, zpow_natCast]
  exact pow_le_pow_left₀ (by norm_num) (by norm_num) k

theorem ten_zpow_le_two_zpow {n : ℤ} (h : n ≤ 0) : (10 : ℚ) ^ n ≤ 2 ^ n := by
  have hinv := inv_anti₀ (by positivity) (two_zpow_le_ten_zpow (n := -n) (by omega))
  rwa [← zpow_neg, ← zpow_neg, Int.neg_neg] at hinv

section Nearest

variable {f : Format} {m : ℕ} {e : ℤ}

/-- A decimal in the interval of a number reads as that number: its leading digit is among the
places of the format. -/
theorem nearest_of_roundsTo (hf : HasDecimals f) (negative : Bool) {n : ℕ} (hn : 0 < n)
    {place : ℤ} (canonical : f.Canonical m e) (hm : 0 < m) (h : RoundsTo f m e (n * 10 ^ place)) :
    nearest f negative n place = .finite negative m e canonical := by
  obtain ⟨hlow, hhigh⟩ := decimal_bounds hn place
  have hmin := canonical.2.1
  have hmax := canonical.2.2.1
  have hfirst := hf.minExponent_le
  have hlast := hf.maxExponent_nonneg
  have hnotAbove : ¬f.maxExponent + f.precision + 1 < place + length n := by
    intro habove
    have hlt : (2 : ℚ) ^ (place + length n - 1) < 2 ^ (e + f.precision) :=
      calc (2 : ℚ) ^ (place + length n - 1)
        _ ≤ 10 ^ (place + length n - 1) := two_zpow_le_ten_zpow (by omega)
        _ ≤ n * 10 ^ place := hlow
        _ < 2 ^ (e + f.precision) := h.lt_pow canonical
    have hexponent := (zpow_lt_zpow_iff_right₀ one_lt_two).1 hlt
    omega
  have hnotBelow : ¬place + length n < f.minExponent := by
    intro hbelow
    have hlt : (2 : ℚ) ^ (e - 1) < 2 ^ (place + length n) :=
      calc (2 : ℚ) ^ (e - 1)
        _ ≤ n * 10 ^ place := h.pow_le hm
        _ < 10 ^ (place + length n) := hhigh
        _ ≤ 2 ^ (place + length n) := ten_zpow_le_two_zpow (by omega)
    have hexponent := (zpow_lt_zpow_iff_right₀ one_lt_two).1 hlt
    omega
  unfold nearest
  rw [if_neg hn.ne']
  dsimp only
  rw [if_neg hnotAbove, if_neg hnotBelow]
  refine ofRatio_of_roundsTo hf.precision_pos negative (Nat.mul_pos hn (Nat.pow_pos (by decide)))
    (Nat.pow_pos (by decide)) canonical ?_
  have hvalue : ((n * Nat.pow 10 place.toNat : ℕ) : ℚ) / (Nat.pow 10 (-place).toNat : ℕ) =
      n * 10 ^ place := cast_mul_pow_div (by decide) n place
  exact hvalue.symm ▸ h

/-- A number is written as digits around a point, and is the nearest one to them. -/
theorem exists_render_eq_pointed (hf : HasDecimals f) (negative : Bool)
    (canonical : f.Canonical m e) :
    ∃ whole fraction, whole ≠ [] ∧ IsDigits whole ∧ IsDigits fraction ∧
      plain.render (.finite negative m e canonical : Binary f) =
        signed negative (pointed whole fraction) ∧
      nearest f negative (ofDigits (whole ++ fraction)) (-(fraction.length : ℤ)) =
        .finite negative m e canonical := by
  by_cases hm : m = 0
  · subst hm
    refine ⟨['0'], [], List.cons_ne_nil _ _, isDigits_replicate_zero 1,
      isDigits_replicate_zero 0, rfl, ?_⟩
    exact zero_eq_finite negative canonical
  · have hpos : 0 < m := Nat.pos_of_ne_zero hm
    obtain ⟨hsignificand, hrounds⟩ := shortest_spec (e := e) hf plain.tie hpos canonical.1
    obtain ⟨whole, fraction, hne, hwhole, hfraction, htext, hvalue⟩ :=
      aroundPoint_eq_pointed plain rfl (shortest f plain.tie m e).significand
        (shortest f plain.tie m e).exponent
    refine ⟨whole, fraction, hne, hwhole, hfraction, ?_, ?_⟩
    · rw [← htext]
      exact congrArg (signed negative) (if_neg hm)
    · rw [← hvalue] at hrounds
      refine nearest_of_roundsTo hf negative ?_ canonical hpos hrounds
      have hpositive := (hrounds.pow_le hpos).trans_lt' (by positivity : (0 : ℚ) < 2 ^ (e - 1))
      exact_mod_cast pos_of_mul_pos_left hpositive (by positivity)

end Nearest

/-! ## Texts of data -/

/-- Plain digits are digits, a sign and a point, or the letters of a word. -/
theorem forall_mem_render {f : Format} (hf : HasDecimals f) (x : Binary f) {p : Char → Prop}
    (digits : ∀ c, c.isDigit = true → p c) (others : "-.NaNinf".toList.Forall p) :
    ∀ c ∈ plain.render x, p c := by
  rw [List.forall_iff_forall_mem] at others
  cases x with
  | nan =>
    have hword : "NaN".toList ⊆ "-.NaNinf".toList := by decide
    exact fun c hc ↦ others c (hword hc)
  | infinite negative =>
    have hword : ∀ minus : Bool,
        (if minus then "-inf".toList else "inf".toList) ⊆ "-.NaNinf".toList := by decide
    exact fun c hc ↦ others c (hword negative hc)
  | finite negative m e canonical =>
    obtain ⟨whole, fraction, -, hwhole, hfraction, htext, -⟩ :=
      exists_render_eq_pointed hf negative canonical
    have hpointed : ∀ c ∈ pointed whole fraction, p c := by
      intro c hc
      unfold pointed at hc
      split at hc
      · exact digits c (hwhole c hc)
      · obtain hc | hc := List.mem_append.1 hc
        · exact digits c (hwhole c hc)
        · obtain rfl | hc := List.mem_cons.1 hc
          · exact others '.' (by decide)
          · exact digits c (hfraction c hc)
    rw [htext, signed]
    split
    · exact List.forall_mem_cons.2 ⟨others '-' (by decide), hpointed⟩
    · exact hpointed

/-- Every datum is what its plain digits read as. -/
theorem toBinary_read?_render {f : Format} (hf : HasDecimals f) (x : Binary f) :
    (read? (plain.render x)).map (Reading.toBinary f) = some x := by
  cases x with
  | nan =>
    have hread : read? "NaN".toList = some .nan := by decide
    exact congrArg (Option.map (Reading.toBinary f)) hread
  | infinite negative =>
    have hread : ∀ minus : Bool,
        read? (if minus then "-inf".toList else "inf".toList) = some (.infinite minus) := by decide
    exact congrArg (Option.map (Reading.toBinary f)) (hread negative)
  | finite negative m e canonical =>
    obtain ⟨whole, fraction, hne, hwhole, hfraction, htext, hnearest⟩ :=
      exists_render_eq_pointed hf negative canonical
    rw [htext, read?_pointed negative hne hwhole hfraction, Option.map_some, Reading.toBinary,
      hnearest]

theorem readDouble?_render (x : Binary64) : readDouble? (plain.render x) = some x :=
  toBinary_read?_render hasDecimals_double x

end GpuCounters.Decimal
