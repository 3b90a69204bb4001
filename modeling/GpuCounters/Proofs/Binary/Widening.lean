import GpuCounters.Proofs.Binary.Nearest

/-!
# Numbers in a wider format

A format with more digits and further units has every number of a narrower one, so a datum that is
widened and narrowed again is what it was.
-/

namespace GpuCounters.Binary

/-- Whether a format has room for the numbers of another one, each with all digits of the wide
format in use. -/
structure Format.Widens (narrow wide : Format) : Prop where
  precision_pos : 0 < narrow.precision
  precision_le : narrow.precision ≤ wide.precision
  minExponent_le : wide.minExponent + wide.precision ≤ narrow.minExponent + 1
  maxExponent_le : narrow.maxExponent ≤ wide.maxExponent

theorem single_widens_double : Format.Widens .single .double :=
  ⟨by decide, by decide, by decide, by decide⟩

section Widens

variable {f g : Format} {m : ℕ} {e : ℤ}

/-- A number of the narrow format is shifted until its digits are those of the wide one. -/
theorem Format.Widens.exists_canonical (h : f.Widens g) (hm : 0 < m) (canonical : f.Canonical m e) :
    ∃ n k, 0 < n ∧ g.Canonical n k ∧ (n : ℚ) * 2 ^ k = m * 2 ^ e := by
  obtain ⟨hlt, hmin, hmax, -⟩ := canonical
  have hprecision := h.precision_le
  have hfirst := h.minExponent_le
  have hlast := h.maxExponent_le
  have hlow : 2 ^ m.log2 ≤ m := Nat.log2_self_le hm.ne'
  have hhigh : m < 2 ^ (m.log2 + 1) := Nat.lt_log2_self
  have hfits : m.log2 < f.precision := (Nat.log2_lt hm.ne').2 hlt
  obtain ⟨shift, hshift⟩ : ∃ shift, g.precision = m.log2 + 1 + shift :=
    ⟨g.precision - (m.log2 + 1), by omega⟩
  have hdigits : g.precision - 1 = m.log2 + shift := by omega
  refine ⟨m * 2 ^ shift, e - shift, Nat.mul_pos hm (Nat.two_pow_pos shift),
    ⟨?_, by omega, by omega, .inl ?_⟩, ?_⟩
  · rw [hshift, Nat.pow_eq, pow_add _ (m.log2 + 1)]
    exact Nat.mul_lt_mul_of_pos_right hhigh (Nat.two_pow_pos shift)
  · rw [hdigits, Nat.pow_eq, pow_add]
    exact Nat.mul_le_mul_right _ hlow
  · rw [zpow_sub₀ two_ne_zero, zpow_natCast]
    push_cast
    field_simp

/-- Widening keeps every datum. -/
theorem Format.Widens.convert_convert (h : f.Widens g) (x : Binary f) :
    (x.convert g).convert f = x := by
  cases x with
  | nan => rfl
  | infinite negative => rfl
  | finite negative m e canonical =>
    have hprecision := h.precision_pos
    have hprecision' := h.precision_le
    by_cases hm : m = 0
    · subst hm
      have hmin := canonical.2.1
      have hmax := canonical.2.2.1
      have hfirst := h.minExponent_le
      have hlast := h.maxExponent_le
      have hzero : g.Canonical 0 g.minExponent :=
        ⟨Nat.two_pow_pos _, le_refl _, by omega, .inr rfl⟩
      calc convert f (ofDyadic g negative 0 e)
        _ = convert f (zero negative) := by rw [ofDyadic_zero]
        _ = ofDyadic f negative 0 g.minExponent := by rw [zero_eq_finite negative hzero]; rfl
        _ = .finite negative 0 e canonical := by
          rw [ofDyadic_zero, zero_eq_finite negative canonical]
    · have hpos : 0 < m := Nat.pos_of_ne_zero hm
      obtain ⟨n, k, hn, hwide, hvalue⟩ := h.exists_canonical hpos canonical
      have hwidened : ofDyadic g negative m e = .finite negative n k hwide := by
        refine ofDyadic_of_roundsTo (by omega) negative hpos hwide ?_
        rw [← hvalue]
        exact roundsTo_self g n k
      have hnarrowed : ofDyadic f negative n k = .finite negative m e canonical := by
        refine ofDyadic_of_roundsTo hprecision negative hn canonical ?_
        rw [hvalue]
        exact roundsTo_self f m e
      calc convert f (ofDyadic g negative m e)
        _ = convert f (.finite negative n k hwide) := by rw [hwidened]
        _ = .finite negative m e canonical := hnarrowed

end Widens

end GpuCounters.Binary
