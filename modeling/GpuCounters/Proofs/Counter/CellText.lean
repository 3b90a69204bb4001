import GpuCounters.Proofs.Counter.NumericView
import GpuCounters.Proofs.Decimal.Precision
import GpuCounters.Proofs.Json.Numbers

/-!
# Cell texts are stable

A value other than a text may come back from its cell as a value of another kind, or even, in single
precision, stand for another number, but it always has the text of the cell.
-/

namespace GpuCounters

/-! ## Whole numbers without a superfluous zero -/

namespace Json

theorem IsWhole.isDigits {digits : List Char} (h : IsWhole digits) : Decimal.IsDigits digits := by
  obtain rfl | ⟨hdigits, -, -⟩ := h
  · exact Decimal.isDigits_replicate_zero 1
  · exact hdigits

/-- A number is spelled without a superfluous zero in one way only. -/
theorem IsWhole.toDigits_eq {digits : List Char} (h : IsWhole digits) {n : ℕ}
    (hspells : Decimal.Spells 10 digits n) : Nat.toDigits 10 n = digits := by
  obtain ⟨zeros, htext⟩ := hspells
  have hlower : digits.map Char.toLower = digits :=
    (List.map_congr_left fun c hc ↦ Decimal.toLower_of_isDigit (h.isDigits c hc)).trans
      (List.map_id digits)
  rw [hlower] at htext
  cases zeros with
  | zero => exact htext.symm
  | succ zeros =>
    rw [List.replicate_succ, List.cons_append] at htext
    obtain rfl | ⟨-, -, hzero⟩ := h
    · have hrest := (List.cons.inj htext).2
      exact absurd (List.append_eq_nil_iff.1 hrest.symm).2 Nat.toDigits_ne_nil
    · exact absurd (congrArg List.head? htext) hzero

/-- A literal with nothing but digits is a whole number. -/
theorem IsLiteral.isWhole {literal : List Char} (h : IsLiteral literal)
    (hdigits : Decimal.IsDigits literal) : IsWhole literal := by
  obtain ⟨negative, hwhole, hfraction, hexponent⟩ := h
  cases negative with
  | true => exact absurd (hdigits '-' List.mem_cons_self) (by decide)
  | false =>
    cases hfraction with
    | digits => exact absurd (hdigits '.' (by simp [Decimal.signed])) (by decide)
    | absent =>
      cases hexponent with
      | digits => exact absurd (hdigits 'e' (by simp [Decimal.signed])) (by decide)
      | absent => simpa [Decimal.signed] using hwhole

end Json

/-! ## Values -/

namespace Value

theorem toText_ofNat {n : ℕ} (h : n < UInt64.size) : (ofNat n).toText = digits n := by
  unfold ofNat
  split
  · rename_i hsmall
    rw [toText, UInt32.toNat_ofNat_of_lt' hsmall]
  · rw [toText, UInt64.toNat_ofNat_of_lt' h]

/-- Infinities and what is no number have no numerals for their texts. -/
theorem isFinite_of_numeral {x : Binary64} {n : ℕ}
    (h : numeral? (Decimal.plain.render x) = some n) : x.isFinite = true := by
  cases x with
  | nan =>
    have hnone : numeral? "NaN".toList = none := by decide
    cases hnone.symm.trans h
  | infinite negative =>
    have hnone : ∀ minus : Bool,
        numeral? (if minus then "-inf".toList else "inf".toList) = none := by decide
    cases (hnone negative).symm.trans h
  | finite => rfl

/-- The text of a number that is a numeral is the numeral's digits. -/
theorem toDigits_of_numeral {x : Binary64} {n : ℕ}
    (h : numeral? (Decimal.plain.render x) = some n) :
    Nat.toDigits 10 n = Decimal.plain.render x := by
  have hliteral : Json.IsLiteral (Decimal.plain.render x) :=
    Json.isLiteral_render Decimal.hasDecimals_double .absent (isFinite_of_numeral h)
  have hread := numeral?_eq_some_iff.1 h
  generalize Decimal.plain.render x = cell at hliteral hread ⊢
  obtain ⟨c, rest, hdigits, rfl | rfl⟩ := Decimal.readUnsigned_eq_ok hread
  · have hspells := ((Decimal.readDigits_zero_eq_ok_iff (by decide) (by decide)).1 hdigits).1
    rw [Decimal.spells_zero_cons (by decide) (List.cons_ne_nil c rest)] at hspells
    exact (hliteral.isWhole (Decimal.readDigits_eq_ok hdigits).1).toDigits_eq hspells
  · obtain ⟨d, text, hcons, hd⟩ := hliteral.exists_cons
    obtain rfl := (List.cons.inj hcons).1
    exact absurd hd (by decide)

/-- The cell of a number of double precision. -/
theorem toText_ofTrimmed_render (x : Binary64) :
    (ofTrimmed (Decimal.plain.render x)).toText = String.ofList (Decimal.plain.render x) := by
  have hread := Decimal.readDouble?_render x
  cases hnumeral : numeral? (Decimal.plain.render x) with
  | some n =>
    rw [ofTrimmed, numeral?_eq_some_iff.1 hnumeral]
    rw [← toDigits_of_numeral hnumeral]
    exact toText_ofNat (lt_of_numeral? hnumeral)
  | none =>
    obtain ⟨fault, hfault⟩ := exists_fault_of_not_numeral hnumeral
    rw [ofTrimmed, hfault]
    dsimp only
    rw [hread]
    dsimp only
    unfold ofDouble
    dsimp only
    split
    · rename_i htext
      rw [toText, htext]
    · rfl

theorem ofCell_toText_u32 (n : UInt32) : ofCell (Value.u32 n).toText = .u32 n := by
  have hlt : n.toNat < UInt32.size := n.toNat_lt
  rw [toText, ofCell_digits (hlt.trans (by decide)), ofNat, if_pos hlt, UInt32.ofNat_toNat]

theorem ofCell_toText_bool (b : Bool) : ofCell (Value.bool b).toText = .bool b := by
  cases b <;> decide

/-- A whole number of 64 bits comes back in 32 bits where it fits. -/
theorem ofCell_toText_u64 (n : UInt64) : ofCell (Value.u64 n).toText = .u64 n ∨
    ∃ small : UInt32, small.toNat = n.toNat ∧ ofCell (Value.u64 n).toText = .u32 small := by
  rw [toText, ofCell_digits n.toNat_lt, ofNat]
  split
  · rename_i hsmall
    exact .inr ⟨.ofNat n.toNat, UInt32.toNat_ofNat_of_lt' hsmall, rfl⟩
  · rw [UInt64.ofNat_toNat]
    exact .inl rfl

/-- A number has the text of its cell, whatever it comes back as. -/
theorem toText_ofCell_render (x : Binary64) :
    (ofCell (String.ofList (Decimal.plain.render x))).toText =
      String.ofList (Decimal.plain.render x) := by
  rw [ofCell, String.toList_ofList, Text.trim_render Decimal.hasDecimals_double]
  exact toText_ofTrimmed_render x

/-- A value that is no text has the text of its cell when it comes back. Whole numbers of 32 bits
and truth values come back as they are, and whole numbers of 64 bits too, or in 32 bits. -/
theorem toText_ofCell_toText {v : Value} (h : ∀ s, v ≠ .text s) :
    (ofCell v.toText).toText = v.toText ∧
      (∀ n, v = .u32 n → ofCell v.toText = .u32 n) ∧
      (∀ b, v = .bool b → ofCell v.toText = .bool b) ∧
      (∀ n, v = .u64 n → ofCell v.toText = .u64 n ∨
        ∃ small : UInt32, small.toNat = n.toNat ∧ ofCell v.toText = .u32 small) := by
  refine ⟨?_, ?_, ?_, ?_⟩
  · cases v with
    | u32 n => rw [ofCell_toText_u32]
    | u64 n =>
      obtain hsame | ⟨small, hsmall, hread⟩ := ofCell_toText_u64 n
      · rw [hsame]
      · rw [hread, toText, toText, hsmall]
    | f32 x =>
      obtain ⟨y, hy⟩ := Decimal.exists_render_eq x
      rw [toText, ← hy]
      exact toText_ofCell_render y
    | f64 x => exact toText_ofCell_render x
    | bool b => rw [ofCell_toText_bool]
    | text s => exact absurd rfl (h s)
  · rintro n rfl
    exact ofCell_toText_u32 n
  · rintro b rfl
    exact ofCell_toText_bool b
  · rintro n rfl
    exact ofCell_toText_u64 n

/-- The single that comes back as a double, since rounding twice takes it for its neighbour. -/
theorem toText_ofCell_toText_double :
    (ofCell (Value.f32 (.ofBits .single 0x15ae43fd)).toText).toText =
      (Value.f32 (.ofBits .single 0x15ae43fd)).toText :=
  (toText_ofCell_toText fun _ heq ↦ by cases heq).1

end Value

end GpuCounters
