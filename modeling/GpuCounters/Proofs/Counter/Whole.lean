import GpuCounters.Counter.Cell

/-!
# Whole values read back

The digits of a whole number read back as the number, and the words for truth values as these. The
kind of a value may change on the way, as a number of 64 bits may fit in 32, but what it stands for
stays.
-/

namespace GpuCounters

/-! ## Digits -/

namespace Decimal

theorem digit?_digitChar {d : Nat} (h : d < 10) : digit? 10 d.digitChar = some d := by
  revert d
  decide

theorem readDigits_append {radix bound number value : Nat} {text : List Char}
    (h : readDigits radix bound text number = .ok value) (more : List Char) :
    readDigits radix bound (text ++ more) number = readDigits radix bound more value := by
  induction text generalizing number with
  | nil =>
    obtain rfl := Except.ok.inj h
    rfl
  | cons c rest ih =>
    rw [readDigits] at h
    rw [List.cons_append, readDigits]
    split at h
    · simp at h
    · dsimp only at h ⊢
      split at h
      · rename_i hnext
        rw [if_pos hnext]
        exact ih h
      · simp at h

theorem readDigits_digitChar {bound number d : Nat} (hd : d < 10)
    (h : number * 10 + d < bound) :
    readDigits 10 bound [d.digitChar] number = .ok (number * 10 + d) := by
  simp only [readDigits, digit?_digitChar hd]
  rw [if_pos h]

/-- The induction is on the number, of which each digit is a tenth part more. -/
theorem readDigits_toDigits {bound n : Nat} (h : n < bound) :
    readDigits 10 bound (Nat.toDigits 10 n) 0 = .ok n := by
  induction n using Nat.strongRecOn with
  | ind n ih =>
    by_cases hsmall : n < 10
    · rw [Nat.toDigits_of_lt_base hsmall, readDigits_digitChar hsmall (by omega)]
      congr 1
      omega
    · have hfront := ih (n / 10) (by omega) (by omega)
      have hlast : n % 10 < 10 := Nat.mod_lt n (by decide)
      have hwhole : n / 10 * 10 + n % 10 = n := by omega
      rw [Nat.toDigits_of_base_le (by decide) (by omega), readDigits_append hfront,
        readDigits_digitChar hlast (by omega), hwhole]

theorem readUnsigned_of_ne_plus {radix bound : Nat} {c : Char} (h : c ≠ '+') (rest : List Char) :
    readUnsigned radix bound (c :: rest) = readDigits radix bound (c :: rest) 0 := by
  unfold readUnsigned
  split
  · rename_i heq
    simp at heq
  · rename_i heq
    exact absurd (List.cons.inj heq).1 h
  · rename_i heq
    exact absurd (List.cons.inj heq).1 h
  · rfl

theorem readUnsigned_toDigits {bound n : Nat} (h : n < bound) :
    readUnsigned 10 bound (Nat.toDigits 10 n) = .ok n := by
  have hread := readDigits_toDigits h
  cases hdigits : Nat.toDigits 10 n with
  | nil => exact absurd hdigits Nat.toDigits_ne_nil
  | cons c rest =>
    have hmem : c ∈ Nat.toDigits 10 n := by simp [hdigits]
    have hdigit := Nat.isDigit_of_mem_toDigits (by decide) (by decide) hmem
    have hplus : c ≠ '+' := by
      rintro rfl
      simp at hdigit
    rw [readUnsigned_of_ne_plus hplus, ← hdigits]
    exact hread

end Decimal

/-! ## White space -/

namespace Text

theorem dropWhile_isBlank_of_forall {text : List Char} (h : ∀ c ∈ text, isBlank c = false) :
    text.dropWhile isBlank = text := by
  cases text with
  | nil => rfl
  | cons c rest => simp [h c List.mem_cons_self]

theorem trim_of_forall {text : List Char} (h : ∀ c ∈ text, isBlank c = false) :
    trim text = text := by
  have hreverse : ∀ c ∈ text.reverse, isBlank c = false := fun c hc ↦
    h c (List.mem_reverse.1 hc)
  rw [trim, dropWhile_isBlank_of_forall h, dropWhile_isBlank_of_forall hreverse,
    List.reverse_reverse]

theorem isBlank_of_isDigit {c : Char} (h : c.isDigit = true) : isBlank c = false := by
  simp only [Char.isDigit, Bool.and_eq_true, decide_eq_true_eq] at h
  have hlow : 48 ≤ c.toNat := h.1
  have hhigh : c.toNat ≤ 57 := h.2
  simp only [isBlank, Bool.or_eq_false_iff, Bool.and_eq_false_iff, decide_eq_false_iff_not]
  omega

end Text

/-! ## Values -/

namespace Value

/-- Whether a value is a whole number or a truth value. -/
def IsWhole : Value → Prop
  | .u32 _ | .u64 _ | .bool _ => True
  | .f32 _ | .f64 _ | .text _ => False

instance : DecidablePred IsWhole
  | .u32 _ | .u64 _ | .bool _ => isTrue trivial
  | .f32 _ | .f64 _ | .text _ => isFalse id

theorem ofCell_digits {n : Nat} (h : n < UInt64.size) : ofCell (digits n) = ofNat n := by
  have hclean : ∀ c ∈ Nat.toDigits 10 n, Text.isBlank c = false := fun c hc ↦
    Text.isBlank_of_isDigit (Nat.isDigit_of_mem_toDigits (by decide) (by decide) hc)
  calc
    ofCell (digits n) = ofTrimmed (Text.trim (Nat.toDigits 10 n)) := by
      rw [ofCell, digits, String.toList_ofList]
    _ = ofTrimmed (Nat.toDigits 10 n) := by rw [Text.trim_of_forall hclean]
    _ = ofNat n := by rw [ofTrimmed, Decimal.readUnsigned_toDigits h]

theorem toNumber?_ofNat {n : Nat} (h : n < UInt64.size) :
    (ofNat n).toNumber? = some (.ofNat _ n) := by
  unfold ofNat
  split
  · rename_i hsmall
    rw [toNumber?, UInt32.toNat_ofNat_of_lt' hsmall]
  · rw [toNumber?, UInt64.toNat_ofNat_of_lt' h]

/-- A whole value stands for what its text reads as. -/
theorem IsWhole.toNumber?_ofCell {value : Value} (h : value.IsWhole) :
    (ofCell value.toText).toNumber? = value.toNumber? := by
  have hdigits : ∀ n < UInt64.size, (ofCell (digits n)).toNumber? = some (.ofNat _ n) := by
    intro n hn
    rw [ofCell_digits hn, toNumber?_ofNat hn]
  cases value with
  | u32 n => exact hdigits n.toNat (Nat.lt_trans n.toNat_lt (by decide))
  | u64 n => exact hdigits n.toNat n.toNat_lt
  | bool b => cases b <;> rfl
  | f32 x => exact absurd h id
  | f64 x => exact absurd h id
  | text s => exact absurd h id

theorem IsWhole.toText_ne {value : Value} (h : value.IsWhole) : value.toText ≠ "" := by
  have hdigits : ∀ n : Nat, digits n ≠ "" := by
    intro n hempty
    have hlist := congrArg String.toList hempty
    rw [digits, String.toList_ofList] at hlist
    exact Nat.toDigits_ne_nil hlist
  cases value with
  | u32 n => exact hdigits n.toNat
  | u64 n => exact hdigits n.toNat
  | bool b => cases b <;> decide
  | f32 x => exact absurd h id
  | f64 x => exact absurd h id
  | text s => exact absurd h id

end Value

end GpuCounters
