import GpuCounters.Proofs.Binary.Widening
import GpuCounters.Proofs.Counter.Whole
import GpuCounters.Proofs.Decimal.RoundTrip

/-!
# Numbers of values and of their cells

The text of a value does not record its kind, so a cell may read as a value of another kind. Whole
numbers and truth values stand for the same number all the same. A number of double precision keeps
it unless its text is that of another number of single precision. One of single precision whose text
is a numeral comes back as what the numeral says; any other is kept if the double that its text
reads as narrows to it. A text comes back as one unless it looks like a number or a truth value.
-/

namespace GpuCounters

/-! ## Numerals -/

namespace Decimal

theorem digit?_eq_some {c : Char} {d : ℕ} (h : digit? 10 c = some d) :
    c.isDigit = true ∧ d = c.toNat - '0'.toNat := by
  obtain ⟨hvalue, hlt⟩ := Option.filter_eq_some_iff.1 h
  rw [decide_eq_true_eq] at hlt
  split at hvalue
  · rename_i hrange
    refine ⟨?_, (Option.some.inj hvalue).symm⟩
    rw [Char.isDigit, Bool.and_eq_true, decide_eq_true_eq, decide_eq_true_eq]
    exact hrange
  · split at hvalue
    · have hletter := Option.some.inj hvalue
      omega
    · split at hvalue
      · have hletter := Option.some.inj hvalue
        omega
      · cases hvalue

/-- What reads as a whole number is digits, and the number is theirs. -/
theorem readDigits_eq_ok {bound number n : ℕ} {text : List Char}
    (h : readDigits 10 bound text number = .ok n) :
    IsDigits text ∧ n = Nat.ofDigitChars 10 text number := by
  induction text generalizing number with
  | nil => exact ⟨fun _ hc ↦ absurd hc List.not_mem_nil, (Except.ok.inj h).symm⟩
  | cons c rest ih =>
    rw [readDigits] at h
    split at h
    · cases h
    · rename_i d hdigit
      obtain ⟨hc, rfl⟩ := digit?_eq_some hdigit
      dsimp only at h
      split at h
      · obtain ⟨hrest, rfl⟩ := ih h
        refine ⟨List.forall_mem_cons.2 ⟨hc, hrest⟩, ?_⟩
        rw [Nat.ofDigitChars_cons, Nat.mul_comm]
      · cases h

/-- A whole number has a digit, and nothing in front of its digits but a plus sign. -/
theorem readUnsigned_eq_ok {bound n : ℕ} {text : List Char}
    (h : readUnsigned 10 bound text = .ok n) :
    ∃ c rest, readDigits 10 bound (c :: rest) 0 = .ok n ∧
      (text = c :: rest ∨ text = '+' :: c :: rest) := by
  unfold readUnsigned at h
  split at h
  · cases h
  · cases h
  · rename_i digits hne
    cases digits with
    | nil => exact absurd rfl hne
    | cons c rest => exact ⟨c, rest, h, .inr rfl⟩
  · rename_i hempty _ _
    cases text with
    | nil => exact absurd rfl hempty
    | cons c rest => exact ⟨c, rest, h, .inl rfl⟩

theorem lt_of_readUnsigned {bound n : ℕ} {text : List Char} (hbound : 0 < bound)
    (h : readUnsigned 10 bound text = .ok n) : n < bound := by
  obtain ⟨c, rest, hread, -⟩ := readUnsigned_eq_ok h
  exact lt_of_readDigits hbound hread

/-- A whole number is a decimal without fractional digits. -/
theorem read?_of_readUnsigned {bound n : ℕ} {text : List Char}
    (h : readUnsigned 10 bound text = .ok n) : read? text = some (.number false n 0) := by
  obtain ⟨c, rest, hread, htext⟩ := readUnsigned_eq_ok h
  obtain ⟨hdigits, hn⟩ := readDigits_eq_ok hread
  have hc := hdigits c List.mem_cons_self
  have hmagnitude : readMagnitude? false (c :: rest) = some (.number false n 0) := by
    have hpointed := readMagnitude?_pointed false (List.cons_ne_nil c rest) hdigits
      (isDigits_replicate_zero 0)
    rw [List.replicate_zero, List.append_nil] at hpointed
    rw [hn]
    exact hpointed
  obtain rfl | rfl := htext
  · exact (read?_signed false hc rest).trans hmagnitude
  · exact (read?_plus hc rest).trans hmagnitude

/-- Whole numbers of 64 bits have their leading digit among the places of double precision. -/
theorem nearest_of_lt {n : ℕ} (h : n < UInt64.size) :
    nearest .double false n 0 = Binary.ofNat .double n := by
  unfold nearest
  split
  · rename_i hzero
    subst hzero
    rfl
  · have hlength : length n ≤ 20 :=
      (Nat.length_toDigits_le_iff (by decide) (by decide)).2 (h.trans (by decide))
    have hmax : Binary.Format.double.maxExponent + Binary.Format.double.precision + 1 = 1025 := rfl
    have hmin : Binary.Format.double.minExponent = -1074 := rfl
    dsimp only
    rw [if_neg (by omega), if_neg (by omega)]
    exact congrArg (Binary.ofRatio .double false · 1) (Nat.mul_one n)

end Decimal

/-! ## White space -/

namespace Text

/-- Plain digits have no white space. -/
theorem trim_render {f : Binary.Format} (hf : Decimal.HasDecimals f) (x : Binary f) :
    trim (Decimal.plain.render x) = Decimal.plain.render x :=
  trim_of_forall (Decimal.forall_mem_render hf x (fun _ ↦ isBlank_of_isDigit) (by decide))

end Text

/-! ## Values -/

namespace Value

/-- The whole number of 64 bits that a cell reads as, if it is one. -/
def numeral? (cell : List Char) : Option ℕ := (Decimal.readUnsigned 10 UInt64.size cell).toOption

theorem numeral?_eq_some_iff {cell : List Char} {n : ℕ} :
    numeral? cell = some n ↔ Decimal.readUnsigned 10 UInt64.size cell = .ok n := by
  unfold numeral?
  cases Decimal.readUnsigned 10 UInt64.size cell <;> simp [Except.toOption]

theorem lt_of_numeral? {cell : List Char} {n : ℕ} (h : numeral? cell = some n) :
    n < UInt64.size :=
  Decimal.lt_of_readUnsigned (by decide) (numeral?_eq_some_iff.1 h)

/-- A numeral stands for the double nearest to it. -/
theorem toNumber?_of_numeral {cell : List Char} {n : ℕ} (h : numeral? cell = some n) :
    (ofTrimmed cell).toNumber? = some (.ofNat _ n) := by
  rw [ofTrimmed, numeral?_eq_some_iff.1 h]
  exact toNumber?_ofNat (lt_of_numeral? h)

/-- A numeral reads as a double like any other decimal. -/
theorem readDouble?_of_numeral {cell : List Char} {n : ℕ} (h : numeral? cell = some n) :
    Decimal.readDouble? cell = some (.ofNat _ n) := by
  rw [Decimal.readDouble?, Decimal.read?_of_readUnsigned (numeral?_eq_some_iff.1 h),
    Option.map_some, Decimal.Reading.toBinary, Decimal.nearest_of_lt (lt_of_numeral? h)]

theorem exists_fault_of_not_numeral {cell : List Char} (h : numeral? cell = none) :
    ∃ fault, Decimal.readUnsigned 10 UInt64.size cell = .error fault := by
  unfold numeral? at h
  cases hread : Decimal.readUnsigned 10 UInt64.size cell with
  | ok n =>
    rw [hread] at h
    cases h
  | error fault => exact ⟨fault, rfl⟩

/-- A decimal that is no numeral stands for the double that it reads as, unless the narrowing of
that has the same text. -/
theorem toNumber?_of_double {cell : List Char} (h : numeral? cell = none) {x : Binary64}
    (hread : Decimal.readDouble? cell = some x) :
    (ofTrimmed cell).toNumber? =
      if Decimal.plain.render (x.convert .single) = cell then
        some ((x.convert .single).convert .double)
      else some x := by
  obtain ⟨fault, hfault⟩ := exists_fault_of_not_numeral h
  rw [ofTrimmed, hfault]
  dsimp only
  rw [hread]
  dsimp only
  unfold ofDouble
  dsimp only
  split <;> rfl

/-- A cell that is no decimal is a word. -/
theorem ofTrimmed_of_not_double {cell : List Char} (h : numeral? cell = none)
    (hread : Decimal.readDouble? cell = none) : ofTrimmed cell = ofWord cell := by
  obtain ⟨fault, hfault⟩ := exists_fault_of_not_numeral h
  rw [ofTrimmed, hfault]
  dsimp only
  rw [hread]

theorem toNumber?_ofWord_eq_none_iff (cell : List Char) :
    (ofWord cell).toNumber? = none ↔ cell ≠ "true".toList ∧ cell ≠ "false".toList := by
  unfold ofWord
  split
  · rename_i htrue
    simp [htrue, toNumber?]
  · split
    · rename_i hfalse
      simp [hfalse, toNumber?]
    · rename_i htrue hfalse
      exact iff_of_true rfl ⟨htrue, hfalse⟩

/-- Whether the double that the text of a number of single precision reads as narrows to it. -/
def Narrows (x : Binary32) : Prop :=
  (Decimal.readDouble? (Decimal.plain.render x)).map (·.convert .single) = some x

instance : DecidablePred Narrows := fun _ ↦ inferInstanceAs (Decidable (_ = _))

/-- Whether a number of single precision is what its text says, where that is a numeral. -/
def SingleKept (x : Binary32) : Prop :=
  ∀ n ∈ numeral? (Decimal.plain.render x), Binary.ofNat .double n = x.convert .double

instance : DecidablePred SingleKept := fun x ↦
  inferInstanceAs (Decidable (∀ n ∈ numeral? (Decimal.plain.render x), _ = _))

/-- Whether a number of double precision is one of single precision. -/
def IsSingle (x : Binary64) : Prop := ∃ y : Binary32, y.convert .double = x

theorem isSingle_iff (x : Binary64) : IsSingle x ↔ (x.convert .single).convert .double = x := by
  constructor
  · rintro ⟨y, rfl⟩
    rw [Binary.single_widens_double.convert_convert y]
  · exact fun hsame ↦ ⟨x.convert .single, hsame⟩

instance : DecidablePred IsSingle := fun x ↦ decidable_of_iff' _ (isSingle_iff x)

/-- Whether a number of double precision is kept by its text. The text must be a numeral, or not
that of another number, of single precision. -/
def DoubleKept (x : Binary64) : Prop :=
  (numeral? (Decimal.plain.render x)).isSome ∨
    Decimal.plain.render (x.convert .single) ≠ Decimal.plain.render x ∨ IsSingle x

instance : DecidablePred DoubleKept := fun _ ↦ inferInstanceAs (Decidable (_ ∨ _))

/-- Whether a cell looks like neither a number nor a truth value. -/
def IsWord (cell : List Char) : Prop :=
  Decimal.read? cell = none ∧ cell ≠ "true".toList ∧ cell ≠ "false".toList

instance : DecidablePred IsWord := fun _ ↦ inferInstanceAs (Decidable (_ ∧ _))

/-- Whether a value keeps its number, or that it has none, in its text. -/
def KeepsNumber : Value → Prop
  | .u32 _ | .u64 _ | .bool _ => True
  | .f32 x => SingleKept x
  | .f64 x => DoubleKept x
  | .text s => IsWord (Text.trim s.toList)

instance : DecidablePred KeepsNumber
  | .u32 _ | .u64 _ | .bool _ => isTrue trivial
  | .f32 x => inferInstanceAs (Decidable (SingleKept x))
  | .f64 x => inferInstanceAs (Decidable (DoubleKept x))
  | .text s => inferInstanceAs (Decidable (IsWord (Text.trim s.toList)))

/-- The cell of a number of single precision. -/
theorem toNumber?_ofTrimmed_single {x : Binary32}
    (h : numeral? (Decimal.plain.render x) = none → Narrows x) :
    (ofTrimmed (Decimal.plain.render x)).toNumber? = some (x.convert .double) ↔ SingleKept x := by
  unfold SingleKept
  cases hnumeral : numeral? (Decimal.plain.render x) with
  | some n =>
    rw [toNumber?_of_numeral hnumeral]
    simp
  | none =>
    obtain ⟨y, hread, hsame⟩ := Option.map_eq_some_iff.1 (h hnumeral)
    have htext : Decimal.plain.render (y.convert .single) = Decimal.plain.render x := by rw [hsame]
    rw [toNumber?_of_double hnumeral hread, if_pos htext, hsame]
    simp

/-- The cell of a number of double precision. -/
theorem toNumber?_ofTrimmed_double (x : Binary64) :
    (ofTrimmed (Decimal.plain.render x)).toNumber? = some x ↔ DoubleKept x := by
  have hread := Decimal.readDouble?_render x
  rw [DoubleKept, isSingle_iff]
  cases hnumeral : numeral? (Decimal.plain.render x) with
  | some n =>
    rw [readDouble?_of_numeral hnumeral] at hread
    rw [toNumber?_of_numeral hnumeral]
    exact iff_of_true hread (.inl rfl)
  | none =>
    rw [toNumber?_of_double hnumeral hread]
    split
    · rename_i htext
      simp [htext]
    · rename_i htext
      simp [htext]

/-- The cell of a text. -/
theorem toNumber?_ofTrimmed_word (cell : List Char) :
    (ofTrimmed cell).toNumber? = none ↔ IsWord cell := by
  unfold IsWord
  cases hnumeral : numeral? cell with
  | some n =>
    rw [toNumber?_of_numeral hnumeral,
      Decimal.read?_of_readUnsigned (numeral?_eq_some_iff.1 hnumeral)]
    simp
  | none =>
    cases hread : Decimal.read? cell with
    | some reading =>
      have hdouble : Decimal.readDouble? cell = some (reading.toBinary .double) := by
        rw [Decimal.readDouble?, hread, Option.map_some]
      rw [toNumber?_of_double hnumeral hdouble]
      split <;> simp
    | none =>
      have hdouble : Decimal.readDouble? cell = none := by
        rw [Decimal.readDouble?, hread, Option.map_none]
      rw [ofTrimmed_of_not_double hnumeral hdouble, toNumber?_ofWord_eq_none_iff]
      simp

/-- The cell of a value stands for the same number as the value exactly if the value keeps its
number. A number of single precision must be what its text narrows to, unless that is a numeral. -/
theorem toNumber?_ofCell_toText_iff {v : Value}
    (h : ∀ x, v = .f32 x → numeral? (Decimal.plain.render x) = none → Narrows x) :
    (ofCell v.toText).toNumber? = v.toNumber? ↔ v.KeepsNumber := by
  cases v with
  | u32 n =>
    have hwhole : (u32 n).IsWhole := trivial
    exact iff_of_true hwhole.toNumber?_ofCell trivial
  | u64 n =>
    have hwhole : (u64 n).IsWhole := trivial
    exact iff_of_true hwhole.toNumber?_ofCell trivial
  | bool b =>
    have hwhole : (bool b).IsWhole := trivial
    exact iff_of_true hwhole.toNumber?_ofCell trivial
  | f32 x =>
    rw [toText, ofCell, String.toList_ofList, Text.trim_render Decimal.hasDecimals_single]
    exact toNumber?_ofTrimmed_single (h x rfl)
  | f64 x =>
    rw [toText, ofCell, String.toList_ofList, Text.trim_render Decimal.hasDecimals_double]
    exact toNumber?_ofTrimmed_double x
  | text s => exact toNumber?_ofTrimmed_word (Text.trim s.toList)

/-- The single nearest to a tenth is what its text narrows to, and is kept. -/
theorem toNumber?_ofCell_toText_tenth :
    numeral? (Decimal.plain.render (.ofBits .single 0x3dcccccd)) = none ∧
      (ofCell (Value.f32 (.ofBits .single 0x3dcccccd)).toText).toNumber? =
        (Value.f32 (.ofBits .single 0x3dcccccd)).toNumber? := by
  refine ⟨by decide +kernel, (toNumber?_ofCell_toText_iff fun x hx _ ↦ ?_).2 (by decide +kernel)⟩
  obtain rfl := Value.f32.inj hx
  decide +kernel

/-- The double nearest to a tenth, which comes back as the single nearest to it; a power of two
whose digits as a single stop short of it; and texts that look like a number and like a truth
value. -/
def lossyValues : List Value :=
  [.f64 (.ofBits .double 0x3fb999999999999a), .f32 (.ofBits .single 0x5f000000),
    .text "42", .text " true"]

theorem toNumber?_ofCell_toText_ne_lossyValues :
    lossyValues.all (fun v ↦ (ofCell v.toText).toNumber? ≠ v.toNumber?) = true := by
  decide +kernel

/-- Halves have the same digits in both precisions, and stand for the same number in both. -/
example : (Value.f64 (.ofBits .double 0x3fe0000000000000)).KeepsNumber := by decide +kernel

end Value

end GpuCounters
