import GpuCounters.Proofs.Counter.Whole
import Mathlib.Data.List.Induction
import Mathlib.Data.Int.Notation
import Mathlib.Data.Nat.Notation
import Mathlib.Tactic.ByContra

/-!
# Numerals of a radix

A number is spelled by its digits in a radix, with letters in either case and with any zeros in
front. A reader accepts exactly the spellings of numbers below its bound, with or without a plus
sign. It refuses a text for the first character that is no digit or that takes the number to the
bound.
-/

namespace GpuCounters.Decimal

/-! ## Spellings -/

/-- Whether a character is a digit of a radix, in either letter case. -/
def IsDigitOf (radix : ℕ) (c : Char) (digit : ℕ) : Prop :=
  digit < radix ∧ c.toLower = digit.digitChar

/-- Whether a text is a number in digits of a radix, in either letter case and perhaps with zeros in
front. -/
def Spells (radix : ℕ) (text : List Char) (n : ℕ) : Prop :=
  ∃ zeros, text.map Char.toLower = List.replicate zeros '0' ++ Nat.toDigits radix n

/-- The radices whose digits are those of base sixteen or fewer. -/
def IsRadix (radix : ℕ) : Prop := 1 < radix ∧ radix ≤ 16

instance : DecidablePred IsRadix := fun _ ↦ inferInstanceAs (Decidable (_ ∧ _))

section Spellings

variable {radix n : ℕ} {text : List Char}

theorem Spells.ne_nil (h : Spells radix text n) : text ≠ [] := by
  rintro rfl
  obtain ⟨zeros, htext⟩ := h
  exact List.append_ne_nil_of_right_ne_nil _ Nat.toDigits_ne_nil htext.symm

theorem digitChar_eq_zero_iff {d : ℕ} (h : d < 16) : d.digitChar = '0' ↔ d = 0 := by
  revert d
  decide

/-- One more digit is another place. -/
theorem spells_append_singleton (hradix : IsRadix radix) (hne : text ≠ []) {c : Char} :
    Spells radix (text ++ [c]) n ↔
      ∃ front digit, Spells radix text front ∧ IsDigitOf radix c digit ∧
        n = front * radix + digit := by
  obtain ⟨hone, hsixteen⟩ := hradix
  constructor
  · rintro ⟨zeros, htext⟩
    rw [List.map_append, List.map_singleton] at htext
    by_cases hsmall : n < radix
    · rw [Nat.toDigits_of_lt_base hsmall] at htext
      obtain ⟨hfront, hlast⟩ := List.append_inj' htext rfl
      refine ⟨0, n, ?_, ⟨hsmall, (List.cons.inj hlast).1⟩, by simp⟩
      cases zeros with
      | zero => exact absurd (List.map_eq_nil_iff.1 hfront) hne
      | succ zeros =>
        refine ⟨zeros, ?_⟩
        rw [hfront, List.replicate_succ', Nat.toDigits_of_lt_base (Nat.lt_of_succ_lt hone)]
        rfl
    · rw [Nat.toDigits_of_base_le hone (Nat.le_of_not_lt hsmall), ← List.append_assoc] at htext
      obtain ⟨hfront, hlast⟩ := List.append_inj' htext rfl
      exact ⟨n / radix, n % radix, ⟨zeros, hfront⟩,
        ⟨Nat.mod_lt n (by omega), (List.cons.inj hlast).1⟩, (Nat.div_add_mod' n radix).symm⟩
  · rintro ⟨front, digit, ⟨zeros, htext⟩, ⟨hdigit, hlower⟩, rfl⟩
    rw [Spells, List.map_append, List.map_singleton, htext, hlower]
    by_cases hfront : front = 0
    · subst hfront
      refine ⟨zeros + 1, ?_⟩
      rw [Nat.zero_mul, Nat.zero_add, Nat.toDigits_of_lt_base hdigit, List.replicate_succ',
        Nat.toDigits_of_lt_base (Nat.lt_of_succ_lt hone)]
      rfl
    · refine ⟨zeros, ?_⟩
      rw [List.append_assoc, ← Nat.toDigits_of_lt_base hdigit,
        Nat.toDigits_append_toDigits hone (Nat.pos_of_ne_zero hfront) hdigit, Nat.mul_comm]

/-- A digit alone is the number that it stands for. -/
theorem spells_singleton (hradix : IsRadix radix) {c : Char} :
    Spells radix [c] n ↔ IsDigitOf radix c n := by
  constructor
  · rintro ⟨zeros, htext⟩
    have hsmall : n < radix := by
      by_contra hlarge
      have hlength := congrArg List.length htext
      rw [Nat.toDigits_of_base_le hradix.1 (Nat.le_of_not_lt hlarge)] at hlength
      have hpos := List.length_pos_iff.2 (Nat.toDigits_ne_nil (b := radix) (n := n / radix))
      simp only [List.length_map, List.length_append, List.length_replicate,
        List.length_singleton] at hlength
      omega
    have hsplit : [] ++ [c.toLower] = List.replicate zeros '0' ++ [n.digitChar] := by
      rw [← Nat.toDigits_of_lt_base hsmall]
      exact htext
    obtain ⟨-, hlast⟩ := List.append_inj' hsplit rfl
    exact ⟨hsmall, (List.cons.inj hlast).1⟩
  · rintro ⟨hsmall, hlower⟩
    refine ⟨0, ?_⟩
    rw [Nat.toDigits_of_lt_base hsmall, ← hlower]
    rfl

theorem spells_zero (hradix : IsRadix radix) : Spells radix ['0'] n ↔ n = 0 := by
  rw [spells_singleton hradix]
  constructor
  · rintro ⟨hsmall, hlower⟩
    exact (digitChar_eq_zero_iff (Nat.lt_of_lt_of_le hsmall hradix.2)).1 hlower.symm
  · rintro rfl
    exact ⟨Nat.lt_of_succ_lt hradix.1, rfl⟩

/-- A zero in front does not count. -/
theorem spells_zero_cons (hradix : IsRadix radix) (hne : text ≠ []) :
    Spells radix ('0' :: text) n ↔ Spells radix text n := by
  induction text using List.reverseRecOn generalizing n with
  | nil => exact absurd rfl hne
  | append_singleton front c ih =>
    rw [← List.cons_append, spells_append_singleton hradix (List.cons_ne_nil _ _)]
    by_cases hfront : front = []
    · subst hfront
      rw [List.nil_append, spells_singleton hradix]
      simp [spells_zero hradix]
    · rw [spells_append_singleton hradix hfront]
      simp only [ih hfront]

theorem Spells.exists_digit (hradix : IsRadix radix) (h : Spells radix text n) :
    ∀ c ∈ text, ∃ digit, IsDigitOf radix c digit := by
  induction text using List.reverseRecOn generalizing n with
  | nil => exact absurd rfl h.ne_nil
  | append_singleton front c ih =>
    by_cases hfront : front = []
    · subst hfront
      intro d hd
      obtain rfl := List.mem_singleton.1 hd
      exact ⟨n, (spells_singleton hradix).1 h⟩
    · obtain ⟨number, digit, hspells, hdigit, -⟩ := (spells_append_singleton hradix hfront).1 h
      intro d hd
      obtain hd | hd := List.mem_append.1 hd
      · exact ih hspells d hd
      · obtain rfl := List.mem_singleton.1 hd
        exact ⟨digit, hdigit⟩

theorem IsDigitOf.unique (hradix : IsRadix radix) {c : Char} {digit other : ℕ}
    (h : IsDigitOf radix c digit) (hother : IsDigitOf radix c other) : digit = other := by
  have hinjective : ∀ d < 16, ∀ e < 16, d.digitChar = e.digitChar → d = e := by decide
  exact hinjective digit (Nat.lt_of_lt_of_le h.1 hradix.2) other
    (Nat.lt_of_lt_of_le hother.1 hradix.2) (h.2.symm.trans hother.2)

/-- A text spells no two numbers. -/
theorem Spells.unique (hradix : IsRadix radix) {m : ℕ} (h : Spells radix text n)
    (hother : Spells radix text m) : n = m := by
  induction text using List.reverseRecOn generalizing n m with
  | nil => exact absurd rfl h.ne_nil
  | append_singleton front c ih =>
    by_cases hfront : front = []
    · subst hfront
      exact ((spells_singleton hradix).1 h).unique hradix ((spells_singleton hradix).1 hother)
    · obtain ⟨number, digit, hnumber, hdigit, rfl⟩ :=
        (spells_append_singleton hradix hfront).1 h
      obtain ⟨number', digit', hnumber', hdigit', rfl⟩ :=
        (spells_append_singleton hradix hfront).1 hother
      rw [ih hnumber hnumber', hdigit.unique hradix hdigit']

/-- A sign is no digit. -/
theorem Spells.ne_plus_cons (hradix : IsRadix radix) {rest : List Char} :
    ¬Spells radix ('+' :: rest) n := by
  intro h
  obtain ⟨digit, hdigit, hlower⟩ := h.exists_digit hradix '+' List.mem_cons_self
  have hplus : ∀ d < 16, '+'.toLower ≠ d.digitChar := by decide
  exact hplus digit (Nat.lt_of_lt_of_le hdigit hradix.2) hlower

end Spellings

/-! ## Reading -/

section Reading

variable {radix bound n : ℕ} {text : List Char} {fault : IntegerFault}

/-- Digits are below 128, where there are few characters to look at. -/
theorem digit?_eq_some_iff (hradix : IsRadix radix) {c : Char} {d : ℕ} :
    digit? radix c = some d ↔ IsDigitOf radix c d := by
  have hfilter : digit? radix c = some d ↔ digit? 16 c = some d ∧ d < radix := by
    have hsixteen := hradix.2
    simp only [digit?, Option.filter_eq_some_iff, decide_eq_true_eq]
    constructor
    · rintro ⟨hvalue, hd⟩
      exact ⟨⟨hvalue, by omega⟩, hd⟩
    · rintro ⟨⟨hvalue, -⟩, hd⟩
      exact ⟨hvalue, hd⟩
  rw [hfilter, and_comm]
  refine and_congr_right fun hd ↦ ?_
  replace hd : d < 16 := Nat.lt_of_lt_of_le hd hradix.2
  by_cases hc : c.toNat < 128
  · have hascii : ∀ n < 128, ∀ d < 16,
        digit? 16 (Char.ofNat n) = some d ↔ (Char.ofNat n).toLower = d.digitChar := by
      decide +kernel
    simpa using hascii c.toNat hc d hd
  · have hbeyond : ∀ last : Char, last.toNat < 128 → ¬c ≤ last := fun last hlast hle ↦
      hc (Nat.lt_of_le_of_lt (UInt32.le_iff_toNat_le.1 hle) hlast)
    have hnone : digit? 16 c = none := by
      rw [digit?, if_neg fun h ↦ hbeyond '9' (by decide) h.2,
        if_neg fun h ↦ hbeyond 'z' (by decide) h.2, if_neg fun h ↦ hbeyond 'Z' (by decide) h.2]
      rfl
    have hlower : c.toLower = c := dif_neg fun h ↦ hbeyond 'Z' (by decide) h.2
    have hdigits : ∀ d < 16, d.digitChar.toNat < 128 := by decide
    rw [hnone, hlower]
    refine iff_of_false (fun h ↦ nomatch h) ?_
    rintro rfl
    exact hc (hdigits d hd)

theorem readDigits_singleton (c : Char) (number : ℕ) :
    readDigits radix bound [c] number =
      match digit? radix c with
      | none => .error .invalidDigit
      | some digit =>
        if number * radix + digit < bound then .ok (number * radix + digit)
        else .error .tooLarge := by
  rw [readDigits]
  cases digit? radix c <;> rfl

theorem readDigits_singleton_eq_ok_iff (hradix : IsRadix radix) {c : Char} {number : ℕ} :
    readDigits radix bound [c] number = .ok n ↔
      ∃ digit, IsDigitOf radix c digit ∧ n = number * radix + digit ∧ n < bound := by
  simp only [readDigits_singleton, ← digit?_eq_some_iff hradix]
  cases digit? radix c with
  | none => simp
  | some digit =>
    dsimp only
    split
    · rename_i hlt
      simp only [Except.ok.injEq, Option.some.injEq, exists_eq_left']
      constructor
      · rintro rfl
        exact ⟨rfl, hlt⟩
      · rintro ⟨rfl, -⟩
        rfl
    · rename_i hge
      refine iff_of_false (fun h ↦ nomatch h) ?_
      rintro ⟨other, hother, rfl, hlt⟩
      obtain rfl := Option.some.inj hother
      exact hge hlt

theorem readDigits_singleton_eq_error_iff (hradix : IsRadix radix) {c : Char} {number : ℕ} :
    readDigits radix bound [c] number = .error fault ↔
      (∀ digit, ¬IsDigitOf radix c digit) ∧ fault = .invalidDigit ∨
        ∃ digit, IsDigitOf radix c digit ∧ bound ≤ number * radix + digit ∧ fault = .tooLarge := by
  simp only [readDigits_singleton, ← digit?_eq_some_iff hradix]
  cases digit? radix c with
  | none => simp [eq_comm]
  | some digit =>
    dsimp only
    split
    · rename_i hlt
      simp [Nat.not_le.2 hlt]
    · rename_i hge
      simp [Nat.le_of_not_lt hge, eq_comm]

theorem readDigits_append_of_error {number : ℕ}
    (h : readDigits radix bound text number = .error fault) (more : List Char) :
    readDigits radix bound (text ++ more) number = .error fault := by
  induction text generalizing number with
  | nil => cases h
  | cons c rest ih =>
    rw [readDigits] at h
    rw [List.cons_append, readDigits]
    split at h
    · exact h
    · dsimp only at h ⊢
      split at h
      · rename_i hnext
        rw [if_pos hnext]
        exact ih h
      · rename_i hnext
        rw [if_neg hnext]
        exact h

/-- A text is read character by character. -/
theorem readDigits_append_singleton_eq_ok_iff {c : Char} {number : ℕ} :
    readDigits radix bound (text ++ [c]) number = .ok n ↔
      ∃ front, readDigits radix bound text number = .ok front ∧
        readDigits radix bound [c] front = .ok n := by
  cases hfront : readDigits radix bound text number with
  | ok front =>
    rw [readDigits_append hfront]
    simp
  | error cause =>
    rw [readDigits_append_of_error hfront]
    simp

/-- What is read is what is spelled, where no digit at all stands for zero. -/
theorem readDigits_zero_eq_ok_iff (hradix : IsRadix radix) (hbound : 0 < bound) :
    readDigits radix bound text 0 = .ok n ↔ Spells radix ('0' :: text) n ∧ n < bound := by
  induction text using List.reverseRecOn generalizing n with
  | nil =>
    rw [readDigits_nil, spells_zero hradix, Except.ok.injEq]
    constructor
    · rintro rfl
      exact ⟨rfl, hbound⟩
    · rintro ⟨rfl, -⟩
      rfl
  | append_singleton front c ih =>
    rw [readDigits_append_singleton_eq_ok_iff, ← List.cons_append,
      spells_append_singleton hradix (List.cons_ne_nil _ _)]
    simp only [readDigits_singleton_eq_ok_iff hradix]
    constructor
    · rintro ⟨number, hfront, digit, hdigit, rfl, hlt⟩
      exact ⟨⟨number, digit, (ih.1 hfront).1, hdigit, rfl⟩, hlt⟩
    · rintro ⟨⟨number, digit, hfront, hdigit, rfl⟩, hlt⟩
      have hle : number ≤ number * radix :=
        Nat.le_mul_of_pos_right number (Nat.lt_of_succ_lt hradix.1)
      exact ⟨number, ih.2 ⟨hfront, by omega⟩, digit, hdigit, rfl, hlt⟩

/-- A text is refused for one of its characters, when all before it was read. -/
theorem readDigits_eq_error_iff {number : ℕ} :
    readDigits radix bound text number = .error fault ↔
      ∃ before c after front, text = before ++ c :: after ∧
        readDigits radix bound before number = .ok front ∧
        readDigits radix bound [c] front = .error fault := by
  constructor
  · intro h
    induction text generalizing number with
    | nil => cases h
    | cons c rest ih =>
      cases hc : readDigits radix bound [c] number with
      | error cause =>
        have hwhole := readDigits_append_of_error hc rest
        rw [List.singleton_append, h] at hwhole
        exact ⟨[], c, rest, number, rfl, rfl, hwhole ▸ hc⟩
      | ok next =>
        have hwhole := readDigits_append hc rest
        rw [List.singleton_append, h] at hwhole
        obtain ⟨before, d, after, front, rfl, hbefore, hd⟩ := ih hwhole.symm
        refine ⟨c :: before, d, after, front, rfl, ?_, hd⟩
        rw [← List.singleton_append, readDigits_append hc]
        exact hbefore
  · rintro ⟨before, c, after, front, rfl, hbefore, hc⟩
    rw [readDigits_append hbefore]
    exact readDigits_append_of_error hc after

/-- Why digits are not read: the first character that is no digit, or that takes the number to the
bound. -/
inductive DigitFault (radix bound : ℕ) : List Char → IntegerFault → Prop
  | invalidDigit {before after : List Char} {c : Char} {front : ℕ}
      (spelled : Spells radix ('0' :: before) front) (below : front < bound)
      (noDigit : ∀ digit, ¬IsDigitOf radix c digit) :
      DigitFault radix bound (before ++ c :: after) .invalidDigit
  | tooLarge {before after : List Char} {c : Char} {front n : ℕ}
      (spelled : Spells radix ('0' :: before) front) (below : front < bound)
      (further : Spells radix ('0' :: before ++ [c]) n) (above : bound ≤ n) :
      DigitFault radix bound (before ++ c :: after) .tooLarge

theorem readDigits_zero_eq_error_iff (hradix : IsRadix radix) (hbound : 0 < bound) :
    readDigits radix bound text 0 = .error fault ↔ DigitFault radix bound text fault := by
  rw [readDigits_eq_error_iff]
  simp only [readDigits_zero_eq_ok_iff hradix hbound, readDigits_singleton_eq_error_iff hradix]
  constructor
  · rintro ⟨before, c, after, front, rfl, ⟨hspelled, hbelow⟩, ⟨hnoDigit, rfl⟩ | ⟨digit, hdigit,
      habove, rfl⟩⟩
    · exact .invalidDigit hspelled hbelow hnoDigit
    · refine .tooLarge hspelled hbelow ?_ habove
      exact (spells_append_singleton hradix (List.cons_ne_nil _ _)).2
        ⟨front, digit, hspelled, hdigit, rfl⟩
  · rintro (⟨hspelled, hbelow, hnoDigit⟩ | ⟨hspelled, hbelow, hfurther, habove⟩)
    · exact ⟨_, _, _, _, rfl, ⟨hspelled, hbelow⟩, .inl ⟨hnoDigit, rfl⟩⟩
    · obtain ⟨front, digit, hfront, hdigit, rfl⟩ :=
        (spells_append_singleton hradix (List.cons_ne_nil _ _)).1 hfurther
      refine ⟨_, _, _, front, rfl, ⟨hfront, ?_⟩, .inr ⟨digit, hdigit, habove, rfl⟩⟩
      rw [hfront.unique hradix hspelled]
      exact hbelow

end Reading

/-! ## Signs -/

section Signs

variable {radix bound n : ℕ} {text : List Char} {fault : IntegerFault}

/-- Whether a text spells a number, with or without a plus sign. -/
inductive SpellsUnsigned (radix : ℕ) : List Char → ℕ → Prop
  | bare {text : List Char} {n : ℕ} (spelled : Spells radix text n) : SpellsUnsigned radix text n
  | plus {text : List Char} {n : ℕ} (spelled : Spells radix text n) :
      SpellsUnsigned radix ('+' :: text) n

/-- Why a text is no number below the bound. -/
inductive UnsignedFault (radix bound : ℕ) : List Char → IntegerFault → Prop
  | empty : UnsignedFault radix bound [] .empty
  | lonelyPlus : UnsignedFault radix bound ['+'] .invalidDigit
  | bare {c : Char} {rest : List Char} {fault : IntegerFault} (noPlus : c ≠ '+')
      (digits : DigitFault radix bound (c :: rest) fault) :
      UnsignedFault radix bound (c :: rest) fault
  | plus {c : Char} {rest : List Char} {fault : IntegerFault}
      (digits : DigitFault radix bound (c :: rest) fault) :
      UnsignedFault radix bound ('+' :: c :: rest) fault

theorem readUnsigned_eq_ok_iff (hradix : IsRadix radix) (hbound : 0 < bound) :
    readUnsigned radix bound text = .ok n ↔ SpellsUnsigned radix text n ∧ n < bound := by
  have hdigits : ∀ {c rest}, readDigits radix bound (c :: rest) 0 = .ok n ↔
      Spells radix (c :: rest) n ∧ n < bound := by
    intro c rest
    rw [readDigits_zero_eq_ok_iff hradix hbound, spells_zero_cons hradix (List.cons_ne_nil _ _)]
  constructor
  · intro h
    match text, h with
    | c :: rest, h =>
      by_cases hplus : c = '+'
      · subst hplus
        cases rest with
        | nil => cases h
        | cons d rest =>
          obtain ⟨hspelled, hlt⟩ := hdigits.1 h
          exact ⟨.plus hspelled, hlt⟩
      · rw [readUnsigned_of_ne_plus hplus] at h
        obtain ⟨hspelled, hlt⟩ := hdigits.1 h
        exact ⟨.bare hspelled, hlt⟩
  · rintro ⟨hspelled | hspelled, hlt⟩
    · obtain ⟨c, rest, rfl⟩ := List.exists_cons_of_ne_nil hspelled.ne_nil
      have hplus : c ≠ '+' := by
        rintro rfl
        exact Spells.ne_plus_cons hradix hspelled
      rw [readUnsigned_of_ne_plus hplus]
      exact hdigits.2 ⟨hspelled, hlt⟩
    · rename_i text
      obtain ⟨c, rest, rfl⟩ := List.exists_cons_of_ne_nil hspelled.ne_nil
      exact hdigits.2 ⟨hspelled, hlt⟩

theorem readUnsigned_eq_error_iff (hradix : IsRadix radix) (hbound : 0 < bound) :
    readUnsigned radix bound text = .error fault ↔ UnsignedFault radix bound text fault := by
  have hdigits : ∀ {c rest}, readDigits radix bound (c :: rest) 0 = .error fault ↔
      DigitFault radix bound (c :: rest) fault :=
    readDigits_zero_eq_error_iff hradix hbound
  constructor
  · intro h
    match text, h with
    | [], h =>
      cases h
      exact .empty
    | c :: rest, h =>
      by_cases hplus : c = '+'
      · subst hplus
        cases rest with
        | nil =>
          cases h
          exact .lonelyPlus
        | cons d rest => exact .plus (hdigits.1 h)
      · rw [readUnsigned_of_ne_plus hplus] at h
        exact .bare hplus (hdigits.1 h)
  · rintro (_ | _ | ⟨hplus, hfault⟩ | hfault)
    · rfl
    · rfl
    · rw [readUnsigned_of_ne_plus hplus]
      exact hdigits.2 hfault
    · exact hdigits.2 hfault

end Signs

/-! ## Numbers with a sign -/

section Signed

variable {bound : ℕ} {text : List Char} {n : ℤ}

theorem readSigned?_minus_cons (c : Char) (rest : List Char) :
    readSigned? bound ('-' :: c :: rest) =
      (readDigits 10 (bound + 1) (c :: rest) 0).toOption.map fun n : ℕ ↦ -(n : ℤ) := by
  rw [readSigned?]
  · cases readDigits 10 (bound + 1) (c :: rest) 0 <;> rfl
  · simp

theorem readSigned?_of_ne_minus {c : Char} (h : c ≠ '-') (rest : List Char) :
    readSigned? bound (c :: rest) =
      (readUnsigned 10 bound (c :: rest)).toOption.map fun n : ℕ ↦ (n : ℤ) := by
  unfold readSigned?
  split
  · rename_i heq
    exact absurd (List.cons.inj heq).1 h
  · rename_i heq
    exact absurd (List.cons.inj heq).1 h
  · cases readUnsigned 10 bound (c :: rest) <;> rfl

theorem toOption_eq_some_iff {α ε : Type} {x : Except ε α} {a : α} :
    x.toOption = some a ↔ x = .ok a := by
  cases x <;> simp [Except.toOption]

/-- What is read is from the bound below zero up to the bound. -/
theorem range_of_readSigned? (hbound : 0 < bound) (h : readSigned? bound text = some n) :
    -(bound : ℤ) ≤ n ∧ n < bound := by
  match text, h with
  | c :: rest, h =>
    by_cases hminus : c = '-'
    · subst hminus
      cases rest with
      | nil => cases h
      | cons d rest =>
        rw [readSigned?_minus_cons] at h
        obtain ⟨m, hm, rfl⟩ := Option.map_eq_some_iff.1 h
        have hlt := lt_of_readDigits (Nat.succ_pos bound) (toOption_eq_some_iff.1 hm)
        omega
    · rw [readSigned?_of_ne_minus hminus] at h
      obtain ⟨m, hm, rfl⟩ := Option.map_eq_some_iff.1 h
      have hlt := ((readUnsigned_eq_ok_iff (by decide) hbound).1 (toOption_eq_some_iff.1 hm)).2
      omega

theorem toList_toString_natCast (n : ℕ) : (toString (n : ℤ)).toList = Nat.toDigits 10 n := by
  rw [Int.toString_eq_repr, Int.repr_eq_if, if_pos (Int.natCast_nonneg n), Nat.toList_repr,
    Int.toNat_natCast]

theorem toList_toString_neg {n : ℕ} (h : 0 < n) :
    (toString (-(n : ℤ))).toList = '-' :: Nat.toDigits 10 n := by
  rw [Int.toString_eq_repr, Int.repr_eq_if, if_neg (by omega), String.toList_append,
    Nat.toList_repr, Int.neg_neg, Int.toNat_natCast]
  rfl

/-- The digits of a number, behind a minus sign if it is negative, read as that number. -/
theorem readSigned?_toString (hlow : -(bound : ℤ) ≤ n) (hhigh : n < bound) :
    readSigned? bound (toString n).toList = some n := by
  have hdigits : ∀ m : ℕ, ∃ c rest, Nat.toDigits 10 m = c :: rest ∧ c.isDigit = true := by
    intro m
    obtain ⟨c, rest, hm⟩ := List.exists_cons_of_ne_nil (Nat.toDigits_ne_nil (b := 10) (n := m))
    exact ⟨c, rest, hm, Nat.isDigit_of_mem_toDigits (by decide) (by decide)
      (hm ▸ List.mem_cons_self)⟩
  by_cases hnegative : n < 0
  · obtain ⟨m, rfl⟩ : ∃ m : ℕ, n = -(m : ℤ) := ⟨n.natAbs, by omega⟩
    obtain ⟨c, rest, hc, -⟩ := hdigits m
    rw [toList_toString_neg (by omega), hc, readSigned?_minus_cons, ← hc,
      readDigits_toDigits (by omega)]
    rfl
  · obtain ⟨m, rfl⟩ := Int.eq_ofNat_of_zero_le (Int.not_lt.1 hnegative)
    obtain ⟨c, rest, hc, hdigit⟩ := hdigits m
    have hminus : c ≠ '-' := by
      rintro rfl
      cases hdigit
    rw [toList_toString_natCast, hc, readSigned?_of_ne_minus hminus, ← hc,
      readUnsigned_toDigits (by omega)]
    rfl

theorem toString_ne_nil (n : ℤ) : (toString n).toList ≠ [] := by
  rw [Int.toString_eq_repr, Int.repr_eq_if]
  split
  · rw [Nat.toList_repr]
    exact Nat.toDigits_ne_nil
  · rw [String.toList_append]
    exact List.cons_ne_nil _ _

/-- A whole number is written with digits and a minus sign. -/
theorem forall_mem_toString (n : ℤ) {p : Char → Prop} (digits : ∀ c, c.isDigit = true → p c)
    (minus : p '-') : ∀ c ∈ (toString n).toList, p c := by
  have hdigits : ∀ m : ℕ, ∀ c ∈ m.repr.toList, p c := by
    intro m c hc
    rw [Nat.toList_repr] at hc
    exact digits c (Nat.isDigit_of_mem_toDigits (by decide) (by decide) hc)
  rw [Int.toString_eq_repr, Int.repr_eq_if]
  split
  · exact hdigits _
  · rw [String.toList_append]
    exact List.forall_mem_cons.2 ⟨minus, hdigits _⟩

end Signed

end GpuCounters.Decimal
