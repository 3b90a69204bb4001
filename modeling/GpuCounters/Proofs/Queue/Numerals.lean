import GpuCounters.Proofs.Decimal.Numerals
import GpuCounters.Proofs.FirstFault
import GpuCounters.Proofs.Text.Words
import GpuCounters.Queue.Numerals
import Mathlib.Data.List.Forall2

/-!
# Numerals read back

The numerals of a text are the words between its commas and white space. A text is a list of numbers
exactly if each of its words denotes one below `2 ^ 64`, in decimal or in base sixteen behind its
mark, and otherwise it is refused for its first word that does not.
-/

namespace GpuCounters.Queue

open Decimal

abbrev bound : ℕ := UInt64.size

/-- Whether a character marks base sixteen behind a zero. -/
def IsHexMark (c : Char) : Prop := c = 'x' ∨ c = 'X'

/-- Whether a numeral denotes a number. -/
inductive Denotes : List Char → ℕ → Prop
  | decimal {text : List Char} {n : ℕ} (spelled : SpellsUnsigned 10 text n) : Denotes text n
  | hexadecimal {mark : Char} {digits : List Char} {n : ℕ} (marked : IsHexMark mark)
      (spelled : SpellsUnsigned 16 digits n) : Denotes ('0' :: mark :: digits) n

/-- Whether a numeral is none of a number below the bound, and what is wrong with it. -/
inductive IsBad : List Char → BadNumeral → Prop
  | decimal {text : List Char} {fault : IntegerFault}
      (unmarked : ∀ mark digits, IsHexMark mark → text ≠ '0' :: mark :: digits)
      (faulty : UnsignedFault 10 bound text fault) :
      IsBad text ⟨false, String.ofList text, fault⟩
  | hexadecimal {mark : Char} {digits : List Char} {fault : IntegerFault} (marked : IsHexMark mark)
      (faulty : UnsignedFault 16 bound digits fault) :
      IsBad ('0' :: mark :: digits) ⟨true, String.ofList ('0' :: mark :: digits), fault⟩

theorem hexDigits?_eq_some_iff {text digits : List Char} :
    hexDigits? text = some digits ↔ ∃ mark, IsHexMark mark ∧ text = '0' :: mark :: digits := by
  constructor
  · intro h
    unfold hexDigits? at h
    split at h
    · obtain rfl := Option.some.inj h
      exact ⟨'x', .inl rfl, rfl⟩
    · obtain rfl := Option.some.inj h
      exact ⟨'X', .inr rfl, rfl⟩
    · cases h
  · rintro ⟨mark, rfl | rfl, rfl⟩ <;> rfl

/-- The mark of base sixteen is no decimal digit. -/
theorem not_spellsUnsigned_of_mark {mark : Char} (h : IsHexMark mark) {digits : List Char} {n : ℕ} :
    ¬SpellsUnsigned 10 ('0' :: mark :: digits) n := by
  rintro ⟨hspelled⟩
  obtain ⟨digit, hdigit, hlower⟩ := hspelled.exists_digit (by decide) mark (by simp)
  have hx : ∀ d < 10, d.digitChar ≠ 'x' := by decide
  have hmark : mark.toLower = 'x' := by obtain rfl | rfl := h <;> rfl
  exact hx digit hdigit (hlower.symm.trans hmark)

/-! ## Words -/

/-- A number that was read, or what is bad about its numeral. -/
def numberOr (bad : IntegerFault → BadNumeral) : Except IntegerFault ℕ → Except BadNumeral UInt64
  | .ok n => .ok (.ofNat n)
  | .error fault => .error (bad fault)

section Digits

variable {radix : ℕ} {digits : List Char} {bad : IntegerFault → BadNumeral}

theorem numberOr_readUnsigned_eq_ok_iff (hradix : IsRadix radix) {n : UInt64} :
    numberOr bad (readUnsigned radix bound digits) = .ok n ↔
      SpellsUnsigned radix digits n.toNat := by
  constructor
  · intro h
    cases hread : readUnsigned radix bound digits with
    | error fault => simp [hread, numberOr] at h
    | ok m =>
      obtain ⟨hspelled, hlt⟩ := (readUnsigned_eq_ok_iff hradix (by decide)).1 hread
      rw [hread] at h
      obtain rfl : UInt64.ofNat m = n := Except.ok.inj h
      rw [UInt64.toNat_ofNat_of_lt' hlt]
      exact hspelled
  · intro h
    rw [(readUnsigned_eq_ok_iff hradix (by decide)).2 ⟨h, n.toNat_lt⟩, numberOr, UInt64.ofNat_toNat]

theorem numberOr_readUnsigned_eq_error_iff (hradix : IsRadix radix) {numeral : BadNumeral} :
    numberOr bad (readUnsigned radix bound digits) = .error numeral ↔
      ∃ fault, UnsignedFault radix bound digits fault ∧ bad fault = numeral := by
  have hfault : ∀ fault, UnsignedFault radix bound digits fault ↔
      readUnsigned radix bound digits = .error fault :=
    fun _ ↦ (readUnsigned_eq_error_iff hradix (by decide)).symm
  simp only [hfault]
  cases readUnsigned radix bound digits <;> simp [numberOr]

end Digits

section Word

variable {word : List Char}

/-- A word is read as it stands. -/
theorem readNumeral_of_clean (clean : ∀ c ∈ word, isSeparator c = false) :
    readNumeral word =
      match hexDigits? word with
      | some digits => numberOr (⟨true, String.ofList word, ·⟩) (readUnsigned 16 bound digits)
      | none => numberOr (⟨false, String.ofList word, ·⟩) (readUnsigned 10 bound word) := by
  have htrim : Text.trim word = word := Text.trim_of_forall fun c hc ↦ by
    have hclean := clean c hc
    simp only [isSeparator, Bool.or_eq_false_iff] at hclean
    exact hclean.2
  rw [readNumeral, htrim]
  cases hexDigits? word with
  | some digits => cases readUnsigned 16 bound digits <;> rfl
  | none => cases readUnsigned 10 bound word <;> rfl

theorem readNumeral_eq_ok_iff (clean : ∀ c ∈ word, isSeparator c = false) {n : UInt64} :
    readNumeral word = .ok n ↔ Denotes word n.toNat := by
  rw [readNumeral_of_clean clean]
  cases hdigits : hexDigits? word with
  | some digits =>
    obtain ⟨mark, hmark, rfl⟩ := hexDigits?_eq_some_iff.1 hdigits
    refine (numberOr_readUnsigned_eq_ok_iff (by decide)).trans ⟨.hexadecimal hmark, ?_⟩
    rintro (hspelled | ⟨-, hspelled⟩)
    · exact absurd hspelled (not_spellsUnsigned_of_mark hmark)
    · exact hspelled
  | none =>
    refine (numberOr_readUnsigned_eq_ok_iff (by decide)).trans ⟨.decimal, ?_⟩
    rintro (hspelled | ⟨hmark, -⟩)
    · exact hspelled
    · rw [hexDigits?_eq_some_iff.2 ⟨_, hmark, rfl⟩] at hdigits
      cases hdigits

theorem readNumeral_eq_error_iff (clean : ∀ c ∈ word, isSeparator c = false) {bad : BadNumeral} :
    readNumeral word = .error bad ↔ IsBad word bad := by
  rw [readNumeral_of_clean clean]
  cases hdigits : hexDigits? word with
  | some digits =>
    obtain ⟨mark, hmark, rfl⟩ := hexDigits?_eq_some_iff.1 hdigits
    refine (numberOr_readUnsigned_eq_error_iff (by decide)).trans ⟨?_, ?_⟩
    · rintro ⟨fault, hfault, rfl⟩
      exact .hexadecimal hmark hfault
    · rintro (⟨hunmarked, -⟩ | ⟨-, hfault⟩)
      · exact absurd rfl (hunmarked mark digits hmark)
      · exact ⟨_, hfault, rfl⟩
  | none =>
    refine (numberOr_readUnsigned_eq_error_iff (by decide)).trans ⟨?_, ?_⟩
    · rintro ⟨fault, hfault, rfl⟩
      refine .decimal (fun mark digits hmark hword ↦ ?_) hfault
      rw [hexDigits?_eq_some_iff.2 ⟨mark, hmark, hword⟩] at hdigits
      cases hdigits
    · rintro (⟨-, hfault⟩ | ⟨hmark, -⟩)
      · exact ⟨_, hfault, rfl⟩
      · rw [hexDigits?_eq_some_iff.2 ⟨_, hmark, rfl⟩] at hdigits
        cases hdigits

end Word

/-! ## Texts -/

section Words

variable {words : List (List Char)}

theorem readNumerals_eq_ok_iff (clean : ∀ word ∈ words, ∀ c ∈ word, isSeparator c = false)
    {numbers : List UInt64} :
    readNumerals words = .ok numbers ↔
      List.Forall₂ (fun word number ↦ Denotes word number.toNat) words numbers := by
  induction words generalizing numbers with
  | nil => simp [readNumerals, eq_comm]
  | cons word rest ih =>
    obtain ⟨hword, hrest⟩ := List.forall_mem_cons.1 clean
    rw [List.forall₂_cons_left_iff, readNumerals]
    simp only [← readNumeral_eq_ok_iff hword, ← ih hrest]
    cases readNumeral word with
    | error bad => simp
    | ok number =>
      cases readNumerals rest with
      | error bad => simp
      | ok others => simp [eq_comm]

theorem readNumerals_eq_error_iff (clean : ∀ word ∈ words, ∀ c ∈ word, isSeparator c = false)
    {bad : BadNumeral} :
    readNumerals words = .error bad ↔
      FirstFault (fun word ↦ ∃ number : UInt64, Denotes word number.toNat) IsBad words bad := by
  induction words with
  | nil => exact iff_of_false (fun h ↦ nomatch h) not_firstFault_nil
  | cons word rest ih =>
    obtain ⟨hword, hrest⟩ := List.forall_mem_cons.1 clean
    rw [firstFault_cons, ← ih hrest, readNumerals, ← readNumeral_eq_error_iff hword]
    simp only [← readNumeral_eq_ok_iff hword]
    cases readNumeral word with
    | error bad => simp
    | ok number => cases readNumerals rest <;> simp

end Words

/-- Whether a text writes numbers out, each in any spelling, with any separators between them. -/
def Writes (text : List Char) (numbers : List UInt64) : Prop :=
  ∃ words, Text.Spaced isSeparator text words ∧
    List.Forall₂ (fun word number ↦ Denotes word number.toNat) words numbers

/-- Whether a numeral is the first bad one of a text. -/
def IsFirstBad (text : List Char) (bad : BadNumeral) : Prop :=
  ∃ words, Text.Spaced isSeparator text words ∧
    FirstFault (fun word ↦ ∃ number : UInt64, Denotes word number.toNat) IsBad words bad

section Texts

variable {text : String}

theorem clean_of_mem_words {text word : List Char} (h : word ∈ Text.words isSeparator text) :
    ∀ c ∈ word, isSeparator c = false :=
  ((Text.spaced_iff.2 rfl).clean word h).2

theorem readNumeralList_eq_ok_iff {numbers : List UInt64} :
    readNumeralList text = .ok numbers ↔ Writes text.toList numbers := by
  simp only [Writes, Text.spaced_iff, exists_eq_left']
  exact readNumerals_eq_ok_iff fun _ ↦ clean_of_mem_words

theorem readNumeralList_eq_error_iff {bad : BadNumeral} :
    readNumeralList text = .error bad ↔ IsFirstBad text.toList bad := by
  simp only [IsFirstBad, Text.spaced_iff, exists_eq_left']
  exact readNumerals_eq_error_iff fun _ ↦ clean_of_mem_words

end Texts

/-- A number begins with a digit or a plus sign. -/
theorem not_denotes_minus_cons {rest : List Char} {n : ℕ} : ¬Denotes ('-' :: rest) n := by
  rintro (hspelled | _)
  obtain ⟨hspelled⟩ := hspelled
  obtain ⟨digit, hdigit, hlower⟩ := hspelled.exists_digit (by decide) '-' List.mem_cons_self
  have hminus : ∀ d < 10, '-'.toLower ≠ d.digitChar := by decide
  exact hminus digit hdigit hlower

theorem not_writes_minus_cons {rest : List Char} {numbers : List UInt64} :
    ¬Writes ('-' :: rest) numbers := by
  rintro ⟨words, hspaced, hdenotes⟩
  generalize htext : '-' :: rest = text at hspaced
  cases hspaced with
  | nil => cases htext
  | mark marked =>
    cases htext
    exact absurd marked (by decide)
  | last =>
    subst htext
    cases hdenotes with
    | cons hword => exact not_denotes_minus_cons hword
  | word visible =>
    obtain ⟨c, word, rfl⟩ := List.exists_cons_of_ne_nil visible
    cases htext
    cases hdenotes with
    | cons hword => exact not_denotes_minus_cons hword

/-- Texts that are joined with spaces write out what each of them does, in order. -/
theorem Writes.join {texts : List (List Char)} {parts : List (List UInt64)}
    (h : List.Forall₂ Writes texts parts) :
    Writes ([' '].intercalate texts) parts.flatten := by
  induction h with
  | nil => exact ⟨[], .nil, .nil⟩
  | @cons text part texts parts htext hrest ih =>
    obtain ⟨words, hspaced, hwords⟩ := htext
    cases texts with
    | nil =>
      cases hrest
      rw [List.intercalate_singleton, List.flatten_singleton]
      exact ⟨words, hspaced, hwords⟩
    | cons next texts =>
      obtain ⟨others, hothers, hnumbers⟩ := ih
      refine ⟨words ++ others, ?_, List.rel_append hwords hnumbers⟩
      rw [List.intercalate_cons_cons, Text.spaced_iff, List.append_assoc, List.singleton_append,
        Text.words_append_mark (by decide), hspaced.words_eq, hothers.words_eq]

end GpuCounters.Queue
