import GpuCounters.Decimal.Fixed
import GpuCounters.Proofs.Counter.Whole
import Mathlib.Data.List.DropRight

/-!
# Texts with fixed places

A number with a fixed count of places is written without white space, and there is always a digit
or a letter in it that is neither a zero behind the point nor the point.
-/

namespace GpuCounters.Decimal

open Binary

/-! ## Trailing characters -/

theorem dropTrailing_eq_rdropWhile (c : Char) (text : List Char) :
    dropTrailing c text = text.rdropWhile (· = c) := rfl

theorem dropTrailing_subset (c : Char) (text : List Char) : dropTrailing c text ⊆ text :=
  (List.rdropWhile_prefix _ text).subset

/-- What stands in front of another character stays. The induction is on what is behind it, from
the end. -/
theorem dropTrailing_append_cons {c d : Char} (h : d ≠ c) (front rest : List Char) :
    dropTrailing c (front ++ d :: rest) = front ++ d :: dropTrailing c rest := by
  induction rest using List.reverseRecOn with
  | nil => exact List.rdropWhile_concat_neg _ _ _ (by simpa using h)
  | append_singleton rest last ih =>
    simp only [dropTrailing_eq_rdropWhile] at ih ⊢
    rw [← List.cons_append, ← List.append_assoc, List.rdropWhile_concat, List.rdropWhile_concat,
      ih]
    split
    · rfl
    · rw [List.append_assoc, List.cons_append]

theorem dropTrailing_of_notMem {c : Char} {text : List Char} (h : c ∉ text) :
    dropTrailing c text = text := by
  rw [dropTrailing_eq_rdropWhile, List.rdropWhile_eq_self_iff]
  intro hne hlast
  exact h (of_decide_eq_true hlast ▸ List.getLast_mem hne)

/-- What is dropped is a run of the character. -/
theorem exists_dropTrailing_append (c : Char) (text : List Char) :
    ∃ count, dropTrailing c text ++ List.replicate count c = text := by
  refine ⟨(text.rtakeWhile fun d ↦ d = c).length, ?_⟩
  have hrun : List.replicate (text.rtakeWhile fun d ↦ d = c).length c =
      text.rtakeWhile fun d ↦ d = c := by
    refine (List.eq_replicate_iff.2 ⟨rfl, fun d hd ↦ ?_⟩).symm
    exact of_decide_eq_true (List.mem_rtakeWhile_imp (p := fun d ↦ d = c) hd)
  rw [hrun, dropTrailing_eq_rdropWhile, List.rdropWhile_append_rtakeWhile]

theorem getLast?_dropTrailing_ne (c : Char) (text : List Char) :
    (dropTrailing c text).getLast? ≠ some c := by
  by_cases hne : dropTrailing c text = []
  · simp [hne]
  · rw [List.getLast?_eq_some_getLast hne]
    intro hlast
    exact List.rdropWhile_last_not (fun d ↦ d = c) text hne
      (decide_eq_true (Option.some.inj hlast))

theorem dropTrailing_ne_nil {c d : Char} {text : List Char} (h : d ∈ text) (hd : d ≠ c) :
    dropTrailing c text ≠ [] := by
  rw [dropTrailing_eq_rdropWhile, Ne, List.rdropWhile_eq_nil_iff]
  intro hall
  exact hd (by simpa using hall d h)

/-! ## Numbers with fixed places -/

/-- The digits in front of the point of a number with fixed places. -/
theorem exists_withPlaces (places count : Nat) :
    ∃ digit whole fraction, withPlaces places count = digit :: whole ++ '.' :: fraction ∧
      digit.isDigit = true ∧ ∀ c ∈ digit :: whole ++ fraction, c.isDigit = true := by
  have hdigit : ∀ n, ∀ c ∈ Nat.toDigits 10 n, c.isDigit = true := fun n c hc ↦
    Nat.isDigit_of_mem_toDigits (by decide) (by decide) hc
  obtain ⟨digit, whole, hwhole⟩ :=
    List.exists_cons_of_ne_nil (Nat.toDigits_ne_nil (n := count / Nat.pow 10 places) (b := 10))
  have hfront := hdigit (count / Nat.pow 10 places)
  rw [hwhole] at hfront
  refine ⟨digit, whole, _, by rw [withPlaces, hwhole], hfront digit List.mem_cons_self, ?_⟩
  refine List.forall_mem_append.2 ⟨hfront, List.forall_mem_append.2 ⟨?_, hdigit _⟩⟩
  intro c hc
  rw [List.eq_of_mem_replicate hc]
  rfl

section Fixed

variable {f : Format}

theorem isBlank_of_mem_fixed (places : Nat) (x : Binary f) :
    ∀ c ∈ fixed places x, Text.isBlank c = false := by
  cases x with
  | nan =>
    have hword : ∀ c ∈ "NaN".toList, Text.isBlank c = false := by simp [Text.isBlank]
    exact hword
  | infinite negative =>
    have hword : ∀ minus : Bool, ∀ c ∈ if minus then "-inf".toList else "inf".toList,
        Text.isBlank c = false := by simp [Text.isBlank]
    exact hword negative
  | finite negative m e hvalid =>
    obtain ⟨digit, whole, fraction, htext, -, hdigits⟩ :=
      exists_withPlaces places (steps places m e)
    have hmagnitude : ∀ c ∈ withPlaces places (steps places m e), Text.isBlank c = false := by
      rw [htext]
      intro c hc
      obtain hfront | hrest := List.mem_append.1 hc
      · exact Text.isBlank_of_isDigit (hdigits c (List.mem_append_left _ hfront))
      · obtain rfl | hfraction := List.mem_cons.1 hrest
        · rfl
        · exact Text.isBlank_of_isDigit (hdigits c (List.mem_append_right _ hfraction))
    cases negative with
    | false => exact hmagnitude
    | true => exact List.forall_mem_cons.2 ⟨rfl, hmagnitude⟩

/-- Something is left of a number without the zeros at its end and its point. -/
theorem dropTrailing_fixed_ne_nil (places : Nat) (x : Binary f) :
    dropTrailing '.' (dropTrailing '0' (fixed places x)) ≠ [] := by
  cases x with
  | nan =>
    have hword : dropTrailing '.' (dropTrailing '0' "NaN".toList) ≠ [] := by decide
    exact hword
  | infinite negative =>
    have hword : ∀ minus : Bool, dropTrailing '.' (dropTrailing '0'
        (if minus then "-inf".toList else "inf".toList)) ≠ [] := by decide
    exact hword negative
  | finite negative m e hvalid =>
    obtain ⟨digit, whole, fraction, htext, hdigit, -⟩ :=
      exists_withPlaces places (steps places m e)
    have hpoint : digit ≠ '.' := by
      rintro rfl
      cases hdigit
    obtain ⟨sign, hsign⟩ : ∃ sign, fixed places (.finite negative m e hvalid : Binary f) =
        sign ++ digit :: whole ++ '.' :: fraction := by
      cases negative with
      | false => exact ⟨[], htext⟩
      | true => exact ⟨['-'], congrArg ('-' :: ·) htext⟩
    have hmem : digit ∈ sign ++ digit :: whole ++ '.' :: dropTrailing '0' fraction := by simp
    rw [hsign, dropTrailing_append_cons (by decide)]
    exact dropTrailing_ne_nil hmem hpoint

end Fixed

end GpuCounters.Decimal
