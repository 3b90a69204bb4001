import GpuCounters.Json.Reader
import GpuCounters.Proofs.Decimal.Numerals
import GpuCounters.Proofs.Decimal.RoundTrip

/-!
# Literals of numbers

A literal is a whole number without a superfluous zero, and may have a sign, a fraction and an
exponent. Where nothing behind it could belong to it, exactly the literal is read. Natural numbers
are written as literals, and so are the finite numbers of a binary format in every layout in which
whole numbers end in a fraction or in nothing.
-/

namespace GpuCounters.Json

open Decimal

/-! ## Literals -/

/-- Whether a text is a whole number without a superfluous zero. -/
def IsWhole (digits : List Char) : Prop :=
  digits = ['0'] ∨ IsDigits digits ∧ digits ≠ [] ∧ digits.head? ≠ some '0'

/-- Whether a text is a point with digits behind it, or nothing. -/
inductive IsFraction : List Char → Prop
  | absent : IsFraction []
  | digits {digits : List Char} (hdigits : IsDigits digits) (hne : digits ≠ []) :
    IsFraction ('.' :: digits)

/-- Whether a text is an exponent with its sign, or nothing. -/
inductive IsExponent : List Char → Prop
  | absent : IsExponent []
  | digits {sign : Char} (hsign : sign = '+' ∨ sign = '-') {digits : List Char}
    (hdigits : IsDigits digits) (hne : digits ≠ []) : IsExponent ('e' :: sign :: digits)

/-- Whether a text is the literal of a number. -/
inductive IsLiteral : List Char → Prop
  | intro (negative : Bool) {whole fraction exponent : List Char} (hwhole : IsWhole whole)
    (hfraction : IsFraction fraction) (hexponent : IsExponent exponent) :
    IsLiteral (signed negative (whole ++ fraction ++ exponent))

/-- Whether nothing at the start of a text could belong to a number before it. -/
def Ends (rest : List Char) : Prop :=
  ∀ c ∈ rest.head?, c.isDigit = false ∧ c ≠ '.' ∧ c ≠ 'e' ∧ c ≠ 'E'

theorem ends_nil : Ends [] := fun _ hc ↦ absurd hc (by simp)

theorem ends_cons {c : Char} (h : c.isDigit = false ∧ c ≠ '.' ∧ c ≠ 'e' ∧ c ≠ 'E')
    (rest : List Char) : Ends (c :: rest) := by
  intro d hd
  obtain rfl := Option.some.inj hd
  exact h

/-! ## Reading literals -/

section Reading

variable {digits fraction exponent whole rest : List Char}

theorem takeDigits_append (h : IsDigits digits) (hrest : ∀ c ∈ rest.head?, c.isDigit = false) :
    takeDigits (digits ++ rest) = (digits, rest) := by
  have htake : rest.takeWhile Char.isDigit = [] := by
    cases rest with
    | nil => rfl
    | cons c rest => exact List.takeWhile_cons_of_neg (by simp [hrest c rfl])
  have hdrop : rest.dropWhile Char.isDigit = rest := by
    cases rest with
    | nil => rfl
    | cons c rest => exact List.dropWhile_cons_of_neg (by simp [hrest c rfl])
  rw [takeDigits, takeWhile_isDigit_append h htake, List.dropWhile_append_of_pos h, hdrop]

theorem IsExponent.takeExponent_append (h : IsExponent exponent) (hrest : Ends rest) :
    takeExponent (exponent ++ rest) = some (exponent, rest) := by
  cases h with
  | absent =>
    cases rest with
    | nil => rfl
    | cons c rest =>
      obtain ⟨-, -, hsmall, hlarge⟩ := hrest c rfl
      exact if_neg fun h ↦ h.elim hsmall hlarge
  | digits hsign hdigits hne =>
    have hread := takeDigits_append hdigits fun c hc ↦ (hrest c hc).1
    obtain rfl | rfl := hsign <;>
      simp only [List.cons_append, takeExponent, true_or, if_true, hread, if_neg hne,
        List.nil_append]

/-- An exponent starts with no digit and no point. -/
theorem IsExponent.head?_append (h : IsExponent exponent) (hrest : Ends rest) :
    ∀ c ∈ (exponent ++ rest).head?, c.isDigit = false ∧ c ≠ '.' := by
  cases h with
  | absent => exact fun c hc ↦ ⟨(hrest c hc).1, (hrest c hc).2.1⟩
  | digits =>
    intro c hc
    obtain rfl := Option.some.inj hc
    decide

theorem IsFraction.takeFraction_append (h : IsFraction fraction)
    (hrest : ∀ c ∈ rest.head?, c.isDigit = false ∧ c ≠ '.') :
    takeFraction (fraction ++ rest) = some (fraction, rest) := by
  cases h with
  | absent =>
    rw [List.nil_append]
    unfold takeFraction
    split
    · exact absurd rfl (hrest '.' rfl).2
    · rfl
  | digits hdigits hne =>
    have hread := takeDigits_append hdigits fun c hc ↦ (hrest c hc).1
    simp only [List.cons_append, takeFraction, hread, if_neg hne]

theorem IsFraction.head?_append (h : IsFraction fraction)
    (hrest : ∀ c ∈ rest.head?, c.isDigit = false) :
    ∀ c ∈ (fraction ++ rest).head?, c.isDigit = false := by
  cases h with
  | absent => exact hrest
  | digits =>
    intro c hc
    obtain rfl := Option.some.inj hc
    decide

theorem IsWhole.exists_cons (h : IsWhole whole) :
    ∃ c more, whole = c :: more ∧ c.isDigit = true := by
  obtain rfl | ⟨hdigits, hne, -⟩ := h
  · exact ⟨'0', [], rfl, by decide⟩
  · obtain ⟨c, more, rfl⟩ := List.exists_cons_of_ne_nil hne
    exact ⟨c, more, rfl, hdigits c List.mem_cons_self⟩

/-- What is read behind the sign of a number. -/
def takeWhole (unsigned : List Char) : Option (List Char × List Char) :=
  match unsigned with
  | '0' :: c :: rest => if c.isDigit then none else some (['0'], c :: rest)
  | ['0'] => some (['0'], [])
  | _ => some (takeDigits unsigned)

theorem IsWhole.takeWhole_append (h : IsWhole whole)
    (hrest : ∀ c ∈ rest.head?, c.isDigit = false) :
    takeWhole (whole ++ rest) = some (whole, rest) := by
  obtain rfl | ⟨hdigits, hne, hzero⟩ := h
  · cases rest with
    | nil => rfl
    | cons c rest => exact if_neg (by simp [hrest c rfl])
  · obtain ⟨c, more, rfl⟩ := List.exists_cons_of_ne_nil hne
    have hc : c ≠ '0' := fun heq ↦ hzero (congrArg some heq)
    unfold takeWhole
    split
    · rename_i heq
      exact absurd (List.cons.inj heq).1 hc
    · rename_i heq
      exact absurd (List.cons.inj heq).1 hc
    · rw [takeDigits_append hdigits hrest]

theorem bind_takeWhole {α : Type} (unsigned : List Char)
    (next : List Char × List Char → Option α) :
    (takeWhole unsigned).bind next =
      match unsigned with
      | '0' :: c :: rest => if c.isDigit then none else next (['0'], c :: rest)
      | ['0'] => next (['0'], [])
      | _ => next (takeDigits unsigned) := by
  unfold takeWhole
  split
  · split <;> rfl
  · rfl
  · rfl

/-- Behind the digits before its point a number is read part after part. -/
theorem takeNumber_signed (negative : Bool) {c : Char} (hc : c.isDigit = true) (text : List Char) :
    takeNumber (signed negative (c :: text)) =
      (takeWhole (c :: text)).bind fun (whole, rest) ↦
        if whole = [] then none
        else
          (takeFraction rest).bind fun (fraction, rest) ↦
            (takeExponent rest).bind fun (exponent, rest) ↦
              some (signed negative (whole ++ fraction ++ exponent), rest) := by
  rw [bind_takeWhole]
  cases negative with
  | true => rfl
  | false =>
    change takeNumber (c :: text) = _
    unfold takeNumber
    split
    rename_i heq
    split at heq
    · rename_i hminus
      exact absurd (List.cons.inj hminus).1 (ne_of_isDigit hc (by decide))
    · obtain ⟨rfl, rfl⟩ := Prod.mk.inj heq
      rfl

/-- Exactly a literal is read where it ends. -/
theorem IsLiteral.takeNumber_append {literal : List Char} (h : IsLiteral literal)
    (hrest : Ends rest) : takeNumber (literal ++ rest) = some (literal, rest) := by
  obtain ⟨negative, hwhole, hfraction, hexponent⟩ := h
  rename_i whole fraction exponent
  have hbehindExponent := hexponent.head?_append hrest
  have hbehindFraction := hfraction.head?_append fun c hc ↦ (hbehindExponent c hc).1
  have hread := hwhole.takeWhole_append hbehindFraction
  obtain ⟨c, more, rfl, hc⟩ := hwhole.exists_cons
  have htext : signed negative (c :: more ++ fraction ++ exponent) ++ rest =
      signed negative (c :: (more ++ (fraction ++ (exponent ++ rest)))) := by
    cases negative <;> simp [signed]
  rw [List.cons_append] at hread
  rw [htext, takeNumber_signed negative hc, hread]
  simp only [Option.bind_some, if_neg (List.cons_ne_nil c more),
    hfraction.takeFraction_append hbehindExponent, hexponent.takeExponent_append hrest]

/-- A literal starts with a digit or a minus sign. -/
theorem IsLiteral.exists_cons {literal : List Char} (h : IsLiteral literal) :
    ∃ c text, literal = c :: text ∧ (c = '-' ∨ c.isDigit = true) := by
  obtain ⟨negative, hwhole, -, -⟩ := h
  obtain ⟨c, more, rfl, hc⟩ := hwhole.exists_cons
  cases negative with
  | true => exact ⟨'-', _, rfl, .inl rfl⟩
  | false => exact ⟨c, _, rfl, .inr hc⟩

end Reading

/-! ## Written numbers -/

/-- The induction is on the number: all its digits but the last are those of its tenth part. -/
theorem head?_toDigits {n : ℕ} (hn : 0 < n) : (Nat.toDigits 10 n).head? ≠ some '0' := by
  induction n using Nat.strongRecOn with
  | ind n ih =>
    by_cases hsmall : n < 10
    · rw [Nat.toDigits_of_lt_base hsmall, List.head?_cons]
      intro hzero
      exact hn.ne' ((digitChar_eq_zero_iff (by omega)).1 (Option.some.inj hzero))
    · rw [Nat.toDigits_of_base_le (by decide) (by omega),
        List.head?_append_of_ne_nil _ Nat.toDigits_ne_nil]
      exact ih (n / 10) (by omega) (by omega)

theorem isWhole_toDigits (n : ℕ) : IsWhole (Nat.toDigits 10 n) := by
  by_cases hn : n = 0
  · subst hn
    exact .inl rfl
  · exact .inr ⟨isDigits_toDigits n, Nat.toDigits_ne_nil, head?_toDigits (Nat.pos_of_ne_zero hn)⟩

theorem isLiteral_toDigits (n : ℕ) : IsLiteral (Nat.toDigits 10 n) := by
  have h := IsLiteral.intro false (isWhole_toDigits n) .absent .absent
  rwa [List.append_nil, List.append_nil] at h

section Layout

variable {layout : Layout} {digits : List Char}

/-- Whether a text is a literal without a sign. -/
def IsMagnitude (text : List Char) : Prop :=
  ∃ whole fraction exponent, IsWhole whole ∧ IsFraction fraction ∧ IsExponent exponent ∧
    text = whole ++ fraction ++ exponent

theorem IsMagnitude.isLiteral {text : List Char} (h : IsMagnitude text) (negative : Bool) :
    IsLiteral (signed negative text) := by
  obtain ⟨whole, fraction, exponent, hwhole, hfraction, hexponent, rfl⟩ := h
  exact .intro negative hwhole hfraction hexponent

theorem isMagnitude_aroundPoint (hmark : IsFraction layout.wholeMark) (hdigits : IsDigits digits)
    (hne : digits ≠ []) (hzero : digits.head? ≠ some '0') (exponent : ℤ) :
    IsMagnitude (layout.aroundPoint digits exponent) := by
  unfold Layout.aroundPoint
  split
  · refine ⟨digits ++ List.replicate exponent.toNat '0', layout.wholeMark, [], .inr ⟨?_, ?_, ?_⟩,
      hmark, .absent, (List.append_nil _).symm⟩
    · exact hdigits.append (isDigits_replicate_zero _)
    · simp [hne]
    · rwa [List.head?_append_of_ne_nil _ hne]
  · dsimp only
    split
    · rename_i hfractional hlt
      obtain ⟨count, hcount⟩ : ∃ count, digits.length - (-exponent).toNat = count + 1 :=
        ⟨digits.length - (-exponent).toNat - 1, by omega⟩
      rw [hcount]
      refine ⟨digits.take (count + 1), '.' :: digits.drop (count + 1), [], .inr ⟨?_, ?_, ?_⟩,
        .digits ?_ ?_, .absent, (List.append_nil _).symm⟩
      · exact hdigits.of_subset (List.take_subset _ _)
      · simp [List.take_eq_nil_iff, hne]
      · rwa [List.head?_take, if_neg (Nat.succ_ne_zero count)]
      · exact hdigits.of_subset (List.drop_subset _ _)
      · rw [Ne, List.drop_eq_nil_iff]
        omega
    · exact ⟨['0'], _, [], .inl rfl,
        .digits ((isDigits_replicate_zero _).append hdigits) (by simp [hne]), .absent,
        (List.append_nil _).symm⟩

theorem isMagnitude_withExponent (hdigits : IsDigits digits) (hne : digits ≠ [])
    (hzero : digits.head? ≠ some '0') (lead : ℤ) :
    IsMagnitude (Layout.withExponent digits lead) := by
  have hexponent : IsExponent
      ('e' :: (if lead < 0 then '-' else '+') :: Nat.toDigits 10 lead.natAbs) := by
    refine .digits ?_ (isDigits_toDigits _) Nat.toDigits_ne_nil
    split
    · exact .inr rfl
    · exact .inl rfl
  obtain ⟨digit, more, rfl⟩ := List.exists_cons_of_ne_nil hne
  have hdigit : IsWhole [digit] :=
    .inr ⟨hdigits.of_subset (by simp), List.cons_ne_nil _ _, hzero⟩
  cases more with
  | nil => exact ⟨[digit], [], _, hdigit, .absent, hexponent, rfl⟩
  | cons next more =>
    have hmore : IsFraction ('.' :: next :: more) :=
      .digits (hdigits.of_subset (List.subset_cons_self _ _)) (List.cons_ne_nil _ _)
    exact ⟨[digit], _, _, hdigit, hmore, hexponent, rfl⟩

theorem isMagnitude_positive (hmark : IsFraction layout.wholeMark) {decimal : Scientific}
    (h : 0 < decimal.significand) : IsMagnitude (layout.positive decimal) := by
  have hdigits := isDigits_toDigits decimal.significand
  have hne : Nat.toDigits 10 decimal.significand ≠ [] := Nat.toDigits_ne_nil
  have hzero := head?_toDigits h
  exact iteInduction (fun _ ↦ isMagnitude_aroundPoint hmark hdigits hne hzero _)
    fun _ ↦ isMagnitude_withExponent hdigits hne hzero _

/-- A number is written as a literal, whichever layout it has. -/
theorem isLiteral_render {f : Binary.Format} (hf : HasDecimals f)
    (hmark : IsFraction layout.wholeMark) {x : Binary f} (h : x.isFinite = true) :
    IsLiteral (layout.render x) := by
  cases x with
  | nan => cases h
  | infinite negative => cases h
  | finite negative m e canonical =>
    refine IsMagnitude.isLiteral ?_ negative
    split
    · exact ⟨['0'], layout.wholeMark, [], .inl rfl, hmark, .absent, (List.append_nil _).symm⟩
    · rename_i hm
      exact isMagnitude_positive hmark
        (shortest_spec hf layout.tie (Nat.pos_of_ne_zero hm) canonical.1).1

end Layout

end GpuCounters.Json
