import GpuCounters.Json.Reader
import GpuCounters.Json.Writer
import Mathlib.Tactic.SplitIfs

/-!
# Texts that are read back

Every character of a text is written as one piece, which stands for it alone, and none is written as
a quote without a backslash. So the pieces are read up to the quote that closes the text, and joined
they are the text again.
-/

namespace GpuCounters.Json

/-- Whether what is written is read as one piece, and the piece stands for a character. -/
def Shows (written : List Char) (c : Char) : Prop :=
  ∃ piece : Piece,
    (∀ fuel rest, takePieces (fuel + 1) (written ++ rest) =
      (takePieces fuel rest).map fun (pieces, rest) ↦ (piece :: pieces, rest)) ∧
      ∀ pieces, joinPieces (piece :: pieces) = (joinPieces pieces).map (c :: ·)

/-- An escape by one letter. -/
theorem shows_letter {letter c : Char} (h : letterEscape? letter = some c) :
    Shows ['\\', letter] c := by
  have hunit : letter ≠ 'u' := by
    rintro rfl
    simp [letterEscape?] at h
  refine ⟨.char c, fun fuel rest ↦ ?_, fun _ ↦ rfl⟩
  rw [List.cons_append, List.singleton_append, takePieces, h]
  · simp only [Option.bind_eq_bind, Option.bind_some]
    cases takePieces fuel rest <;> rfl
  · exact fun heq ↦ hunit heq

/-- The controls are few, and each of them is read back from its number. -/
theorem takeUnit_control {n : Nat} (h : n < 0x20) (rest : List Char) :
    takeUnit ('0' :: '0' :: Nat.digitChar (n / 16) :: Nat.digitChar (n % 16) :: rest) =
      some (n, rest) := by
  have hall : ∀ n < 0x20, hexDigit? (Nat.digitChar (n / 16)) = some (n / 16) ∧
      hexDigit? (Nat.digitChar (n % 16)) = some (n % 16) := by
    decide
  obtain ⟨hhigh, hlow⟩ := hall n h
  have hzero : hexDigit? '0' = some 0 := by decide
  simp only [takeUnit, hzero, hhigh, hlow, Option.bind_eq_bind, Option.bind_some]
  congr 2
  omega

theorem shows_control {c : Char} (h : c.toNat < 0x20) :
    Shows ['\\', 'u', '0', '0', Nat.digitChar (c.toNat / 16), Nat.digitChar (c.toNat % 16)] c := by
  refine ⟨.unit c.toNat, fun fuel rest ↦ ?_, fun pieces ↦ ?_⟩
  · simp only [List.cons_append, List.nil_append, takePieces, takeUnit_control h,
      Option.bind_eq_bind, Option.bind_some]
    cases takePieces fuel rest <;> rfl
  · -- No control is half of a surrogate pair.
    have hhigh : ¬(0xD800 ≤ c.toNat ∧ c.toNat < 0xDC00) := by omega
    have hlow : ¬(0xDC00 ≤ c.toNat ∧ c.toNat < 0xE000) := by omega
    rcases pieces with _ | ⟨_ | _, _⟩ <;>
      simp only [joinPieces, if_neg hhigh, if_neg hlow, Char.ofNat_toNat]

theorem shows_self {c : Char} (hquote : c ≠ '"') (hmark : c ≠ '\\') (h : ¬c.toNat < 0x20) :
    Shows [c] c := by
  refine ⟨.char c, fun fuel rest ↦ ?_, fun _ ↦ rfl⟩
  rw [List.singleton_append, takePieces, if_neg h]
  · cases takePieces fuel rest <;> rfl
  · exact fun heq ↦ hquote heq
  · exact fun _ heq ↦ absurd heq hmark
  · exact fun heq ↦ absurd heq hmark
  · exact fun _ _ heq ↦ absurd heq hmark

theorem shows_escape (c : Char) : Shows (escape c) c := by
  unfold escape
  split_ifs with hquote hmark hback htab hline hfeed hreturn hcontrol
  · exact shows_letter (by rw [hquote]; rfl)
  · exact shows_letter (by rw [hmark]; rfl)
  · exact shows_letter (hback ▸ rfl)
  · exact shows_letter (htab ▸ rfl)
  · exact shows_letter (hline ▸ rfl)
  · exact shows_letter (hfeed ▸ rfl)
  · exact shows_letter (hreturn ▸ rfl)
  · exact shows_control hcontrol
  · exact shows_self hquote hmark hcontrol

/-- The induction is on the characters: each of them takes one round of the reader. -/
theorem takePieces_flatMap_escape (text rest : List Char) {fuel : Nat} (h : text.length < fuel) :
    ∃ pieces, takePieces fuel (text.flatMap escape ++ '"' :: rest) = some (pieces, rest) ∧
      joinPieces pieces = some text := by
  induction text generalizing fuel with
  | nil =>
    obtain ⟨fuel, rfl⟩ := Nat.exists_eq_add_one_of_ne_zero (Nat.ne_of_gt (Nat.zero_lt_of_lt h))
    exact ⟨[], rfl, rfl⟩
  | cons c text ih =>
    obtain ⟨fuel, rfl⟩ := Nat.exists_eq_add_one_of_ne_zero (Nat.ne_of_gt (Nat.zero_lt_of_lt h))
    obtain ⟨pieces, hread, hjoin⟩ := ih (Nat.lt_of_succ_lt_succ h)
    obtain ⟨piece, htake, hpiece⟩ := shows_escape c
    refine ⟨piece :: pieces, ?_, ?_⟩
    · rw [List.flatMap_cons, List.append_assoc, htake, hread]
      rfl
    · rw [hpiece, hjoin]
      rfl

theorem escape_ne_nil (c : Char) : escape c ≠ [] := by
  unfold escape
  split_ifs <;> exact List.cons_ne_nil _ _

theorem length_le_flatMap_escape (text : List Char) :
    text.length ≤ (text.flatMap escape).length := by
  induction text with
  | nil => exact Nat.le_refl 0
  | cons c text ih =>
    have hpos := List.length_pos_iff.2 (escape_ne_nil c)
    rw [List.flatMap_cons, List.length_append, List.length_cons]
    omega

/-- A text is read back behind its opening quote. -/
theorem takeText_flatMap_escape (value : String) (rest : List Char) :
    takeText (value.toList.flatMap escape ++ '"' :: rest) = some (some value, rest) := by
  have hfuel : value.toList.length <
      (value.toList.flatMap escape ++ '"' :: rest).length + 1 := by
    have hlength := length_le_flatMap_escape value.toList
    rw [List.length_append]
    omega
  obtain ⟨pieces, hread, hjoin⟩ := takePieces_flatMap_escape value.toList rest hfuel
  simp only [takeText, hread, hjoin, Option.bind_eq_bind, Option.bind_some, Option.map_some,
    String.ofList_toList]

end GpuCounters.Json
