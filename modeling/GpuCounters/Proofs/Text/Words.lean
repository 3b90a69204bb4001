import GpuCounters.Proofs.Text.Lines

/-!
# Words

The words of a text are the pieces between its marks that are not empty. Any marks may stand in
front of a word and behind it, and two words have at least one between them. A text is so spaced for
its own words and for no others.
-/

namespace GpuCounters.Text

/-- The pieces of a text between marks that are not empty. -/
def words (test : Char → Bool) (text : List Char) : List (List Char) :=
  (split test text).filter (· ≠ [])

variable {test : Char → Bool} {word text : List Char}

/-- Whether a text is made of marks only and of words between them. -/
inductive Spaced (test : Char → Bool) : List Char → List (List Char) → Prop
  | nil : Spaced test [] []
  | mark {c : Char} {text : List Char} {words : List (List Char)} (marked : test c = true)
      (rest : Spaced test text words) : Spaced test (c :: text) words
  | last {word : List Char} (visible : word ≠ []) (clean : ∀ c ∈ word, test c = false) :
      Spaced test word [word]
  | word {c : Char} {word text : List Char} {words : List (List Char)} (visible : word ≠ [])
      (clean : ∀ c ∈ word, test c = false) (marked : test c = true)
      (rest : Spaced test text words) : Spaced test (word ++ c :: text) (word :: words)

theorem words_append_mark {mark : Char} (h : test mark = true) (text rest : List Char) :
    words test (text ++ mark :: rest) = words test text ++ words test rest := by
  rw [words, split_append_mark h, List.filter_append]
  rfl

theorem words_cons_mark {mark : Char} (h : test mark = true) (rest : List Char) :
    words test (mark :: rest) = words test rest :=
  words_append_mark h [] rest

theorem words_of_forall_not_test (hne : word ≠ []) (clean : ∀ c ∈ word, test c = false) :
    words test word = [word] := by
  rw [words, split_of_forall_not_test clean]
  simp [hne]

theorem Spaced.words_eq {pieces : List (List Char)} (h : Spaced test text pieces) :
    words test text = pieces := by
  induction h with
  | nil => rfl
  | mark marked _ ih => rw [words_cons_mark marked, ih]
  | last visible clean => exact words_of_forall_not_test visible clean
  | word visible clean marked _ ih =>
    rw [words_append_mark marked, words_of_forall_not_test visible clean, ih]
    rfl

/-- The induction is on the text: a character in front is a mark, the start of the first word, or a
word of its own. -/
theorem exists_spaced (test : Char → Bool) (text : List Char) :
    ∃ pieces, Spaced test text pieces := by
  induction text with
  | nil => exact ⟨[], .nil⟩
  | cons c text ih =>
    obtain ⟨pieces, hpieces⟩ := ih
    cases hc : test c with
    | true => exact ⟨pieces, .mark hc hpieces⟩
    | false =>
      have hfirst : ∀ d ∈ [c], test d = false := by simpa using hc
      cases hpieces with
      | nil => exact ⟨[[c]], .last (List.cons_ne_nil c []) hfirst⟩
      | mark marked rest => exact ⟨_, .word (List.cons_ne_nil c []) hfirst marked rest⟩
      | last visible clean =>
        exact ⟨_, .last (List.cons_ne_nil c _) (List.forall_mem_cons.2 ⟨hc, clean⟩)⟩
      | word visible clean marked rest =>
        exact ⟨_, .word (List.cons_ne_nil c _) (List.forall_mem_cons.2 ⟨hc, clean⟩) marked rest⟩

theorem spaced_iff {pieces : List (List Char)} :
    Spaced test text pieces ↔ words test text = pieces := by
  constructor
  · exact Spaced.words_eq
  · rintro rfl
    obtain ⟨pieces, hpieces⟩ := exists_spaced test text
    exact hpieces.words_eq ▸ hpieces

/-- A word has no marks. -/
theorem Spaced.clean {pieces : List (List Char)} (h : Spaced test text pieces) :
    ∀ piece ∈ pieces, piece ≠ [] ∧ ∀ c ∈ piece, test c = false := by
  induction h with
  | nil => simp
  | mark _ _ ih => exact ih
  | last visible clean => simpa using ⟨visible, clean⟩
  | word visible clean _ _ ih => exact List.forall_mem_cons.2 ⟨⟨visible, clean⟩, ih⟩

end GpuCounters.Text
