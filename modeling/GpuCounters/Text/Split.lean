/-!
# Splitting

A text is cut at the characters that satisfy a test. There is one piece more than such characters,
and pieces may be empty.
-/

namespace GpuCounters.Text

/-- The pieces of a text between the characters that satisfy the test. -/
def split (test : Char → Bool) (text : List Char) : List (List Char) :=
  text.foldr
    (fun c pieces ↦
      if test c then [] :: pieces
      else match pieces with
        | [] => [[c]]
        | piece :: rest => (c :: piece) :: rest)
    [[]]

variable {test : Char → Bool}

@[simp] theorem split_nil : split test [] = [[]] := rfl

@[simp] theorem split_cons_of_test {c : Char} (h : test c = true) (text : List Char) :
    split test (c :: text) = [] :: split test text := by
  simp [split, h]

theorem split_ne_nil (text : List Char) : split test text ≠ [] := by
  induction text with
  | nil => simp
  | cons c rest ih =>
    simp only [split, List.foldr_cons] at ih ⊢
    split
    · simp
    · split <;> simp

end GpuCounters.Text
