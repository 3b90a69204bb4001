import GpuCounters.Text.Line

/-!
# Lines read back

Rows that are each ended by a line feed fall into the pieces between their own line feeds. Those
without any are the lines of the text they make, and a carriage return at the end of one is the only
thing that is lost.
-/

namespace GpuCounters.Text

/-- Lines with a line feed behind each. -/
def ended (rows : List (List Char)) : List Char := rows.flatMap (· ++ ['\n'])

@[simp] theorem ended_nil : ended [] = [] := rfl

@[simp] theorem ended_cons (row : List Char) (rows : List (List Char)) :
    ended (row :: rows) = row ++ '\n' :: ended rows := by
  simp [ended]

@[simp] theorem ended_append (rows more : List (List Char)) :
    ended (rows ++ more) = ended rows ++ ended more := by
  simp [ended]

section Splitting

variable {test : Char → Bool} {piece : List Char}

theorem split_cons_of_not_test {c : Char} (h : test c = false) {text piece : List Char}
    {pieces : List (List Char)} (ih : split test text = piece :: pieces) :
    split test (c :: text) = (c :: piece) :: pieces := by
  unfold split at ih ⊢
  rw [List.foldr_cons, ih]
  simp [h]

/-- A text without marks is one piece. -/
theorem split_of_forall_not_test (clean : ∀ c ∈ piece, test c = false) :
    split test piece = [piece] := by
  induction piece with
  | nil => rfl
  | cons c piece ih =>
    have hc : test c = false := clean c List.mem_cons_self
    exact split_cons_of_not_test hc (ih fun x hx ↦ clean x (List.mem_cons_of_mem c hx))

/-- The pieces of two texts with a mark between them are those of the one and then of the other. -/
theorem split_append_mark {mark : Char} (h : test mark = true) (text rest : List Char) :
    split test (text ++ mark :: rest) = split test text ++ split test rest := by
  induction text with
  | nil => exact split_cons_of_test h rest
  | cons c text ih =>
    obtain ⟨piece, pieces, hpieces⟩ := List.exists_cons_of_ne_nil (split_ne_nil text)
    cases hc : test c with
    | true =>
      rw [List.cons_append, split_cons_of_test hc, split_cons_of_test hc, ih, List.cons_append]
    | false =>
      rw [hpieces, List.cons_append] at ih
      rw [List.cons_append, split_cons_of_not_test hc ih, split_cons_of_not_test hc hpieces,
        List.cons_append]

/-- The pieces of a text hold no other characters than the text. -/
theorem subset_of_mem_split {text : List Char} (h : piece ∈ split test text) : piece ⊆ text := by
  induction text generalizing piece with
  | nil => simp_all
  | cons c text ih =>
    obtain ⟨first, rest, hsplit⟩ : ∃ first rest, split test text = first :: rest :=
      List.exists_cons_of_ne_nil (split_ne_nil text)
    cases hc : test c with
    | true =>
      rw [split_cons_of_test hc] at h
      obtain rfl | hpiece := List.mem_cons.1 h
      · exact List.nil_subset _
      · exact List.subset_cons_of_subset c (ih hpiece)
    | false =>
      rw [split_cons_of_not_test hc hsplit] at h
      rw [hsplit] at ih
      obtain rfl | hpiece := List.mem_cons.1 h
      · exact List.cons_subset_cons c (ih List.mem_cons_self)
      · exact List.subset_cons_of_subset c (ih (List.mem_cons_of_mem first hpiece))

end Splitting

section Segments

theorem segments_eq_singleton {row : List Char} (h : '\n' ∉ row) : segments row = [row] :=
  split_of_forall_not_test fun _ hc ↦ decide_eq_false fun e ↦ h (e ▸ hc)

theorem segments_append_lineFeed (text rest : List Char) :
    segments (text ++ '\n' :: rest) = segments text ++ segments rest :=
  split_append_mark (by rfl) text rest

theorem flatMap_segments {rows : List (List Char)} (h : ∀ row ∈ rows, '\n' ∉ row) :
    rows.flatMap segments = rows := by
  induction rows with
  | nil => rfl
  | cons row rows ih =>
    obtain ⟨hrow, hrows⟩ := List.forall_mem_cons.1 h
    rw [List.flatMap_cons, segments_eq_singleton hrow, ih hrows, List.singleton_append]

/-- The induction is on the text: a line feed begins a new piece and is in none. -/
theorem lineFeed_not_mem_segments (text : List Char) : ∀ piece ∈ segments text, '\n' ∉ piece := by
  induction text with
  | nil => simp
  | cons c text ih =>
    by_cases hc : c = '\n'
    · rw [hc, segments_lineFeed]
      simpa using ih
    · obtain ⟨piece, pieces, hpieces⟩ := List.exists_cons_of_ne_nil (split_ne_nil text)
      have hsplit : segments (c :: text) = (c :: piece) :: pieces :=
        split_cons_of_not_test (decide_eq_false hc) hpieces
      rw [segments, hpieces] at ih
      rw [hsplit]
      simpa [Ne.symm hc] using ih

/-- Behind the last line feed of a text is its last piece. -/
theorem exists_last_segment {text : List Char} (h : '\n' ∈ text) :
    ∃ front last, text = front ++ '\n' :: last ∧
      segments text = segments front ++ [last] := by
  obtain ⟨behind, ahead, hreverse, hclean⟩ :=
    List.eq_append_cons_of_mem (List.mem_reverse.2 h)
  have htext : text = ahead.reverse ++ '\n' :: behind.reverse := by
    rw [← text.reverse_reverse, hreverse]
    simp
  refine ⟨ahead.reverse, behind.reverse, htext, ?_⟩
  have hlast : '\n' ∉ behind.reverse := by simpa using hclean
  rw [htext, segments_append_lineFeed, segments_eq_singleton hlast]

end Segments

/-! ## Lines of ended rows -/

/-- Ended rows fall into the pieces of each of them, and nothing follows the last line feed. -/
theorem segments_ended (rows : List (List Char)) :
    segments (ended rows) = rows.flatMap segments ++ [[]] := by
  induction rows with
  | nil => rfl
  | cons row rows ih =>
    rw [ended_cons, segments_append_lineFeed, ih, List.flatMap_cons, List.append_assoc]

theorem lines_ended_eq_flatMap (rows : List (List Char)) :
    lines (ended rows) = (rows.flatMap segments).map dropReturn := by
  simp [lines, segments_ended]

theorem lines_ended {rows : List (List Char)} (h : ∀ row ∈ rows, '\n' ∉ row) :
    lines (ended rows) = rows.map dropReturn := by
  rw [lines_ended_eq_flatMap, flatMap_segments h]

theorem dropReturn_of_getLast? {row : List Char} (h : row.getLast? ≠ some '\r') :
    dropReturn row = row := by
  unfold dropReturn
  rw [if_neg h]

/-! ## Lines behind other ones -/

/-- What is behind a line feed has its lines behind those before it. -/
theorem lines_append_lineFeed (text rest : List Char) :
    lines (text ++ '\n' :: rest) = (segments text).map dropReturn ++ lines rest := by
  have hrest : segments rest ≠ [] := split_ne_nil rest
  have hlast : (segments text ++ segments rest).getLast? = (segments rest).getLast? := by
    rw [List.getLast?_append, List.getLast?_eq_some_getLast hrest, Option.some_or]
  unfold lines
  dsimp only
  rw [segments_append_lineFeed, List.dropLast_append_of_ne_nil hrest, hlast, List.map_append,
    List.append_assoc]

/-- A text that has not been ended is a line. -/
theorem lines_eq_singleton {text : List Char} (h : text ≠ []) (hclean : '\n' ∉ text) :
    lines text = [text] := by
  simp [lines, segments_eq_singleton hclean, h]

/-- Behind an ended text the lines of another one are lines of their own. -/
theorem lines_append_of_getLast? {text : List Char} (h : text.getLast? = some '\n')
    (rest : List Char) : lines (text ++ rest) = lines text ++ lines rest := by
  obtain ⟨front, rfl⟩ := List.getLast?_eq_some_iff.1 h
  rw [List.append_assoc, List.singleton_append, lines_append_lineFeed, lines_append_lineFeed,
    lines_nil, List.append_nil]

theorem mem_of_mem_dropReturn {c : Char} {line : List Char} (h : c ∈ dropReturn line) :
    c ∈ line := by
  unfold dropReturn at h
  split at h
  · exact List.dropLast_subset _ h
  · exact h

theorem mem_dropReturn {c : Char} {line : List Char} (hc : c ≠ '\r') (h : c ∈ line) :
    c ∈ dropReturn line := by
  unfold dropReturn
  split
  · rename_i hlast
    obtain ⟨front, rfl⟩ := List.getLast?_eq_some_iff.1 hlast
    simpa [hc] using h
  · exact h

theorem lineFeed_not_mem_pieces (rows : List (List Char)) :
    ∀ line ∈ (rows.flatMap segments).map dropReturn, '\n' ∉ line := by
  refine List.forall_mem_map.2 fun piece hpiece hmem ↦ ?_
  obtain ⟨row, -, hrow⟩ := List.mem_flatMap.1 hpiece
  exact lineFeed_not_mem_segments row piece hrow (mem_of_mem_dropReturn hmem)

end GpuCounters.Text
