import GpuCounters.Dump.Row
import GpuCounters.Proofs.Text.Lines
import GpuCounters.Text.Blank

/-!
# Fields read back

Every line that a dump holds is a list of texts, escaped and joined. Splitting such a line gives
the texts back, whatever they are, and any line at all has a field. A line of single-line texts is a
single line, no carriage return stands at its end, and it is blank only if it has one field and that
is blank. A line feed of a text has a quote behind it.
-/

namespace GpuCounters.Dump

def fieldLine (fields : List (List Char)) : List Char := joinFields (fields.map escapeField)

@[simp] theorem fieldLine_singleton (field : List Char) :
    fieldLine [field] = escapeField field := rfl

theorem fieldLine_cons {fields : List (List Char)} (h : fields ≠ []) (field : List Char) :
    fieldLine (field :: fields) = escapeField field ++ ',' :: fieldLine fields := by
  unfold fieldLine
  rw [List.map_cons, joinFields_cons (by simpa using h)]

/-! ## Splitting -/

/-- Fields whose first one starts with one more text. -/
def prependAll (text : List Char) (fields : List (List Char)) : List (List Char) :=
  text.foldr prepend fields

@[simp] theorem prependAll_cons (text field : List Char) (fields : List (List Char)) :
    prependAll text (field :: fields) = (text ++ field) :: fields := by
  unfold prependAll
  induction text with
  | nil => rfl
  | cons c text ih => rw [List.foldr_cons, ih]; rfl

theorem needsQuotes_eq_false_iff {c : Char} :
    needsQuotes c = false ↔ c ≠ ',' ∧ c ≠ '"' ∧ c ≠ '\n' ∧ c ≠ '\r' := by
  simp [needsQuotes, and_assoc]

/-- Outside of quotes all but commas and quotes belong to a field. -/
theorem splitFrom_false_cons {c : Char} (h : c ≠ ',' ∧ c ≠ '"') (rest : List Char) :
    splitFrom false (c :: rest) = prepend c (splitFrom false rest) := by
  simp [splitFrom, h.1, h.2]

theorem splitFrom_false_append {field : List Char} (h : ∀ c ∈ field, c ≠ ',' ∧ c ≠ '"')
    (rest : List Char) :
    splitFrom false (field ++ rest) = prependAll field (splitFrom false rest) := by
  induction field with
  | nil => rfl
  | cons c field ih =>
    have hc := h c List.mem_cons_self
    have hfield := ih fun x hx ↦ h x (List.mem_cons_of_mem c hx)
    rw [List.cons_append, splitFrom_false_cons hc, hfield]
    rfl

@[simp] theorem splitFrom_false_comma (rest : List Char) :
    splitFrom false (',' :: rest) = [] :: splitFrom false rest := by
  simp [splitFrom]

@[simp] theorem splitFrom_false_quote (rest : List Char) :
    splitFrom false ('"' :: rest) = splitFrom true rest := by
  simp [splitFrom]

@[simp] theorem splitFrom_true_quotes (rest : List Char) :
    splitFrom true ('"' :: '"' :: rest) = prepend '"' (splitFrom true rest) := by
  simp [splitFrom]

theorem splitFrom_true_cons {c : Char} (h : c ≠ '"') (rest : List Char) :
    splitFrom true (c :: rest) = prepend c (splitFrom true rest) := by
  simp [splitFrom, h]

/-- A quote that no other one follows ends what stands between quotes. -/
theorem splitFrom_true_quote {rest : List Char} (h : rest.head? ≠ some '"') :
    splitFrom true ('"' :: rest) = splitFrom false rest := by
  cases rest with
  | nil => rfl
  | cons c rest =>
    have hc : c ≠ '"' := by simpa using h
    simp [splitFrom, hc]

/-- The induction is on the field; the accumulated text is the part of it in front. -/
theorem splitFrom_true_doubleQuotes (field : List Char) {rest : List Char}
    (h : rest.head? ≠ some '"') :
    splitFrom true (doubleQuotes field ++ '"' :: rest) =
      prependAll field (splitFrom false rest) := by
  induction field with
  | nil => exact splitFrom_true_quote h
  | cons c field ih =>
    by_cases hc : c = '"'
    · have hline : doubleQuotes (c :: field) ++ '"' :: rest =
          '"' :: '"' :: (doubleQuotes field ++ '"' :: rest) := by
        simp [doubleQuotes, hc]
      rw [hline, splitFrom_true_quotes, ih, hc]
      rfl
    · have hline : doubleQuotes (c :: field) ++ '"' :: rest =
          c :: (doubleQuotes field ++ '"' :: rest) := by
        simp [doubleQuotes, hc]
      rw [hline, splitFrom_true_cons hc, ih]
      rfl

theorem splitFrom_false_escapeField (field : List Char) {rest : List Char}
    (h : rest.head? ≠ some '"') :
    splitFrom false (escapeField field ++ rest) = prependAll field (splitFrom false rest) := by
  unfold escapeField
  split
  · rw [List.cons_append, splitFrom_false_quote, List.append_assoc]
    exact splitFrom_true_doubleQuotes field h
  · rename_i hplain
    have hfield : ∀ c ∈ field, needsQuotes c = false := by simpa using hplain
    refine splitFrom_false_append (fun c hc ↦ ?_) rest
    obtain ⟨hcomma, hquote, -, -⟩ := needsQuotes_eq_false_iff.1 (hfield c hc)
    exact ⟨hcomma, hquote⟩

/-- Splitting undoes escaping and joining. -/
theorem splitFields_fieldLine {fields : List (List Char)} (h : fields ≠ []) :
    splitFields (fieldLine fields) = fields := by
  unfold splitFields
  induction fields with
  | nil => exact absurd rfl h
  | cons field fields ih =>
    by_cases hfields : fields = []
    · subst hfields
      have hone : splitFrom false (escapeField field ++ []) = _ :=
        splitFrom_false_escapeField field (by simp)
      simpa [splitFrom] using hone
    · calc
        splitFrom false (fieldLine (field :: fields)) =
            splitFrom false (escapeField field ++ ',' :: fieldLine fields) := by
          rw [fieldLine_cons hfields]
        _ = prependAll field (splitFrom false (',' :: fieldLine fields)) :=
          splitFrom_false_escapeField field (by simp)
        _ = prependAll field ([] :: fields) := by rw [splitFrom_false_comma, ih hfields]
        _ = field :: fields := by rw [prependAll_cons, List.append_nil]

/-- A line has a first field, whatever its quotes are like. -/
theorem splitFrom_ne_nil (quoted : Bool) (line : List Char) : splitFrom quoted line ≠ [] := by
  fun_induction splitFrom quoted line with
  | case1 => exact List.cons_ne_nil _ _
  | case2 rest ih => exact prepend_ne_nil _ _
  | case3 quoted rest _ ih => exact ih
  | case4 quoted c rest _ hquote hcomma ih => exact List.cons_ne_nil _ _
  | case5 quoted c rest _ hquote hcomma ih => exact prepend_ne_nil _ _

theorem splitFields_ne_nil (line : List Char) : splitFields line ≠ [] :=
  splitFrom_ne_nil false line

/-- A line of escaped fields has exactly these fields, whatever texts they are. Only the line of no
fields is read otherwise: it is empty, and every line has a field. -/
theorem splitFields_joinFields_map_escapeField (fields : List (List Char)) :
    splitFields (joinFields (fields.map escapeField)) = (if fields = [] then [[]] else fields) ∧
      ∀ line, splitFields line ≠ [] := by
  refine ⟨?_, splitFields_ne_nil⟩
  by_cases hfields : fields = []
  · rw [if_pos hfields, hfields]
    rfl
  · rw [if_neg hfields]
    exact splitFields_fieldLine hfields

/-- Quotes alone, a comma between quotes, line ends and fields without a text. -/
example : splitFields (joinFields
    ([['"'], [], ['"', ',', '"'], ['\r', '\n'], []].map escapeField)) =
      [['"'], [], ['"', ',', '"'], ['\r', '\n'], []] := by decide

theorem flatten_prepend (c : Char) (fields : List (List Char)) :
    (prepend c fields).flatten = c :: fields.flatten := by
  cases fields <;> rfl

/-- Splitting only leaves characters out. -/
theorem flatten_splitFrom_sublist (quoted : Bool) (line : List Char) :
    (splitFrom quoted line).flatten.Sublist line := by
  fun_induction splitFrom quoted line with
  | case1 => exact List.nil_sublist _
  | case2 rest ih =>
    rw [flatten_prepend]
    exact (ih.cons_cons '"').cons '"'
  | case3 quoted rest _ ih => exact ih.cons '"'
  | case4 quoted c rest _ hquote hcomma ih => exact ih.cons c
  | case5 quoted c rest _ hquote hcomma ih =>
    rw [flatten_prepend]
    exact ih.cons_cons c

/-! ## Line ends and blank lines -/

theorem mem_of_mem_escapeField {c : Char} {field : List Char} (hc : c ≠ '"')
    (h : c ∈ escapeField field) : c ∈ field := by
  unfold escapeField at h
  split at h
  · have hdouble : c ∈ doubleQuotes field := by simpa [hc] using h
    obtain ⟨d, hd, hcd⟩ := List.mem_flatMap.1 hdouble
    split at hcd
    · simp [hc] at hcd
    · rw [List.mem_singleton.1 hcd]
      exact hd
  · exact h

theorem mem_escapeField {c : Char} {field : List Char} (h : c ∈ field) : c ∈ escapeField field := by
  unfold escapeField
  split
  · have hdouble : c ∈ doubleQuotes field := by
      refine List.mem_flatMap.2 ⟨c, h, ?_⟩
      split <;> simp_all
    simp [hdouble]
  · exact h

theorem mem_fieldLine {c : Char} {fields : List (List Char)} {field : List Char}
    (hfield : field ∈ fields) (hc : c ∈ field) : c ∈ fieldLine fields := by
  induction fields with
  | nil => cases hfield
  | cons first fields ih =>
    by_cases hfields : fields = []
    · subst hfields
      rw [List.mem_singleton.1 hfield] at hc
      exact mem_escapeField hc
    · rw [fieldLine_cons hfields]
      rcases List.mem_cons.1 hfield with rfl | hrest
      · exact List.mem_append_left _ (mem_escapeField hc)
      · exact List.mem_append_right _ (List.mem_cons_of_mem _ (ih hrest))

theorem lineFeed_not_mem_fieldLine {fields : List (List Char)}
    (h : ∀ field ∈ fields, '\n' ∉ field) : '\n' ∉ fieldLine fields := by
  induction fields with
  | nil => simp [fieldLine, joinFields]
  | cons field fields ih =>
    have hfield : '\n' ∉ escapeField field := fun hmem ↦
      h field List.mem_cons_self (mem_of_mem_escapeField (by decide) hmem)
    have hrest := ih fun x hx ↦ h x (List.mem_cons_of_mem field hx)
    by_cases hfields : fields = []
    · subst hfields
      exact hfield
    · rw [fieldLine_cons hfields]
      simp [hfield, hrest]

/-- A field with a carriage return ends in a quote. -/
theorem getLast?_escapeField (field : List Char) : (escapeField field).getLast? ≠ some '\r' := by
  unfold escapeField
  split
  · rw [← List.cons_append, List.getLast?_concat]
    simp
  · rename_i hplain
    have hfield : ∀ c ∈ field, needsQuotes c = false := by simpa using hplain
    intro hlast
    have hreturn := hfield _ (List.mem_of_getLast? hlast)
    simp [needsQuotes] at hreturn

theorem getLast?_fieldLine (fields : List (List Char)) :
    (fieldLine fields).getLast? ≠ some '\r' := by
  induction fields with
  | nil => simp [fieldLine, joinFields]
  | cons field fields ih =>
    by_cases hfields : fields = []
    · subst hfields
      exact getLast?_escapeField field
    · rw [fieldLine_cons hfields, List.getLast?_append, List.getLast?_cons]
      cases hline : (fieldLine fields).getLast? with
      | none => simp
      | some c =>
        rw [hline] at ih
        simpa using ih

theorem dropReturn_fieldLine (fields : List (List Char)) :
    Text.dropReturn (fieldLine fields) = fieldLine fields :=
  Text.dropReturn_of_getLast? (getLast?_fieldLine fields)

theorem isAllBlank_eq_false_of_mem {c : Char} {line : List Char} (hc : Text.isBlank c = false)
    (h : c ∈ line) : Text.isAllBlank line = false := by
  rw [Text.isAllBlank, List.all_eq_false]
  exact ⟨c, h, by simp [hc]⟩

/-- A comma is no white space. -/
theorem isAllBlank_fieldLine_cons {fields : List (List Char)} (h : fields ≠ [])
    (field : List Char) : Text.isAllBlank (fieldLine (field :: fields)) = false := by
  rw [fieldLine_cons h]
  exact isAllBlank_eq_false_of_mem (c := ',') (by decide)
    (List.mem_append_right _ List.mem_cons_self)

theorem isAllBlank_escapeField {field : List Char} (h : Text.isAllBlank field = false) :
    Text.isAllBlank (escapeField field) = false := by
  unfold escapeField
  split
  · exact isAllBlank_eq_false_of_mem (c := '"') (by decide) List.mem_cons_self
  · exact h

theorem isAllBlank_escapeField_iff {field : List Char} (h : '\n' ∉ field) :
    Text.isAllBlank (escapeField field) = false ↔
      Text.isAllBlank field = false ∨ '\r' ∈ field := by
  unfold escapeField
  split
  · rename_i hquoted
    have hline : Text.isAllBlank ('"' :: (doubleQuotes field ++ ['"'])) = false :=
      isAllBlank_eq_false_of_mem (c := '"') (by decide) List.mem_cons_self
    rw [hline]
    refine ⟨fun _ ↦ ?_, fun _ ↦ rfl⟩
    obtain ⟨c, hc, hneeds⟩ := List.any_eq_true.1 hquoted
    simp only [needsQuotes, Bool.or_eq_true, decide_eq_true_eq] at hneeds
    rcases hneeds with ((rfl | rfl) | rfl) | rfl
    · exact .inl (isAllBlank_eq_false_of_mem (by decide) hc)
    · exact .inl (isAllBlank_eq_false_of_mem (by decide) hc)
    · exact absurd hc h
    · exact .inr hc
  · rename_i hplain
    refine ⟨.inl, fun hvisible ↦ hvisible.resolve_right fun hreturn ↦ ?_⟩
    simp only [List.any_eq_true, not_exists, not_and] at hplain
    exact hplain '\r' hreturn (by decide)

/-! ## Quotes behind line feeds -/

/-- Whether each line feed of a text has a quote behind it. -/
def IsClosed (text : List Char) : Prop :=
  ∀ front rest, text = front ++ '\n' :: rest → '"' ∈ rest

theorem isClosed_of_notMem {text : List Char} (h : '\n' ∉ text) : IsClosed text := by
  rintro front rest rfl
  exact absurd (List.mem_append_right front List.mem_cons_self) h

theorem IsClosed.append {text more : List Char} (h : IsClosed text) (hmore : IsClosed more) :
    IsClosed (text ++ more) := by
  intro front rest happend
  rcases List.append_eq_append_iff.1 happend with ⟨between, rfl, hbetween⟩ | ⟨between, htext, hrest⟩
  · exact hmore between rest hbetween
  · cases between with
    | nil =>
      rw [List.append_nil] at htext
      exact hmore [] rest (by simpa using hrest.symm)
    | cons c between =>
      rw [List.cons_append, List.cons.injEq] at hrest
      obtain ⟨rfl, rfl⟩ := hrest
      exact List.mem_append_left more (h front between htext)

theorem isClosed_escapeField (field : List Char) : IsClosed (escapeField field) := by
  unfold escapeField
  split
  · intro front rest htext
    have hlast := congrArg List.getLast? htext
    rw [← List.cons_append, List.getLast?_concat, List.getLast?_append, List.getLast?_cons]
      at hlast
    cases hrest : rest.getLast? with
    | none => simp [hrest] at hlast
    | some c =>
      rw [hrest] at hlast
      obtain rfl : '"' = c := by simpa using hlast
      exact List.mem_of_getLast? hrest
  · rename_i hplain
    apply isClosed_of_notMem
    intro hmem
    simp only [List.any_eq_true, not_exists, not_and] at hplain
    exact hplain '\n' hmem (by decide)

theorem isClosed_fieldLine (fields : List (List Char)) : IsClosed (fieldLine fields) := by
  induction fields with
  | nil => exact isClosed_of_notMem List.not_mem_nil
  | cons field fields ih =>
    by_cases hfields : fields = []
    · subst hfields
      exact isClosed_escapeField field
    · have hcomma : IsClosed [','] := isClosed_of_notMem (by decide)
      rw [fieldLine_cons hfields]
      exact (isClosed_escapeField field).append (hcomma.append ih)

/-- What is behind the first line feed of a line of fields has a quote in it. -/
theorem exists_visible_piece {fields : List (List Char)} {first : List Char}
    {more : List (List Char)} (h : '\n' ∈ fieldLine fields)
    (hpieces : Text.segments (fieldLine fields) = first :: more) :
    ∃ piece ∈ more, Text.isAllBlank (Text.dropReturn piece) = false := by
  obtain ⟨front, last, hline, hsegments⟩ := Text.exists_last_segment h
  obtain ⟨piece, pieces, hfront⟩ := List.exists_cons_of_ne_nil (Text.split_ne_nil front)
  have hquote : '"' ∈ last := isClosed_fieldLine fields front last hline
  have hmore : more = pieces ++ [last] := by
    rw [hpieces, Text.segments, hfront] at hsegments
    exact (List.cons.inj hsegments).2
  refine ⟨last, ?_, ?_⟩
  · rw [hmore]
    exact List.mem_append_right pieces (List.mem_singleton_self last)
  · exact isAllBlank_eq_false_of_mem (by decide) (Text.mem_dropReturn (by decide) hquote)

end GpuCounters.Dump
