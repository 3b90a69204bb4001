import GpuCounters.Proofs.Dump.Labels

/-!
# What a reader accepts

A text is read as a dump exactly if it has lines of names and units with a field for each column,
the column of labels is named as one, and each later line that is not blank has a field for each
column. A text that is refused is refused for the first of these that it lacks. One that is accepted
gives a row for each such line, and every column but that of the labels is a metric, further
information, or the greatest values of the metric before it.
-/

namespace GpuCounters.Dump

open Storage

/-! ## Texts that are dumps -/

def fieldCount (line : List Char) : Nat := (splitFields line).length

/-- Whether a line names the column of labels as dumps do. -/
def IsTitled (line : List Char) : Prop := labelOf line = "Operation" ∨ labelOf line = "Sampling"

instance (line : List Char) : Decidable (IsTitled line) :=
  inferInstanceAs (Decidable (_ ∨ _))

/-- Whether a line is blank or has the given number of fields. -/
def Fits (width : Nat) (line : List Char) : Prop :=
  Text.isAllBlank line = true ∨ fieldCount line = width

instance (width : Nat) (line : List Char) : Decidable (Fits width line) :=
  inferInstanceAs (Decidable (_ ∨ _))

/-- Lines that are those of a dump. -/
inductive IsDump : List (List Char) → Prop
  | intro {first second : List Char} {rest : List (List Char)}
      (units : fieldCount second = fieldCount first) (titled : IsTitled first)
      (fits : ∀ line ∈ rest, Fits (fieldCount first) line) : IsDump (first :: second :: rest)

/-- Lines that are not those of a dump, with what is wrong and the number of the line at fault. -/
inductive Refused : List (List Char) → Malformation → Nat → Prop
  | missingNames : Refused [] .missingNames 1
  | missingUnits (line : List Char) : Refused [line] .missingUnits 2
  | unitCount {first second : List Char} {rest : List (List Char)}
      (units : fieldCount second ≠ fieldCount first) :
      Refused (first :: second :: rest) (.unitCount (fieldCount second) (fieldCount first)) 2
  | unknownLabel {first second : List Char} {rest : List (List Char)}
      (units : fieldCount second = fieldCount first) (titled : ¬ IsTitled first) :
      Refused (first :: second :: rest) (.unknownLabel (labelOf first)) 1
  | fieldCount {first second line : List Char} {before after : List (List Char)}
      (units : fieldCount second = fieldCount first) (titled : IsTitled first)
      (fits : ∀ line ∈ before, Fits (fieldCount first) line)
      (ragged : ¬ Fits (fieldCount first) line) :
      Refused (first :: second :: (before ++ line :: after))
        (.fieldCount (before.length + 3) (fieldCount line) (fieldCount first)) (before.length + 3)

/-! ## Rows -/

section Rows

variable {columns : List Column} {lines before after : List (List Char)} {line : List Char}

/-- The row of a line that has a field for each column. -/
def rowOf (columns : List Column) (line : List Char) : String × Report :=
  (labelOf line, readCells columns (splitFields line).tail)

/-- The induction is on the lines: blank ones are passed over. -/
theorem readRows_of_fits (h : ∀ line ∈ lines, Fits (columns.length + 1) line) (number : Nat) :
    readRows columns lines number =
      .ok ((lines.filter fun line ↦ !Text.isAllBlank line).map (rowOf columns)) := by
  induction lines generalizing number with
  | nil => rfl
  | cons line lines ih =>
    obtain ⟨hline, hlines⟩ := List.forall_mem_cons.1 h
    have hrest := ih hlines (number + 1)
    rw [readRows]
    cases hblank : Text.isAllBlank line with
    | true => rw [if_pos rfl, hrest, List.filter_cons_of_neg (by simp [hblank])]
    | false =>
      have hcount : (splitFields line).length = columns.length + 1 :=
        hline.resolve_left (by simp [hblank])
      rw [if_neg Bool.false_ne_true, hrest, List.filter_cons_of_pos (by simp [hblank]), readRow,
        if_pos hcount]
      rfl

/-- The induction is on the lines before the one at fault, each of which counts. -/
theorem readRows_of_ragged (hbefore : ∀ line ∈ before, Fits (columns.length + 1) line)
    (hline : ¬ Fits (columns.length + 1) line) (number : Nat) :
    readRows columns (before ++ line :: after) number =
      .error (.fieldCount (before.length + number) (fieldCount line) (columns.length + 1)) := by
  induction before generalizing number with
  | nil =>
    obtain ⟨hblank, hcount⟩ := not_or.1 hline
    have hrow : readRow columns line number =
        .error (.fieldCount number (fieldCount line) (columns.length + 1)) := if_neg hcount
    rw [List.nil_append, readRows, if_neg hblank, hrow, List.length_nil, Nat.zero_add]
  | cons other before ih =>
    obtain ⟨hother, hothers⟩ := List.forall_mem_cons.1 hbefore
    have hrest := ih hothers (number + 1)
    rw [List.cons_append, readRows, List.length_cons, Nat.add_assoc, Nat.add_comm 1 number]
    cases hblank : Text.isAllBlank other with
    | true => rw [if_pos rfl, hrest]
    | false =>
      have hcount : (splitFields other).length = columns.length + 1 :=
        hother.resolve_left (by simp [hblank])
      rw [if_neg Bool.false_ne_true, hrest, readRow, if_pos hcount]

/-- Either all lines fit or there is a first one that does not. -/
theorem fits_or_exists_ragged (width : Nat) (lines : List (List Char)) :
    (∀ line ∈ lines, Fits width line) ∨
      ∃ before line after, lines = before ++ line :: after ∧
        (∀ line ∈ before, Fits width line) ∧ ¬ Fits width line := by
  cases hfound : lines.find? fun line ↦ !decide (Fits width line) with
  | none =>
    have hnone := List.find?_eq_none.1 hfound
    exact .inl fun line hline ↦ by simpa using hnone line hline
  | some line =>
    obtain ⟨hline, before, after, hlines, hbefore⟩ := List.find?_eq_some_iff_append.1 hfound
    exact .inr ⟨before, line, after, hlines, fun other hother ↦ by simpa using hbefore other hother,
      by simpa using hline⟩

end Rows

/-! ## Columns -/

/-- What a column of the given role is called. -/
def Column.title : Column → List Char
  | .metric descriptor => descriptor.name.toList
  | .max name => name.toList ++ maxMark.toList
  | .information descriptor => informationMark.toList ++ descriptor.name.toList

def Column.isMax : Column → Bool
  | .max _ => true
  | .metric _ | .information _ => false

/-- The columns that the lines of names and units tell of. -/
def columnsOf (first second : List Char) : List Column :=
  Column.ofNames none ((splitFields first).zip (splitFields second)).tail

section Columns

variable {columns : List Column} {pairs : List (List Char × List Char)}

/-- A column is called what its name says, whichever role it has. -/
theorem title_ofName (last : Option String) (name unit : List Char) :
    (Column.ofName last name unit).title = name := by
  unfold Column.ofName
  split
  · rename_i hmark
    obtain ⟨rest, rfl⟩ := List.isPrefixOf_iff_prefix.1 hmark
    have hdrop : (informationMark.toList ++ rest).drop informationMark.length = rest :=
      List.drop_left
    rw [Column.title, hdrop, String.toList_ofList]
  · split
    · split
      · rename_i hname
        exact hname
      · exact String.toList_ofList
    · exact String.toList_ofList

theorem map_title_ofNames (last : Option String) (pairs : List (List Char × List Char)) :
    (Column.ofNames last pairs).map Column.title = pairs.map Prod.fst := by
  induction pairs generalizing last with
  | nil => rfl
  | cons pair pairs ih =>
    rw [Column.ofNames, List.map_cons, List.map_cons, title_ofName, ih]

/-- Each column has one of three roles. -/
theorem length_eq_roles (columns : List Column) :
    (columns.filterMap Column.metric?).length + (columns.filterMap Column.information?).length +
      columns.countP Column.isMax = columns.length := by
  induction columns with
  | nil => rfl
  | cons column columns ih =>
    rw [List.filterMap_cons, List.filterMap_cons, List.countP_cons, List.length_cons, ← ih]
    cases column <;> simp [Column.metric?, Column.information?, Column.isMax] <;> omega

/-- The induction is on the names: what is behind the last metric decides whose greatest values a
column can hold. -/
theorem getLast?_of_ofNames {last : Option String} {before after : List Column} {name : String}
    (h : Column.ofNames last pairs = before ++ .max name :: after) :
    ((before.filterMap Column.metric?).getLast?.map (·.name)).or last = some name := by
  induction pairs generalizing last before with
  | nil => simp [Column.ofNames] at h
  | cons pair pairs ih =>
    rw [Column.ofNames] at h
    cases before with
    | nil =>
      obtain ⟨hcolumn, -⟩ := List.cons.inj h
      unfold Column.ofName at hcolumn
      split at hcolumn
      · cases hcolumn
      · split at hcolumn
        · split at hcolumn
          · simpa using hcolumn
          · cases hcolumn
        · cases hcolumn
    | cons column before =>
      obtain ⟨hcolumn, hrest⟩ := List.cons.inj h
      rw [hcolumn] at hrest
      have hlast := ih hrest
      cases column with
      | metric descriptor =>
        rw [List.filterMap_cons_some (f := Column.metric?) rfl]
        cases hnone : before.filterMap Column.metric? with
        | nil => simpa [hnone] using hlast
        | cons other others =>
          have hfound : (other :: others).getLast? = some _ := List.getLast?_eq_some_getLast
            (List.cons_ne_nil other others)
          rw [hnone, hfound] at hlast
          rw [List.getLast?_cons_cons, hfound]
          exact hlast
      | max other => exact hlast
      | information descriptor => exact hlast

end Columns

/-! ## Reports -/

section Reports

variable {report : Report} {columns : List Column} {texts : List (List Char)}

theorem names_giveMax (metrics : List Metric) (name : String) (value : Value) :
    (giveMax metrics name value).map (·.name) = metrics.map (·.name) := by
  unfold giveMax
  split
  · rename_i last hlast
    split
    · obtain ⟨front, rfl⟩ := List.getLast?_eq_some_iff.1 hlast
      simp
    · rfl
  · rfl

/-- Of the cells only those of further information add to it, each of them one value. -/
theorem length_information_readOn (h : columns.length = texts.length) (report : Report) :
    (readOn report columns texts).information.length =
      report.information.length + (columns.filterMap Column.information?).length := by
  induction columns generalizing report texts with
  | nil => rfl
  | cons column columns ih =>
    obtain ⟨text, texts, rfl⟩ := List.exists_cons_of_length_eq_add_one h.symm
    rw [readOn_cons, ih (Nat.succ.inj h)]
    cases column with
    | metric descriptor =>
      rw [List.filterMap_cons_none rfl, readCell]
      split <;> rfl
    | max name =>
      rw [List.filterMap_cons_none rfl, readCell]
      split <;> rfl
    | information descriptor =>
      rw [List.filterMap_cons_some (f := Column.information?) rfl, readCell, List.length_append,
        List.length_singleton, List.length_cons]
      omega

/-- Of the cells only those of metrics add one, each at most that of its own column. -/
theorem names_readOn_sublist (columns : List Column) (texts : List (List Char)) (report : Report) :
    ((readOn report columns texts).metrics.map (·.name)).Sublist
      (report.metrics.map (·.name) ++ (columns.filterMap Column.metric?).map (·.name)) := by
  induction columns generalizing report texts with
  | nil => simp [readOn]
  | cons column columns ih =>
    cases texts with
    | nil => simp [readOn]
    | cons text texts =>
      rw [readOn_cons]
      refine (ih texts (readCell report column text)).trans ?_
      cases column with
      | metric descriptor =>
        rw [List.filterMap_cons_some (f := Column.metric?) rfl, List.map_cons, readCell]
        split
        · exact List.Sublist.append_left (List.sublist_cons_self _ _) _
        · simp
      | max name =>
        rw [List.filterMap_cons_none rfl, readCell]
        split
        · exact List.Sublist.refl _
        · rw [names_giveMax]
      | information descriptor =>
        rw [List.filterMap_cons_none rfl, readCell]

end Reports

/-! ## Lines -/

/-- Whether contents are what the lines of names and units and those behind them show. -/
structure Shows (first second : List Char) (rest : List (List Char)) (contents : Contents) :
    Prop where
  mode : labelTitle contents.mode = labelOf first
  metrics : contents.metrics = (columnsOf first second).filterMap Column.metric?
  information : contents.information = (columnsOf first second).filterMap Column.information?
  titles : (columnsOf first second).map Column.title = (splitFields first).tail
  /-- Every column but that of the labels is one of three kinds. -/
  count : contents.metrics.length + contents.information.length +
    (columnsOf first second).countP Column.isMax + 1 = fieldCount first
  /-- Greatest values are those of the last metric before their column, so there is one. -/
  maxima : ∀ before name after, columnsOf first second = before ++ .max name :: after →
    (before.filterMap Column.metric?).getLast?.map (·.name) = some name
  rows : contents.rows =
    (rest.filter fun line ↦ !Text.isAllBlank line).map (rowOf (columnsOf first second))
  values : ∀ row ∈ contents.rows, row.2.information.length = contents.information.length
  names : ∀ row ∈ contents.rows,
    (row.2.metrics.map (·.name)).Sublist (contents.metrics.map (·.name))

section Lines

variable {first second : List Char} {rest : List (List Char)}

theorem length_columnsOf (h : fieldCount second = fieldCount first) :
    (columnsOf first second).length + 1 = fieldCount first := by
  have hpos := List.length_pos_of_ne_nil (splitFields_ne_nil first)
  unfold fieldCount at h ⊢
  rw [columnsOf, Column.length_ofNames, List.length_tail, List.length_zip, h]
  omega

theorem modeOfTitle?_eq_some_iff (first : List Char) (mode : Mode) :
    modeOfTitle? ((splitFields first).headD []) = some mode ↔
      labelTitle mode = labelOf first := by
  have htitle : ∀ mode : Mode, (splitFields first).headD [] = (labelTitle mode).toList ↔
      labelTitle mode = labelOf first := by
    intro mode
    rw [labelOf, ← String.toList_inj, String.toList_ofList, eq_comm]
  have hdistinct : labelTitle .event ≠ labelTitle .time := by decide
  simp only [modeOfTitle?, htitle]
  cases mode with
  | event => grind
  | time => grind

theorem isTitled_iff (first : List Char) :
    IsTitled first ↔ ∃ mode, labelTitle mode = labelOf first := by
  constructor
  · rintro (hevent | htime)
    · exact ⟨.event, hevent.symm⟩
    · exact ⟨.time, htime.symm⟩
  · rintro ⟨mode, hmode⟩
    cases mode with
    | event => exact .inl hmode.symm
    | time => exact .inr hmode.symm

/-- Whatever contents are made of a dump's lines show what the lines say. -/
theorem shows_of_units (h : fieldCount second = fieldCount first) {mode : Mode}
    (hmode : labelTitle mode = labelOf first)
    (hrest : ∀ line ∈ rest, Fits (fieldCount first) line) :
    Shows first second rest
      ⟨mode, (columnsOf first second).filterMap Column.metric?,
        (columnsOf first second).filterMap Column.information?,
        (rest.filter fun line ↦ !Text.isAllBlank line).map (rowOf (columnsOf first second))⟩ := by
  have hlength := length_columnsOf h
  refine ⟨hmode, rfl, rfl, ?_, ?_, ?_, rfl, ?_, ?_⟩
  · rw [columnsOf, map_title_ofNames, List.map_tail, List.map_fst_zip (Nat.le_of_eq h.symm)]
  · rw [← hlength, length_eq_roles]
  · intro before name after hcolumns
    have hlast := getLast?_of_ofNames hcolumns
    rwa [Option.or_none] at hlast
  · refine List.forall_mem_map.2 fun line hline ↦ ?_
    obtain ⟨hmem, hvisible⟩ := List.mem_filter.1 hline
    have hcount : fieldCount line = fieldCount first :=
      (hrest line hmem).resolve_left (by simpa using hvisible)
    have hcells : (columnsOf first second).length = (splitFields line).tail.length := by
      rw [List.length_tail]
      unfold fieldCount at hcount hlength
      omega
    have hinformation := length_information_readOn hcells {}
    rwa [List.length_nil, Nat.zero_add] at hinformation
  · refine List.forall_mem_map.2 fun line _ ↦ ?_
    exact names_readOn_sublist (columnsOf first second) (splitFields line).tail {}

/-- With a unit for each column and a known label, all depends on the rows. -/
theorem readLines_of_titled (h : fieldCount second = fieldCount first) {mode : Mode}
    (hmode : labelTitle mode = labelOf first) (rest : List (List Char)) :
    readLines (first :: second :: rest) =
      (readRows (columnsOf first second) rest 3).map fun rows ↦
        ⟨mode, (columnsOf first second).filterMap Column.metric?,
          (columnsOf first second).filterMap Column.information?, rows⟩ := by
  have hcount : ¬ (splitFields second).length ≠ (splitFields first).length := not_not.2 h
  rw [readLines]
  dsimp only
  rw [if_neg hcount, (modeOfTitle?_eq_some_iff first mode).2 hmode, columnsOf]
  dsimp only
  cases readRows _ rest 3 <;> rfl

theorem readLines_of_isDump {lines : List (List Char)} (h : IsDump lines) :
    ∃ first second rest contents, lines = first :: second :: rest ∧
      readLines lines = .ok contents ∧ Shows first second rest contents := by
  obtain @⟨first, second, rest, hunits, htitled, hfits⟩ := h
  obtain ⟨mode, hmode⟩ := (isTitled_iff first).1 htitled
  have hrows : ∀ line ∈ rest, Fits ((columnsOf first second).length + 1) line := by
    rwa [length_columnsOf hunits]
  refine ⟨first, second, rest, _, rfl, ?_, shows_of_units hunits hmode hfits⟩
  rw [readLines_of_titled hunits hmode, readRows_of_fits hrows]
  rfl

theorem readLines_of_refused {lines : List (List Char)} {fault : Malformation} {number : Nat}
    (h : Refused lines fault number) : readLines lines = .error fault ∧ fault.line = number := by
  cases h with
  | missingNames => exact ⟨rfl, rfl⟩
  | missingUnits line => exact ⟨rfl, rfl⟩
  | unitCount hunits => exact ⟨if_pos hunits, rfl⟩
  | @unknownLabel first second rest hunits htitled =>
    have hnone : modeOfTitle? ((splitFields first).headD []) = none := by
      rw [Option.eq_none_iff_forall_ne_some]
      intro mode hmode
      exact htitled ((isTitled_iff first).2 ⟨mode, (modeOfTitle?_eq_some_iff first mode).1 hmode⟩)
    have hcount : ¬ (splitFields second).length ≠ (splitFields first).length := not_not.2 hunits
    refine ⟨?_, rfl⟩
    rw [readLines]
    dsimp only
    rw [if_neg hcount, hnone]
    rfl
  | @fieldCount first second line before after hunits htitled hfits hragged =>
    obtain ⟨mode, hmode⟩ := (isTitled_iff first).1 htitled
    have hlength := length_columnsOf hunits
    rw [← hlength] at hfits hragged
    refine ⟨?_, rfl⟩
    rw [readLines_of_titled hunits hmode, readRows_of_ragged hfits hragged, hlength]
    rfl

/-- Lines are those of a dump, or there is a first thing wrong with them. -/
theorem isDump_or_refused (lines : List (List Char)) :
    IsDump lines ∨ ∃ fault number, Refused lines fault number := by
  match lines with
  | [] => exact .inr ⟨_, _, .missingNames⟩
  | [line] => exact .inr ⟨_, _, .missingUnits line⟩
  | first :: second :: rest =>
    by_cases hunits : fieldCount second = fieldCount first
    · by_cases htitled : IsTitled first
      · obtain hfits | ⟨before, line, after, rfl, hbefore, hragged⟩ :=
          fits_or_exists_ragged (fieldCount first) rest
        · exact .inl ⟨hunits, htitled, hfits⟩
        · exact .inr ⟨_, _, .fieldCount hunits htitled hbefore hragged⟩
      · exact .inr ⟨_, _, .unknownLabel hunits htitled⟩
    · exact .inr ⟨_, _, .unitCount hunits⟩

variable {lines : List (List Char)}

theorem exists_readLines_iff : (∃ contents, readLines lines = .ok contents) ↔ IsDump lines := by
  constructor
  · rintro ⟨contents, hcontents⟩
    refine (isDump_or_refused lines).resolve_right ?_
    rintro ⟨fault, number, hfault⟩
    rw [(readLines_of_refused hfault).1] at hcontents
    cases hcontents
  · intro h
    obtain ⟨first, second, rest, contents, -, hcontents, -⟩ := readLines_of_isDump h
    exact ⟨contents, hcontents⟩

theorem readLines_eq_error_iff {fault : Malformation} :
    readLines lines = .error fault ↔ Refused lines fault fault.line := by
  refine ⟨fun hfault ↦ ?_, fun hfault ↦ (readLines_of_refused hfault).1⟩
  obtain hdump | ⟨found, number, hfound⟩ := isDump_or_refused lines
  · obtain ⟨contents, hcontents⟩ := exists_readLines_iff.2 hdump
    rw [hcontents] at hfault
    cases hfault
  · obtain ⟨hread, rfl⟩ := readLines_of_refused hfound
    rw [hread] at hfault
    obtain rfl := Except.error.inj hfault
    exact hfound

theorem shows_of_readLines {contents : Contents} (h : readLines lines = .ok contents) :
    ∃ first second rest, lines = first :: second :: rest ∧ Shows first second rest contents := by
  obtain ⟨first, second, rest, found, hlines, hfound, hshows⟩ :=
    readLines_of_isDump (exists_readLines_iff.1 ⟨contents, h⟩)
  rw [hfound] at h
  obtain rfl := Except.ok.inj h
  exact ⟨first, second, rest, hlines, hshows⟩

end Lines

/-! ## Files -/

theorem read_eq_mapError {path : Path} {disk : Disk} {text : String}
    (h : disk.read path = .ok text.toUTF8) :
    read path disk = (readLines (Text.lines text.toList)).mapError (.malformed path) := by
  have hvalid : text.toUTF8.IsValidUTF8 := text.isValidUTF8
  have hbytes : String.fromUTF8? text.toUTF8 = some text := dif_pos hvalid
  have htext : disk.readText path = .ok text := by simp only [Disk.readText, h, hbytes]
  rw [read, htext, ofFile, readContents]
  cases readLines (Text.lines text.toList) <;> rfl

/-- A file that holds a text is read as a dump exactly if the lines of the text are those of one,
and its contents are then what these lines show. Any other text is refused for the first thing that
is wrong with it, with the number of the line at fault. Every line can be read, since all of them
have a first field. -/
theorem read_text {path : Path} {disk : Disk} {text : String}
    (h : disk.read path = .ok text.toUTF8) :
    let lines := Text.lines text.toList
    ((∃ contents, read path disk = .ok contents) ↔ IsDump lines) ∧
      (∀ error, read path disk = .error error ↔ ∃ fault,
        error = .malformed path fault ∧ Refused lines fault fault.line) ∧
      (∀ contents, read path disk = .ok contents → ∃ first second rest,
        lines = first :: second :: rest ∧ Shows first second rest contents) ∧
      ∀ line ∈ lines, splitFields line ≠ [] := by
  intro lines
  rw [read_eq_mapError h, ← exists_readLines_iff]
  simp only [← readLines_eq_error_iff]
  cases hlines : readLines lines with
  | ok contents =>
    refine ⟨by simp [Except.mapError], by simp [Except.mapError], fun found hfound ↦ ?_,
      fun line _ ↦ splitFields_ne_nil line⟩
    obtain rfl := Except.ok.inj hfound
    exact shows_of_readLines hlines
  | error fault =>
    refine ⟨by simp [Except.mapError], fun error ↦ ?_, by simp [Except.mapError],
      fun line _ ↦ splitFields_ne_nil line⟩
    simp [Except.mapError, eq_comm]

/-- A dump with a blank line and a label between quotes, and behind them a line without a value. -/
def raggedText : String := "Operation,Time\n,ns\n\n\"a,b\",5\nbad\n"

def raggedDisk : Disk := Disk.empty.put ⟨"/tmp/ragged.csv"⟩ raggedText.toUTF8

/-- The fifth line is at fault, as the blank one counts. -/
theorem read_text_ragged :
    raggedDisk.read ⟨"/tmp/ragged.csv"⟩ = .ok raggedText.toUTF8 ∧
      read ⟨"/tmp/ragged.csv"⟩ raggedDisk =
        .error (.malformed ⟨"/tmp/ragged.csv"⟩ (.fieldCount 5 1 2)) := by
  have hread : raggedDisk.read ⟨"/tmp/ragged.csv"⟩ = .ok raggedText.toUTF8 := by decide +kernel
  have hlines : Text.lines raggedText.toList = "Operation,Time".toList :: ",ns".toList ::
      ([[], "\"a,b\",5".toList] ++ "bad".toList :: []) := by decide +kernel
  obtain ⟨-, hrefused, -⟩ := read_text hread
  refine ⟨hread, (hrefused _).2 ⟨_, rfl, ?_⟩⟩
  rw [hlines]
  exact .fieldCount (by decide) (by decide) (by decide) (by decide)

end GpuCounters.Dump
