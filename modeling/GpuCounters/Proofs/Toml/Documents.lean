import GpuCounters.Proofs.Toml.Keys
import GpuCounters.Proofs.Toml.Texts

/-!
# Documents that are read back

A document whose lines each give a key of its own a text or a truth value is read as just these
values, in their order.
-/

namespace GpuCounters.Toml

/-! ## Lines -/

/-- A text or a truth value. -/
inductive Scalar
  | text (s : String)
  | bool (b : Bool)
  deriving DecidableEq, Repr

namespace Scalar

/-- The line that gives a key a text or a truth value. -/
def line (key : String) : Scalar → String
  | .text s => textLine key s
  | .bool b => boolLine key b

/-- What stands on a line behind the key. -/
def written : Scalar → List Char
  | .text s => writeText s.toList
  | .bool b => (if b then "true" else "false").toList

/-- What a text or a truth value is read as. -/
def value : Scalar → Value
  | .text s => .text s
  | .bool b => .bool b

theorem toList_line (key : String) (scalar : Scalar) :
    (scalar.line key).toList = key.toList ++ (' ' :: '=' :: ' ' :: scalar.written) ++ ['\n'] := by
  cases scalar with
  | text s =>
    simp only [line, textLine, String.toList_append, String.toList_ofList, written]
    simp
  | bool b =>
    simp only [line, boolLine, String.toList_append, written]
    simp

end Scalar

/-- Whether a key stands on its line without quotes. -/
def IsBareKey (key : String) : Prop := key.toList ≠ [] ∧ ∀ c ∈ key.toList, isBare c = true

instance : DecidablePred IsBareKey := fun key ↦
  decidable_of_iff (key.toList ≠ [] ∧ key.toList.all isBare = true) (by
    rw [List.all_eq_true]
    exact Iff.rfl)

/-! ## Reading lines -/

theorem dropBlanks_cons {c : Char} (hblank : c ≠ ' ') (htab : c ≠ '\t') (rest : List Char) :
    dropBlanks (c :: rest) = c :: rest := by
  rw [dropBlanks, List.dropWhile_cons_of_neg (by simp [hblank, htab])]

/-- A bare character is none of the marks of a document. -/
theorem isBare_spec {c : Char} (h : isBare c = true) :
    c ≠ ' ' ∧ c ≠ '\t' ∧ c ≠ '\n' ∧ c ≠ '\r' ∧ c ≠ '#' ∧ c ≠ '[' ∧ c ≠ '"' ∧ c ≠ '\'' ∧
      c ≠ byteOrderMark := by
  refine ⟨?_, ?_, ?_, ?_, ?_, ?_, ?_, ?_, ?_⟩ <;> rintro rfl <;> revert h <;> decide

section Lines

variable {key : String}

/-- A bare key is read up to its equals sign. -/
theorem takeKey_of_isBareKey (h : IsBareKey key) (fuel : Nat) (rest : List Char) :
    takeKey (fuel + 1) (key.toList ++ ' ' :: '=' :: rest) = some ([key], '=' :: rest) := by
  obtain ⟨hne, hbare⟩ := h
  have hword : (key.toList ++ ' ' :: '=' :: rest).takeWhile isBare = key.toList := by
    rw [List.takeWhile_append_of_pos hbare, List.takeWhile_cons_of_neg (by decide),
      List.append_nil]
  have hbehind : (key.toList ++ ' ' :: '=' :: rest).dropWhile isBare = ' ' :: '=' :: rest := by
    rw [List.dropWhile_append_of_pos hbare, List.dropWhile_cons_of_neg (by decide)]
  have hsimple : takeSimpleKey (key.toList ++ ' ' :: '=' :: rest) =
      some (key, ' ' :: '=' :: rest) := by
    obtain ⟨c, cs, hkey⟩ := List.exists_cons_of_ne_nil hne
    obtain ⟨-, -, -, -, -, -, hdouble, hsingle, -⟩ :=
      isBare_spec (hbare c (hkey ▸ List.mem_cons_self))
    rw [takeSimpleKey, hword, hbehind, if_neg hne, String.ofList_toList]
    · intro tail htail
      rw [hkey, List.cons_append] at htail
      exact hdouble (List.cons.inj htail).1
    · intro tail htail
      rw [hkey, List.cons_append] at htail
      exact hsingle (List.cons.inj htail).1
  have hstart : dropBlanks (key.toList ++ ' ' :: '=' :: rest) =
      key.toList ++ ' ' :: '=' :: rest := by
    obtain ⟨c, cs, hkey⟩ := List.exists_cons_of_ne_nil hne
    obtain ⟨hblank, htab, -⟩ := isBare_spec (hbare c (hkey ▸ List.mem_cons_self))
    rw [hkey, List.cons_append, dropBlanks_cons hblank htab]
  have hequals : dropBlanks (' ' :: '=' :: rest) = '=' :: rest := rfl
  simp only [takeKey, hstart, hsimple, hequals, Option.bind_eq_bind, Option.bind_some]
  rfl

/-- Every text is written between quotes. -/
theorem exists_writeText (text : List Char) :
    ∃ more, writeText text = '"' :: more ∨ writeText text = '\'' :: more := by
  unfold writeText
  cases formOf text with
  | basic | basicLines => exact ⟨_, .inl rfl⟩
  | literal | literalLines => exact ⟨_, .inr rfl⟩

/-- What is written behind a key is read as its value, up to the end of the line. -/
theorem Scalar.takeValue_written (scalar : Scalar) (fuel : Nat) (rest : List Char) :
    takeValue (fuel + 1) (scalar.written ++ '\n' :: rest) = some (scalar.value, '\n' :: rest) := by
  cases scalar with
  | text s =>
    have hread : takeText (writeText s.toList ++ '\n' :: rest) = some (s.toList, '\n' :: rest) :=
      takeText_writeText s.toList (by simp) (by simp)
    obtain ⟨more, hmore | hmore⟩ := exists_writeText s.toList
    all_goals
      rw [written, hmore, List.cons_append, takeValue, ← List.cons_append, ← hmore, hread]
      simp [value]
  | bool b => cases b <;> rfl

theorem Scalar.dropBlanks_written (scalar : Scalar) (rest : List Char) :
    dropBlanks (' ' :: (scalar.written ++ rest)) = scalar.written ++ rest := by
  show dropBlanks (scalar.written ++ rest) = scalar.written ++ rest
  cases scalar with
  | text s =>
    obtain ⟨more, hmore | hmore⟩ := exists_writeText s.toList
    all_goals
      rw [written, hmore, List.cons_append, dropBlanks_cons (by decide) (by decide)]
  | bool b => cases b <;> rfl

theorem head?_of_isBareKey (h : IsBareKey key) (rest : List Char) :
    ∃ c more, key.toList ++ rest = c :: more ∧ isBare c = true := by
  obtain ⟨c, cs, hkey⟩ := List.exists_cons_of_ne_nil h.1
  exact ⟨c, cs ++ rest, by rw [hkey, List.cons_append], h.2 c (hkey ▸ List.mem_cons_self)⟩

/-- A line is read as its assignment. -/
theorem takeStatement_line (h : IsBareKey key) (scalar : Scalar) (rest : List Char) :
    takeStatement ((scalar.line key).toList ++ rest) =
      some (.assign [key] scalar.value, '\n' :: rest) := by
  have hline : (scalar.line key).toList ++ rest =
      key.toList ++ ' ' :: '=' :: (' ' :: (scalar.written ++ '\n' :: rest)) := by
    simp [Scalar.toList_line]
  have hkey := fun fuel ↦ takeKey_of_isBareKey h fuel (' ' :: (scalar.written ++ '\n' :: rest))
  rw [hline]
  obtain ⟨c, more, hhead, hbare⟩ :=
    head?_of_isBareKey h (' ' :: '=' :: (' ' :: (scalar.written ++ '\n' :: rest)))
  obtain ⟨-, -, -, -, -, hbracket, -⟩ := isBare_spec hbare
  unfold takeStatement
  split
  · rename_i heq
    rw [hhead] at heq
    exact absurd (List.cons.inj heq).1 hbracket
  · rename_i heq
    rw [hhead] at heq
    exact absurd (List.cons.inj heq).1 hbracket
  · simp only [hkey, Option.bind_eq_bind, Option.bind_some]
    rw [scalar.dropBlanks_written, scalar.takeValue_written]
    rfl

/-- Nothing in front of a line is left out. -/
theorem dropFiller_line (h : IsBareKey key) (scalar : Scalar) (fuel : Nat) (rest : List Char) :
    dropFiller (fuel + 1) ((scalar.line key).toList ++ rest) =
      (scalar.line key).toList ++ rest := by
  have hhead := head?_of_isBareKey h (' ' :: '=' :: (' ' :: (scalar.written ++ '\n' :: rest)))
  have hline : (scalar.line key).toList ++ rest =
      key.toList ++ ' ' :: '=' :: (' ' :: (scalar.written ++ '\n' :: rest)) := by
    simp [Scalar.toList_line]
  rw [← hline] at hhead
  obtain ⟨c, more, hcons, hbare⟩ := hhead
  obtain ⟨hblank, htab, hend, -, hcomment, -⟩ := isBare_spec hbare
  have hshown : dropComment (c :: more) = c :: more := by
    unfold dropComment
    split
    · rename_i heq
      exact absurd (List.cons.inj heq).1 hcomment
    · rfl
  rw [hcons, dropFiller, dropBlanks_cons hblank htab, hshown]
  split
  · rename_i heq
    exact absurd (List.cons.inj heq).1 hend
  · rfl

end Lines

/-! ## Statements -/

def document (entries : List (String × Scalar)) : List Char :=
  entries.flatMap fun (key, scalar) ↦ (scalar.line key).toList

def assignments (entries : List (String × Scalar)) : List Statement :=
  entries.map fun (key, scalar) ↦ .assign [key] scalar.value

/-- The entries that such a document is read as. -/
def entriesOf (entries : List (String × Scalar)) : Entries :=
  entries.map fun (key, scalar) ↦ (key, scalar.value)

variable {entries : List (String × Scalar)}

theorem takeStatements_document (h : ∀ entry ∈ entries, IsBareKey entry.1) {fuel : Nat}
    (hfuel : entries.length < fuel) :
    takeStatements fuel (document entries) = some (assignments entries) := by
  induction entries generalizing fuel with
  | nil =>
    obtain ⟨fuel, rfl⟩ := Nat.exists_eq_add_one_of_ne_zero (Nat.ne_of_gt (Nat.zero_lt_of_lt hfuel))
    rfl
  | cons entry entries ih =>
    obtain ⟨key, scalar⟩ := entry
    obtain ⟨hkey, hrest⟩ := List.forall_mem_cons.1 h
    obtain ⟨fuel, rfl⟩ := Nat.exists_eq_add_one_of_ne_zero (Nat.ne_of_gt (Nat.zero_lt_of_lt hfuel))
    have hcons : document ((key, scalar) :: entries) =
        (scalar.line key).toList ++ document entries := rfl
    have hread := ih hrest (Nat.lt_of_succ_lt_succ hfuel)
    have hend : dropComment (dropBlanks ('\n' :: document entries)) = '\n' :: document entries :=
      rfl
    rw [hcons, takeStatements, dropFiller_line hkey]
    split
    · rename_i hnil
      simp [Scalar.toList_line] at hnil
    · rw [takeStatement_line hkey]
      simp only [Option.bind_eq_bind, Option.bind_some, hend, hread]
      rfl

/-! ## Entries -/

theorem Entries.set_of_notMem {entries : Entries} {key : String}
    (h : key ∉ entries.map Prod.fst) (value : Value) :
    entries.set key value = entries ++ [(key, value)] := by
  induction entries with
  | nil => rfl
  | cons entry entries ih =>
    obtain ⟨name, old⟩ := entry
    rw [List.map_cons, List.mem_cons, not_or] at h
    rw [set, if_neg (Ne.symm h.1), ih h.2]
    rfl

theorem Entries.get?_eq_none {entries : Entries} {key : String}
    (h : key ∉ entries.map Prod.fst) : entries.get? key = none := by
  rw [get?, List.lookup_eq_none_iff]
  intro entry hentry
  rw [bne_iff_ne]
  rintro rfl
  exact h (List.mem_map_of_mem hentry)

/-- Keys that are new each put their value behind the others. -/
theorem Builder.followAll_assignments (builder : Builder) (hhere : builder.here = [])
    (h : (builder.entries.map Prod.fst ++ entries.map Prod.fst).Nodup) :
    builder.followAll (assignments entries) =
      some { builder with entries := builder.entries ++ entriesOf entries } := by
  induction entries generalizing builder with
  | nil =>
    simp [assignments, followAll, entriesOf]
  | cons entry entries ih =>
    obtain ⟨key, scalar⟩ := entry
    have hnew : key ∉ builder.entries.map Prod.fst := by
      intro hmem
      exact (List.nodup_append.1 h).2.2 key hmem key List.mem_cons_self rfl
    let next : Builder := { builder with
      entries := builder.entries ++ [(key, scalar.value)] }
    have hnext : builder.follow (.assign [key] scalar.value) = some next := by
      simp [follow, hhere, modifyAt, assign, Entries.get?_eq_none hnew,
        Entries.set_of_notMem hnew, next]
    have hrest := ih next hhere (by simpa [next] using h)
    have hcons : assignments ((key, scalar) :: entries) =
        .assign [key] scalar.value :: assignments entries := rfl
    rw [hcons, followAll, hnext, Option.bind_some, hrest]
    simp [next, entriesOf]

/-! ## Documents -/

theorem return_notMem_line {key : String} (h : IsBareKey key) (scalar : Scalar) :
    '\r' ∉ (scalar.line key).toList := by
  have hkey : '\r' ∉ key.toList := fun hmem ↦ absurd (h.2 _ hmem) (by decide)
  have hwritten : '\r' ∉ scalar.written := by
    cases scalar with
    | text s => exact return_notMem_writeText s.toList
    | bool b => cases b <;> decide
  simp [Scalar.toList_line, hkey, hwritten]

theorem length_le_document (entries : List (String × Scalar)) :
    entries.length ≤ (document entries).length := by
  induction entries with
  | nil => exact Nat.zero_le _
  | cons entry entries ih =>
    obtain ⟨key, scalar⟩ := entry
    have hcons : document ((key, scalar) :: entries) =
        (scalar.line key).toList ++ document entries := rfl
    rw [hcons, Scalar.toList_line]
    simp only [List.length_append, List.length_cons, List.length_nil]
    omega

/-- No mark stands before a document of lines. -/
theorem document_ne_mark (hbare : ∀ entry ∈ entries, IsBareKey entry.1) {c : Char}
    {rest : List Char} (h : document entries = c :: rest) : c ≠ byteOrderMark := by
  cases entries with
  | nil => cases h
  | cons entry entries =>
    obtain ⟨key, scalar⟩ := entry
    obtain ⟨first, more, hhead, hfirst⟩ := head?_of_isBareKey (hbare _ List.mem_cons_self)
      (' ' :: '=' :: (' ' :: (scalar.written ++ '\n' :: document entries)))
    have hline : document ((key, scalar) :: entries) =
        key.toList ++ ' ' :: '=' :: (' ' :: (scalar.written ++ '\n' :: document entries)) := by
      simp [document, Scalar.toList_line]
    rw [hline, hhead] at h
    obtain ⟨rfl, -⟩ := List.cons.inj h
    exact (isBare_spec hfirst).2.2.2.2.2.2.2.2

/-- A document that gives each of some bare keys one value is read as these values. -/
theorem read?_of_lines {text : String} (htext : text.toList = document entries)
    (hbare : ∀ entry ∈ entries, IsBareKey entry.1) (hdistinct : (entries.map Prod.fst).Nodup) :
    read? text = some (entriesOf entries) := by
  have hclean : '\r' ∉ document entries := by
    intro hmem
    obtain ⟨⟨key, scalar⟩, hentry, hline⟩ := List.mem_flatMap.1 hmem
    exact return_notMem_line (hbare _ hentry) scalar hline
  have hfold : foldLineEnds text.toList = document entries := by
    rw [htext, foldLineEnds_of_notMem hclean]
  have hstatements : takeStatements ((document entries).length + 1) (document entries) =
      some (assignments entries) :=
    takeStatements_document hbare (Nat.lt_succ_of_le (length_le_document entries))
  have hbuilt : ({} : Builder).followAll (assignments entries) = some _ :=
    Builder.followAll_assignments {} rfl (by simpa using hdistinct)
  have hbuild : (takeStatements ((document entries).length + 1) (document entries)).bind
      (fun statements ↦ (({} : Builder).followAll statements).bind
        fun builder ↦ some builder.entries) = some (entriesOf entries) := by
    rw [hstatements, Option.bind_some, hbuilt]
    rfl
  unfold read?
  rw [hfold]
  cases hcons : document entries with
  | nil =>
    rw [hcons] at hbuild
    exact hbuild
  | cons c rest =>
    rw [hcons] at hbuild
    dsimp only
    rw [if_neg (document_ne_mark hbare hcons)]
    exact hbuild

end GpuCounters.Toml
