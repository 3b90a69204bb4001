import GpuCounters.Json.Writer
import GpuCounters.Proofs.Json.Numbers
import GpuCounters.Proofs.Json.Texts
import Mathlib.Data.List.DropRight

/-!
# Documents that are read back

A text spells a document if it is the document's parts in order, with blanks before and behind them
as it likes. Whatever spells a document is read as that document. Both ways of writing spell every
document whose numbers are literals and whose texts are Unicode texts.
-/

namespace GpuCounters.Json

open Decimal (ne_of_isDigit)

/-! ## Spelled documents -/

/-- A member of an object behind blanks. -/
def memberText (gap : List Char) (key : String) (text : List Char) : List Char :=
  gap ++ (writeText (some key) ++ ':' :: text)

/-- Whether a text is a document, with blanks where they may stand. -/
inductive Spells : Document → List Char → Prop
  | blank {document : Document} {text : List Char} {c : Char} (hc : isSpace c = true)
    (h : Spells document text) : Spells document (c :: text)
  | null : Spells .null "null".toList
  | bool (value : Bool) : Spells (.bool value) (if value then "true" else "false").toList
  | number {literal : List Char} (h : IsLiteral literal) : Spells (.number literal) literal
  | text (value : String) : Spells (.text (some value)) (writeText (some value))
  | emptyArray : Spells (.array []) ['[', ']']
  | emptyObject : Spells (.object []) ['\x7b', '\x7d']
  | array {pieces : List (Document × List Char)} {behind : List Char} (hne : pieces ≠ [])
    (hpieces : ∀ piece ∈ pieces, Spells piece.1 piece.2)
    (hbehind : ∀ c ∈ behind, isSpace c = true) :
    Spells (.array (pieces.map Prod.fst))
      ('[' :: (separated [','] (pieces.map Prod.snd) ++ behind ++ [']']))
  | object {gap : List Char} {pieces : List (String × Document × List Char)} {behind : List Char}
    (hgap : ∀ c ∈ gap, isSpace c = true) (hne : pieces ≠ [])
    (hpieces : ∀ piece ∈ pieces, Spells piece.2.1 piece.2.2)
    (hbehind : ∀ c ∈ behind, isSpace c = true) :
    Spells (.ofMembers (pieces.map fun piece ↦ (piece.1, piece.2.1)))
      ('\x7b' :: (separated [','] (pieces.map fun piece ↦ memberText gap piece.1 piece.2.2) ++
        behind ++ ['\x7d']))

/-! ## Blanks -/

theorem skip_cons_of_not {c : Char} (h : isSpace c = false) (text : List Char) :
    skip (c :: text) = c :: text := by
  rw [skip, List.dropWhile_cons_of_neg (by simp [h])]

theorem isSpace_of_isDigit {c : Char} (h : c.isDigit = true) : isSpace c = false := by
  simp [isSpace, ne_of_isDigit h]

theorem skip_append_of_forall {gap : List Char} (h : ∀ c ∈ gap, isSpace c = true)
    (text : List Char) : skip (gap ++ text) = skip text :=
  List.dropWhile_append_of_pos h

theorem skip_skip (text : List Char) : skip (skip text) = skip text :=
  List.dropWhile_idempotent isSpace text

/-- What is read does not depend on the blanks before it. -/
theorem takeDocument_congr {fuel : ℕ} {text other : List Char} (h : skip text = skip other) :
    takeDocument fuel text = takeDocument fuel other := by
  cases fuel with
  | zero => rfl
  | succ fuel => rw [takeDocument, takeDocument, h]

theorem takeElements_congr {fuel : ℕ} {text other : List Char} (h : skip text = skip other) :
    takeElements fuel text = takeElements fuel other := by
  cases fuel with
  | zero => rfl
  | succ fuel => rw [takeElements, takeElements, takeDocument_congr h]

theorem takeMembers_congr {fuel : ℕ} {text other : List Char} (h : skip text = skip other) :
    takeMembers fuel text = takeMembers fuel other := by
  cases fuel with
  | zero => rfl
  | succ fuel => rw [takeMembers, takeMembers, h]

/-- No number goes on where a mark stands behind blanks. -/
theorem ends_of_skip {c : Char} {text rest : List Char} (h : skip text = c :: rest)
    (hc : c.isDigit = false ∧ c ≠ '.' ∧ c ≠ 'e' ∧ c ≠ 'E') : Ends text := by
  cases text with
  | nil => exact ends_nil
  | cons d text =>
    by_cases hspace : isSpace d = true
    · refine ends_cons ?_ text
      simp only [isSpace, Bool.or_eq_true, decide_eq_true_eq] at hspace
      obtain ((rfl | rfl) | rfl) | rfl := hspace <;> decide
    · rw [skip_cons_of_not (Bool.eq_false_of_not_eq_true hspace)] at h
      rw [(List.cons.inj h).1]
      exact ends_cons hc text

/-- What spells a document starts with no mark that ends an array. -/
theorem Spells.exists_skip_append {document : Document} {text : List Char}
    (h : Spells document text) (rest : List Char) :
    ∃ c more, skip (text ++ rest) = c :: more ∧ c ≠ ']' := by
  induction h with
  | blank hc _ ih =>
    obtain ⟨d, more, hskip, hd⟩ := ih
    refine ⟨d, more, ?_, hd⟩
    rw [← hskip, List.cons_append, skip, List.dropWhile_cons_of_pos hc]
    rfl
  | null => exact ⟨'n', _, skip_cons_of_not (by decide) _, by decide⟩
  | bool value =>
    cases value with
    | true => exact ⟨'t', _, skip_cons_of_not (by decide) _, by decide⟩
    | false => exact ⟨'f', _, skip_cons_of_not (by decide) _, by decide⟩
  | number hliteral =>
    obtain ⟨c, more, rfl, hc⟩ := hliteral.exists_cons
    obtain rfl | hc := hc
    · exact ⟨'-', _, skip_cons_of_not (by decide) _, by decide⟩
    · exact ⟨c, _, skip_cons_of_not (isSpace_of_isDigit hc) _, ne_of_isDigit hc (by decide)⟩
  | text value => exact ⟨'"', _, skip_cons_of_not (by decide) _, by decide⟩
  | emptyArray => exact ⟨'[', _, skip_cons_of_not (by decide) _, by decide⟩
  | emptyObject => exact ⟨'\x7b', _, skip_cons_of_not (by decide) _, by decide⟩
  | array => exact ⟨'[', _, skip_cons_of_not (by decide) _, by decide⟩
  | object => exact ⟨'\x7b', _, skip_cons_of_not (by decide) _, by decide⟩

theorem Spells.length_pos {document : Document} {text : List Char} (h : Spells document text) :
    0 < text.length := by
  rw [List.length_pos_iff]
  rintro rfl
  obtain ⟨c, more, hskip, -⟩ := h.exists_skip_append []
  cases hskip

/-! ## Reading documents -/

/-- Where a text is a number, it is read as one. -/
theorem takeDocument_number {fuel : ℕ} {c : Char} {text more : List Char}
    (hc : c = '-' ∨ c.isDigit = true) (hskip : skip text = c :: more) :
    takeDocument (fuel + 1) text =
      (takeNumber (c :: more)).map fun (literal, rest) ↦ (.number literal, rest) := by
  rw [takeDocument, hskip]
  split
  case h_8 => rfl
  all_goals
    rename_i heq
    cases heq <;> exact absurd hc (by decide)

section Containers

variable {fuel : ℕ} {c : Char} {text more : List Char}

/-- An array that does not end where it starts is read element after element. -/
theorem takeDocument_array (hskip : skip text = c :: more) (hc : c ≠ ']') :
    takeDocument (fuel + 1) ('[' :: text) =
      (takeElements fuel text).map fun (elements, rest) ↦ (.array elements, rest) := by
  rw [← takeElements_congr (skip_skip text), takeDocument, skip_cons_of_not (by decide)]
  simp only [hskip]
  split
  · rename_i heq
    exact absurd (List.cons.inj heq).1 hc
  · rfl

/-- An object that does not end where it starts is read member after member. -/
theorem takeDocument_object (hskip : skip text = c :: more) (hc : c ≠ '\x7d') :
    takeDocument (fuel + 1) ('\x7b' :: text) =
      (takeMembers fuel text).map fun (members, rest) ↦ (.object members, rest) := by
  rw [← takeMembers_congr (skip_skip text), takeDocument, skip_cons_of_not (by decide)]
  simp only [hskip]
  split
  · rename_i heq
    exact absurd (List.cons.inj heq).1 hc
  · rfl

end Containers

/-- Whether a text is read as the document wherever it stands, given fuel for its characters. -/
def Reads (document : Document) (text : List Char) : Prop :=
  ∀ fuel rest, 2 * text.length ≤ fuel + 1 → Ends rest →
    takeDocument fuel (text ++ rest) = some (document, rest)

/-- What is not empty has fuel for the document itself. -/
theorem reads_of_pos {document : Document} {text : List Char} (hpos : 0 < text.length)
    (h : ∀ fuel rest, 2 * text.length ≤ fuel + 2 → Ends rest →
      takeDocument (fuel + 1) (text ++ rest) = some (document, rest)) : Reads document text := by
  intro fuel rest hfuel hrest
  obtain ⟨fuel, rfl⟩ : ∃ less, fuel = less + 1 := ⟨fuel - 1, by omega⟩
  exact h fuel rest hfuel hrest

theorem exists_separated_cons (comma piece : List Char) (rest : List (List Char)) :
    ∃ behind, separated comma (piece :: rest) = piece ++ behind := by
  cases rest with
  | nil => exact ⟨[], (List.append_nil piece).symm⟩
  | cons next rest => exact ⟨_, List.append_assoc _ _ _⟩

theorem separated_cons_cons (comma piece next : List Char) (rest : List (List Char)) :
    separated comma (piece :: next :: rest) = piece ++ comma ++ separated comma (next :: rest) :=
  rfl

section Steps

variable {fuel : ℕ} {document : Document} {text behind rest : List Char}

theorem takeElements_last (h : takeDocument fuel text = some (document, behind))
    (hmark : skip behind = ']' :: rest) :
    takeElements (fuel + 1) text = some ([document], rest) := by
  rw [takeElements, h, Option.bind_eq_bind, Option.bind_some]
  dsimp only
  rw [hmark]
  rfl

theorem takeElements_more (h : takeDocument fuel text = some (document, ',' :: rest)) :
    takeElements (fuel + 1) text =
      (takeElements fuel rest).map fun (elements, rest) ↦ (document :: elements, rest) := by
  rw [takeElements, h, Option.bind_eq_bind, Option.bind_some]
  dsimp only
  rw [skip_cons_of_not (by decide)]
  change (takeElements fuel rest).bind _ = _
  cases takeElements fuel rest <;> rfl

variable {gap : List Char}

theorem skip_memberText (hgap : ∀ c ∈ gap, isSpace c = true) (key : String) :
    skip (memberText gap key text ++ behind) =
      '"' :: (key.toList.flatMap escape ++ '"' :: ':' :: (text ++ behind)) := by
  rw [memberText, List.append_assoc, skip_append_of_forall hgap]
  exact (skip_cons_of_not (by decide) _).trans (by simp)

/-- A member up to its document. -/
theorem takeMembers_memberText (hgap : ∀ c ∈ gap, isSpace c = true) (key : String) :
    takeMembers (fuel + 1) (memberText gap key text ++ behind) =
      (takeDocument fuel (text ++ behind)).bind fun (value, rest) ↦
        match skip rest with
        | '\x7d' :: rest => some ([(some key, value)], rest)
        | ',' :: rest => (takeMembers fuel rest).bind fun (members, rest) ↦
          some ((some key, value) :: members, rest)
        | _ => none := by
  rw [takeMembers, skip_memberText hgap]
  change (takeText _).bind _ = _
  rw [takeText_flatMap_escape]
  rfl

end Steps

/-- The induction is on the elements: each of them leaves fuel for those behind it. -/
theorem takeElements_separated {pieces : List (Document × List Char)} (hne : pieces ≠ [])
    (hreads : ∀ piece ∈ pieces, Reads piece.1 piece.2) (fuel : ℕ) {tail rest : List Char}
    (hfuel : 2 * (separated [','] (pieces.map Prod.snd)).length < fuel)
    (htail : skip tail = ']' :: rest) :
    takeElements fuel (separated [','] (pieces.map Prod.snd) ++ tail) =
      some (pieces.map Prod.fst, rest) := by
  induction pieces generalizing fuel with
  | nil => exact absurd rfl hne
  | cons piece more ih =>
    obtain ⟨fuel, rfl⟩ := Nat.exists_eq_add_one_of_ne_zero (Nat.ne_of_gt (Nat.zero_lt_of_lt hfuel))
    have hpiece := hreads piece List.mem_cons_self
    cases more with
    | nil =>
      have hread := hpiece fuel tail (Nat.le_of_lt hfuel) (ends_of_skip htail (by decide))
      exact takeElements_last hread htail
    | cons next more =>
      simp only [List.map_cons, separated_cons_cons, List.length_append, List.length_singleton]
        at hfuel ih ⊢
      have hread := hpiece fuel (',' :: (separated [','] (next.2 :: more.map Prod.snd) ++ tail))
        (by omega) (ends_cons (by decide) _)
      have hmore := ih (List.cons_ne_nil _ _)
        (fun other hother ↦ hreads other (List.mem_cons_of_mem _ hother)) fuel (by omega)
      rw [List.append_assoc, List.append_assoc, List.singleton_append, takeElements_more hread,
        hmore, Option.map_some]

/-- The same of the members of an object. -/
theorem takeMembers_separated {gap : List Char} (hgap : ∀ c ∈ gap, isSpace c = true)
    {pieces : List (String × Document × List Char)} (hne : pieces ≠ [])
    (hreads : ∀ piece ∈ pieces, Reads piece.2.1 piece.2.2) (fuel : ℕ) {tail rest : List Char}
    (hfuel : 2 * (separated [',']
      (pieces.map fun piece ↦ memberText gap piece.1 piece.2.2)).length < fuel)
    (htail : skip tail = '\x7d' :: rest) :
    takeMembers fuel
        (separated [','] (pieces.map fun piece ↦ memberText gap piece.1 piece.2.2) ++ tail) =
      some (pieces.map fun piece ↦ (some piece.1, piece.2.1), rest) := by
  induction pieces generalizing fuel with
  | nil => exact absurd rfl hne
  | cons piece more ih =>
    obtain ⟨fuel, rfl⟩ := Nat.exists_eq_add_one_of_ne_zero (Nat.ne_of_gt (Nat.zero_lt_of_lt hfuel))
    have hpiece := hreads piece List.mem_cons_self
    have hlength : piece.2.2.length < (memberText gap piece.1 piece.2.2).length := by
      simp only [memberText, List.length_append, List.length_cons]
      omega
    cases more with
    | nil =>
      simp only [List.map_cons, List.map_nil, separated] at hfuel ⊢
      have hread := hpiece fuel tail (by omega) (ends_of_skip htail (by decide))
      rw [takeMembers_memberText hgap, hread, Option.bind_some]
      dsimp only
      rw [htail]
      rfl
    | cons next more =>
      simp only [List.map_cons, separated_cons_cons, List.length_append, List.length_singleton]
        at hfuel ih ⊢
      have hread := hpiece fuel (',' :: (separated [',']
        (memberText gap next.1 next.2.2 ::
          more.map fun piece ↦ memberText gap piece.1 piece.2.2) ++ tail))
        (by omega) (ends_cons (by decide) _)
      have hmore := ih (List.cons_ne_nil _ _)
        (fun other hother ↦ hreads other (List.mem_cons_of_mem _ hother)) fuel (by omega)
      rw [List.append_assoc, List.append_assoc, List.singleton_append,
        takeMembers_memberText hgap, hread, Option.bind_some]
      dsimp only
      rw [skip_cons_of_not (by decide)]
      change (takeMembers fuel _).bind _ = _
      rw [hmore, Option.bind_some]

/-- An array is read if its elements are, and spell something. -/
theorem reads_array {pieces : List (Document × List Char)} {behind : List Char} (hne : pieces ≠ [])
    (hpieces : ∀ piece ∈ pieces, Spells piece.1 piece.2)
    (hreads : ∀ piece ∈ pieces, Reads piece.1 piece.2) (hbehind : ∀ c ∈ behind, isSpace c = true) :
    Reads (.array (pieces.map Prod.fst))
      ('[' :: (separated [','] (pieces.map Prod.snd) ++ behind ++ [']'])) := by
  refine reads_of_pos (Nat.succ_pos _) fun fuel rest hfuel _ ↦ ?_
  simp only [List.length_cons, List.length_append, List.length_nil] at hfuel
  have htail : skip (behind ++ (']' :: rest)) = ']' :: rest :=
    (skip_append_of_forall hbehind _).trans (skip_cons_of_not (by decide) _)
  have hread := takeElements_separated hne hreads fuel (by omega) htail
  obtain ⟨piece, more, rfl⟩ := List.exists_cons_of_ne_nil hne
  obtain ⟨front, hfront⟩ := exists_separated_cons [','] piece.2 (more.map Prod.snd)
  obtain ⟨c, text, hskip, hc⟩ := (hpieces piece List.mem_cons_self).exists_skip_append
    (front ++ (behind ++ (']' :: rest)))
  rw [← List.append_assoc, ← hfront, ← List.map_cons] at hskip
  have htext : '[' :: (separated [','] ((piece :: more).map Prod.snd) ++ behind ++ [']']) ++ rest =
      '[' :: (separated [','] ((piece :: more).map Prod.snd) ++ (behind ++ (']' :: rest))) := by
    simp
  rw [htext, takeDocument_array hskip hc, hread, Option.map_some]

/-- An object is read if the documents of its members are. -/
theorem reads_object {gap : List Char} {pieces : List (String × Document × List Char)}
    {behind : List Char} (hgap : ∀ c ∈ gap, isSpace c = true) (hne : pieces ≠ [])
    (hreads : ∀ piece ∈ pieces, Reads piece.2.1 piece.2.2)
    (hbehind : ∀ c ∈ behind, isSpace c = true) :
    Reads (.ofMembers (pieces.map fun piece ↦ (piece.1, piece.2.1)))
      ('\x7b' :: (separated [','] (pieces.map fun piece ↦ memberText gap piece.1 piece.2.2) ++
        behind ++ ['\x7d'])) := by
  refine reads_of_pos (Nat.succ_pos _) fun fuel rest hfuel _ ↦ ?_
  simp only [List.length_cons, List.length_append, List.length_nil] at hfuel
  have htail : skip (behind ++ ('\x7d' :: rest)) = '\x7d' :: rest :=
    (skip_append_of_forall hbehind _).trans (skip_cons_of_not (by decide) _)
  have hread := takeMembers_separated hgap hne hreads fuel (by omega) htail
  obtain ⟨piece, more, rfl⟩ := List.exists_cons_of_ne_nil hne
  obtain ⟨front, hfront⟩ := exists_separated_cons [','] (memberText gap piece.1 piece.2.2)
    (more.map fun piece ↦ memberText gap piece.1 piece.2.2)
  obtain ⟨text, hskip⟩ : ∃ text, skip (separated [',']
      ((piece :: more).map fun piece ↦ memberText gap piece.1 piece.2.2) ++
        (behind ++ ('\x7d' :: rest))) = '"' :: text := by
    rw [List.map_cons, hfront, List.append_assoc]
    exact ⟨_, skip_memberText hgap piece.1⟩
  have htext : '\x7b' :: (separated [',']
      ((piece :: more).map fun piece ↦ memberText gap piece.1 piece.2.2) ++ behind ++ ['\x7d']) ++
      rest = '\x7b' :: (separated [',']
        ((piece :: more).map fun piece ↦ memberText gap piece.1 piece.2.2) ++
          (behind ++ ('\x7d' :: rest))) := by
    simp
  rw [htext, takeDocument_object hskip (by decide), hread, Option.map_some, Document.ofMembers,
    List.map_map]
  rfl

/-- What spells a document is read as it. The induction is on how the text spells the document. -/
theorem Spells.reads {document : Document} {text : List Char} (h : Spells document text) :
    Reads document text := by
  induction h with
  | @blank document text c hc h ih =>
    intro fuel rest hfuel hrest
    rw [List.length_cons] at hfuel
    rw [← ih fuel rest (by omega) hrest]
    exact takeDocument_congr (List.dropWhile_cons_of_pos hc)
  | null => exact reads_of_pos (by decide) fun fuel rest _ _ ↦ rfl
  | bool value => cases value <;> exact reads_of_pos (by decide) fun fuel rest _ _ ↦ rfl
  | @number literal hliteral =>
    obtain ⟨c, more, hcons, hc⟩ := hliteral.exists_cons
    have hspace : isSpace c = false := by
      obtain rfl | hc := hc
      · decide
      · exact isSpace_of_isDigit hc
    refine reads_of_pos (hcons ▸ Nat.succ_pos _) fun fuel rest _ hrest ↦ ?_
    have hskip : skip (literal ++ rest) = c :: (more ++ rest) := by
      rw [hcons]
      exact skip_cons_of_not hspace _
    rw [takeDocument_number hc hskip, ← List.cons_append, ← hcons,
      hliteral.takeNumber_append hrest, Option.map_some]
  | text value =>
    refine reads_of_pos (Nat.succ_pos _) fun fuel rest _ _ ↦ ?_
    have htext : writeText (some value) ++ rest =
        '"' :: (value.toList.flatMap escape ++ '"' :: rest) := by
      simp [writeText]
    rw [htext]
    change (takeText _).map _ = _
    rw [takeText_flatMap_escape, Option.map_some]
  | emptyArray => exact reads_of_pos (by decide) fun fuel rest _ _ ↦ rfl
  | emptyObject => exact reads_of_pos (by decide) fun fuel rest _ _ ↦ rfl
  | array hne hpieces hbehind ih => exact reads_array hne hpieces ih hbehind
  | object hgap hne hpieces hbehind ih => exact reads_object hgap hne ih hbehind

/-- A text that spells a document holds that document. -/
theorem Spells.ofText? {document : Document} {text : List Char} (h : Spells document text) :
    Document.ofText? text = some document := by
  have hread := h.reads (2 * text.length + 1) [] (by omega) ends_nil
  rw [List.append_nil] at hread
  unfold Document.ofText?
  rw [hread]
  rfl

/-! ## Written documents -/

/-- Whether the numbers of a document are literals and its texts Unicode texts. -/
inductive Document.IsPlain : Document → Prop
  | null : IsPlain .null
  | bool (value : Bool) : IsPlain (.bool value)
  | number {literal : List Char} (h : IsLiteral literal) : IsPlain (.number literal)
  | text (value : String) : IsPlain (.ofString value)
  | array {elements : List Document} (h : ∀ element ∈ elements, element.IsPlain) :
    IsPlain (.array elements)
  | object {members : List (String × Document)} (h : ∀ member ∈ members, member.2.IsPlain) :
    IsPlain (.ofMembers members)

theorem isSpace_of_mem_indentation (level : ℕ) : ∀ c ∈ indentation level, isSpace c = true := by
  intro c hc
  obtain rfl | hc := List.mem_cons.1 hc
  · decide
  · rw [List.eq_of_mem_replicate hc]
    decide

namespace Document

theorem compactElements_eq_map (elements : List Document) :
    compactElements elements = elements.map compact := by
  induction elements with
  | nil => rfl
  | cons element rest ih => rw [compactElements, ih, List.map_cons]

theorem compactMembers_eq_map (members : List (String × Document)) :
    compactMembers (members.map fun (key, value) ↦ (some key, value)) =
      members.map fun member ↦ memberText [] member.1 member.2.compact := by
  induction members with
  | nil => rfl
  | cons member rest ih =>
    rw [List.map_cons, compactMembers, ih, List.map_cons]
    rfl

theorem compact_ofMembers (members : List (String × Document)) :
    (ofMembers members).compact = '\x7b' :: (separated [',']
      (members.map fun member ↦ memberText [] member.1 member.2.compact) ++ ['\x7d']) := by
  rw [ofMembers, compact, compactMembers_eq_map]

theorem indentedElements_eq_map (level : ℕ) (elements : List Document) :
    indentedElements level elements = elements.map (indented level) := by
  induction elements with
  | nil => rfl
  | cons element rest ih => rw [indentedElements, ih, List.map_cons]

theorem indentedMembers_eq_map (level : ℕ) (members : List (String × Document)) :
    indentedMembers level (members.map fun (key, value) ↦ (some key, value)) =
      members.map fun member ↦ memberText [] member.1 (' ' :: member.2.indented level) := by
  induction members with
  | nil => rfl
  | cons member rest ih =>
    rw [List.map_cons, indentedMembers, ih, List.map_cons]
    rfl

end Document

theorem Spells.append_blanks {document : Document} {text gap : List Char}
    (h : Spells document text) (hgap : ∀ c ∈ gap, isSpace c = true) :
    Spells document (gap ++ text) := by
  induction gap with
  | nil => exact h
  | cons c gap ih =>
    exact .blank (hgap c List.mem_cons_self) (ih fun d hd ↦ hgap d (List.mem_cons_of_mem _ hd))

section Written

variable (write : Document → List Char) {behind : List Char}

theorem spells_array {elements : List Document} (hne : elements ≠ [])
    (h : ∀ element ∈ elements, Spells element (write element))
    (hbehind : ∀ c ∈ behind, isSpace c = true) :
    Spells (.array elements)
      ('[' :: (separated [','] (elements.map write) ++ behind ++ [']'])) := by
  have hspells := @Spells.array (elements.map fun element ↦ (element, write element)) behind
    (by simpa using hne) (List.forall_mem_map.2 h) hbehind
  simpa [List.map_map, Function.comp_def] using hspells

theorem spells_object {gap : List Char} (hgap : ∀ c ∈ gap, isSpace c = true)
    {members : List (String × Document)} (hne : members ≠ [])
    (h : ∀ member ∈ members, Spells member.2 (write member.2))
    (hbehind : ∀ c ∈ behind, isSpace c = true) :
    Spells (.ofMembers members) ('\x7b' :: (separated [',']
      (members.map fun member ↦ memberText gap member.1 (write member.2)) ++ behind ++
        ['\x7d'])) := by
  have hspells := @Spells.object gap
    (members.map fun member ↦ (member.1, member.2, write member.2)) behind hgap
    (by simpa using hne) (List.forall_mem_map.2 h) hbehind
  simpa [List.map_map, Function.comp_def] using hspells

end Written

theorem separated_append_singleton (comma : List Char) {front : List (List Char)}
    (hne : front ≠ []) (piece : List Char) :
    separated comma (front ++ [piece]) = separated comma front ++ comma ++ piece := by
  induction front with
  | nil => exact absurd rfl hne
  | cons first rest ih =>
    cases rest with
    | nil => rfl
    | cons next rest =>
      rw [List.cons_append, List.cons_append, separated_cons_cons, ← List.cons_append,
        ih (List.cons_ne_nil _ _), separated_cons_cons]
      simp

/-- One piece leaves the text of the others as it is. -/
theorem exists_separated_append_cons (comma : List Char) (front behind : List (List Char)) :
    ∃ before after, ∀ piece, separated comma (front ++ piece :: behind) =
      before ++ (piece ++ after) := by
  induction front with
  | nil =>
    cases behind with
    | nil => exact ⟨[], [], fun piece ↦ by simp [separated]⟩
    | cons next rest =>
      exact ⟨[], comma ++ separated comma (next :: rest), fun piece ↦ by simp [separated_cons_cons]⟩
  | cons first rest ih =>
    obtain ⟨before, after, heq⟩ := ih
    refine ⟨first ++ comma ++ before, after, fun piece ↦ ?_⟩
    obtain ⟨next, more, hnext⟩ := List.exists_cons_of_ne_nil
      (List.append_ne_nil_of_right_ne_nil rest (List.cons_ne_nil piece behind))
    rw [List.cons_append, hnext, separated_cons_cons, ← hnext, heq]
    simp

/-- A gap behind each comma is a gap before each piece. -/
theorem append_separated (gap piece : List Char) (rest : List (List Char)) :
    gap ++ separated (',' :: gap) (piece :: rest) =
      separated [','] ((piece :: rest).map (gap ++ ·)) := by
  induction rest generalizing piece with
  | nil => rfl
  | cons next rest ih =>
    rw [separated_cons_cons, List.map_cons, List.map_cons, separated_cons_cons, ← List.map_cons,
      ← ih]
    simp

namespace Document

/-- What is written without blanks spells the document. -/
theorem IsPlain.spells_compact {document : Document} (h : document.IsPlain) :
    Spells document document.compact := by
  induction h with
  | null => exact .null
  | bool value => exact .bool value
  | number hliteral => exact .number hliteral
  | text value => exact .text value
  | @array elements h ih =>
    rw [compact, compactElements_eq_map]
    cases elements with
    | nil => exact .emptyArray
    | cons element rest =>
      have hspells := spells_array compact (List.cons_ne_nil element rest) ih
        (List.forall_mem_nil _)
      rwa [List.append_nil] at hspells
  | @object members h ih =>
    rw [compact_ofMembers]
    cases members with
    | nil => exact .emptyObject
    | cons member rest =>
      have hspells := spells_object compact (List.forall_mem_nil _)
        (List.cons_ne_nil member rest) ih (List.forall_mem_nil _)
      rwa [List.append_nil] at hspells

/-- So does what is written with one element or member a line. -/
theorem IsPlain.spells_indented {document : Document} (h : document.IsPlain) (level : ℕ) :
    Spells document (document.indented level) := by
  induction h generalizing level with
  | null => exact .null
  | bool value => exact .bool value
  | number hliteral => exact .number hliteral
  | text value => exact .text value
  | @array elements h ih =>
    cases elements with
    | nil => exact .emptyArray
    | cons element rest =>
      have hspells := spells_array (fun e ↦ indentation (level + 1) ++ indented (level + 1) e)
        (List.cons_ne_nil element rest)
        (fun e he ↦ (ih e he (level + 1)).append_blanks (isSpace_of_mem_indentation (level + 1)))
        (isSpace_of_mem_indentation level)
      rw [indented, indentedElements_eq_map, append_separated]
      simpa [List.map_map, Function.comp_def] using hspells
  | @object members h ih =>
    cases members with
    | nil => exact .emptyObject
    | cons member rest =>
      have hspells := spells_object (fun d ↦ ' ' :: indented (level + 1) d)
        (isSpace_of_mem_indentation (level + 1)) (List.cons_ne_nil member rest)
        (fun m hm ↦ .blank (by decide) (ih m hm (level + 1))) (isSpace_of_mem_indentation level)
      rw [ofMembers, List.map_cons, indented, indentedMembers_eq_map, append_separated]
      simpa [List.map_map, Function.comp_def, memberText, ofMembers] using hspells

/-- Whether a text is one of those that are written for a document. -/
def IsText (document : Document) (text : String) : Prop :=
  text = document.toCompact ∨ text = document.toIndented

/-- A document is read back from either text. -/
theorem IsPlain.ofText?_of_isText {document : Document} (h : document.IsPlain) {text : String}
    (htext : document.IsText text) : ofText? text.toList = some document := by
  obtain rfl | rfl := htext
  · rw [toCompact, String.toList_ofList]
    exact h.spells_compact.ofText?
  · rw [toIndented, String.toList_ofList]
    exact (h.spells_indented 0).ofText?

end Document

end GpuCounters.Json
