import GpuCounters.Toml.Text
import GpuCounters.Toml.Writer
import Mathlib.Data.List.Basic
import Mathlib.Tactic.SplitIfs

/-!
# Texts that are read back

Whatever form a text is written in, it is read back as it is. An escape stands for the character
that it was written for, and neither a blank nor a line end ever follows its backslash. Of the
quotes that are not escaped never more than two stand together, so that the first three in a row are
the closing ones, or start with quotes that belong to the text.
-/

namespace GpuCounters.Toml

/-! ## Characters -/

/-- Whether what follows a backslash is an escape of a character. -/
structure Escapes (body : List Char) (c : Char) : Prop where
  /-- It does not end the line -/
  head : ∃ mark rest, body = mark :: rest ∧ mark ≠ ' ' ∧ mark ≠ '\t' ∧ mark ≠ '\n'
  clean : '\r' ∉ body
  take : ∀ rest, takeEscape (body ++ rest) = some (c, rest)

/-- How a character of a text with escapes may be written. -/
inductive Writes (allowed run : Nat) (lines : Bool) (c : Char) : List Char → Prop
  | quote (isQuote : c = '"') (few : run < allowed) : Writes allowed run lines c ['"']
  | lineEnd (isEnd : c = '\n') (several : lines = true) : Writes allowed run lines c ['\n']
  | plain (isPlain : isPlain c = true) (noQuote : c ≠ '"') (noMark : c ≠ '\\') :
    Writes allowed run lines c [c]
  | escape {body : List Char} (escapes : Escapes body c) : Writes allowed run lines c ('\\' :: body)

/-- An escape by one letter. -/
theorem escapes_letter {letter c : Char} (h : letterEscape? letter = some c) :
    Escapes [letter] c := by
  have hmark : letter ≠ 'u' ∧ letter ≠ 'U' ∧ letter ≠ ' ' ∧ letter ≠ '\t' ∧ letter ≠ '\n' ∧
      letter ≠ '\r' := by
    refine ⟨?_, ?_, ?_, ?_, ?_, ?_⟩ <;> rintro rfl <;> simp [letterEscape?] at h
  obtain ⟨hshort, hlong, hblank, htab, hline, hreturn⟩ := hmark
  refine ⟨⟨letter, [], rfl, hblank, htab, hline⟩, ?_, fun rest ↦ ?_⟩
  · exact fun hmem ↦ hreturn (List.mem_singleton.1 hmem).symm
  · rw [List.singleton_append]
    unfold takeEscape
    split
    · rename_i heq
      exact absurd (List.cons.inj heq).1 hshort
    · rename_i heq
      exact absurd (List.cons.inj heq).1 hlong
    · rename_i heq
      obtain ⟨rfl, rfl⟩ := List.cons.inj heq
      rw [h]
      rfl
    · rename_i heq
      cases heq

/-- The four digits of base sixteen that a control character is escaped by. -/
def controlDigits (n : Nat) : List Char :=
  let digits := (Nat.toDigits 16 n).map Char.toUpper
  List.replicate (4 - digits.length) '0' ++ digits

/-- Control characters are few, and each of them is read back from its number. -/
theorem hexValue?_controlDigits {n : Nat} (h : n < 128) :
    (controlDigits n).length = 4 ∧ '\r' ∉ controlDigits n ∧
      hexValue? (controlDigits n) = some n := by
  have hall : ∀ n < 128, (controlDigits n).length = 4 ∧ '\r' ∉ controlDigits n ∧
      hexValue? (controlDigits n) = some n := by
    decide +kernel
  exact hall n h

theorem escapes_control {c : Char} (h : c.toNat < 128) :
    Escapes ('u' :: controlDigits c.toNat) c := by
  obtain ⟨hlength, hclean, hvalue⟩ := hexValue?_controlDigits h
  refine ⟨⟨'u', _, rfl, by decide, by decide, by decide⟩, by simp [hclean], fun rest ↦ ?_⟩
  have htake : (controlDigits c.toNat ++ rest).take 4 = controlDigits c.toNat := by
    rw [← hlength, List.take_left]
  have hdrop : (controlDigits c.toNat ++ rest).drop 4 = rest := by
    rw [← hlength, List.drop_left]
  have hscalar : c.toNat < 0xD800 := by omega
  show takeScalar 4 (controlDigits c.toNat ++ rest) = some (c, rest)
  simp [takeScalar, htake, hdrop, hlength, hvalue, hscalar, Char.ofNat_toNat]

theorem isPlain_of_not_isControl {c : Char} (h : isControl c = false) (hline : c ≠ '\n') :
    isPlain c = true := by
  simp only [isControl, Bool.and_eq_false_iff, Bool.or_eq_false_iff, decide_eq_false_iff_not,
    not_not] at h
  simp only [isPlain, Bool.or_eq_true, Bool.and_eq_true, decide_eq_true_eq]
  rcases h with (htab | hend) | ⟨hlow, hdelete⟩
  · exact .inl htab
  · exact absurd hend hline
  · exact .inr ⟨by omega, hdelete⟩

theorem writes_writeChar (allowed run : Nat) (lines : Bool) (c : Char) :
    Writes allowed run lines c (writeChar allowed run lines c) := by
  unfold writeChar
  split_ifs with hquote hfew hmark hback htab hline hlines hfeed hreturn hcontrol
  · exact .quote hquote hfew
  · exact .escape (escapes_letter (by rw [hquote]; rfl))
  · exact .escape (escapes_letter (by rw [hmark]; rfl))
  · exact .escape (escapes_letter (hback ▸ rfl))
  · exact .escape (escapes_letter (htab ▸ rfl))
  · exact .lineEnd hline hlines
  · exact .escape (escapes_letter (hline ▸ rfl))
  · exact .escape (escapes_letter (hfeed ▸ rfl))
  · exact .escape (escapes_letter (hreturn ▸ rfl))
  · have hsmall : c.toNat < 128 := by
      simp [isControl] at hcontrol
      omega
    exact .escape (escapes_control hsmall)
  · exact .plain (isPlain_of_not_isControl (by simpa using hcontrol) hline) hquote hmark

theorem writeChars_cons (allowed : Nat) (lines : Bool) (run : Nat) (c : Char) (text : List Char) :
    writeChars allowed lines run (c :: text) =
      writeChar allowed run lines c ++
        writeChars allowed lines (if c = '"' ∧ run < allowed then run + 1 else 0) text := rfl

/-- What is written starts with the first character in one of its ways. -/
theorem exists_writeChars_cons (allowed : Nat) (lines : Bool) (run : Nat) (c : Char)
    (text : List Char) :
    ∃ piece, Writes allowed run lines c piece ∧
      writeChars allowed lines run (c :: text) = piece ++
        writeChars allowed lines (if c = '"' ∧ run < allowed then run + 1 else 0) text :=
  ⟨_, writes_writeChar allowed run lines c, rfl⟩

/-! ## Texts of one line -/

theorem takeBasic_escape {body : List Char} {c : Char} (h : Escapes body c) (fuel : Nat)
    (rest : List Char) :
    takeBasic (fuel + 1) ('\\' :: (body ++ rest)) =
      (takeBasic fuel rest).map fun (cs, rest) ↦ (c :: cs, rest) := by
  simp only [takeBasic, h.take, Option.bind_eq_bind, Option.bind_some]
  cases takeBasic fuel rest <;> rfl

theorem takeBasic_plain {c : Char} (h : isPlain c = true) (hquote : c ≠ '"') (hmark : c ≠ '\\')
    (fuel : Nat) (rest : List Char) :
    takeBasic (fuel + 1) (c :: rest) =
      (takeBasic fuel rest).map fun (cs, rest) ↦ (c :: cs, rest) := by
  rw [takeBasic, if_pos h]
  · exact fun heq ↦ hquote heq
  · exact fun heq ↦ hmark heq

/-- No quote goes without a backslash. -/
theorem takeBasic_writeChars (text rest : List Char) {fuel : Nat}
    (h : (writeChars 0 false 0 text).length < fuel) :
    takeBasic fuel (writeChars 0 false 0 text ++ '"' :: rest) = some (text, rest) := by
  induction text generalizing fuel with
  | nil =>
    obtain ⟨fuel, rfl⟩ := Nat.exists_eq_add_one_of_ne_zero (Nat.ne_of_gt (Nat.zero_lt_of_lt h))
    rfl
  | cons c text ih =>
    obtain ⟨fuel, rfl⟩ := Nat.exists_eq_add_one_of_ne_zero (Nat.ne_of_gt (Nat.zero_lt_of_lt h))
    obtain ⟨piece, hwrites, hnext⟩ := exists_writeChars_cons 0 false 0 c text
    rw [if_neg (by simp)] at hnext
    rw [hnext] at h ⊢
    cases hwrites with
    | quote isQuote few => cases few
    | lineEnd isEnd several => cases several
    | plain isPlain noQuote noMark =>
      rw [List.singleton_append, List.cons_append, takeBasic_plain isPlain noQuote noMark,
        ih (by simpa using h)]
      rfl
    | escape escapes =>
      rw [List.cons_append, List.cons_append, List.append_assoc, takeBasic_escape escapes, ih]
      · rfl
      · simp only [List.cons_append, List.length_cons, List.length_append] at h
        omega

theorem takeLiteral_append (rest : List Char) {text : List Char}
    (h : ∀ c ∈ text, isPlain c = true ∧ c ≠ '\'') :
    takeLiteral (text ++ '\'' :: rest) = some (text, rest) := by
  induction text with
  | nil => rfl
  | cons c text ih =>
    obtain ⟨⟨hplain, hquote⟩, hrest⟩ := List.forall_mem_cons.1 h
    rw [List.cons_append, takeLiteral, if_neg hquote, if_pos hplain, ih hrest]
    rfl

/-! ## Texts of several lines -/

section Lines

variable {quote : Char} {escapes : Bool}

/-- Whether what is written, which does not start with a quote, is read as one character of a text
of several lines. -/
structure Shows (quote : Char) (escapes : Bool) (piece : List Char) (c : Char) : Prop where
  head : ∃ first more, piece = first :: more ∧ first ≠ quote
  take : ∀ fuel rest, takeLines quote escapes (fuel + 1) (piece ++ rest) =
    (takeLines quote escapes fuel rest).map fun (cs, rest) ↦ (c :: cs, rest)

theorem shows_plain {c : Char} (hquote : c ≠ quote) (hmark : ¬(c = '\\' ∧ escapes = true))
    (hplain : c = '\n' ∨ isPlain c = true) : Shows quote escapes [c] c := by
  refine ⟨⟨c, [], rfl, hquote⟩, fun fuel rest ↦ ?_⟩
  rw [List.singleton_append, takeLines, if_neg hquote, if_neg hmark, if_pos hplain]

theorem shows_escape {body : List Char} {c : Char} (h : Escapes body c) :
    Shows '"' true ('\\' :: body) c := by
  refine ⟨⟨'\\', body, rfl, by decide⟩, fun fuel rest ↦ ?_⟩
  obtain ⟨mark, more, rfl, hblank, htab, hline⟩ := h.head
  have hnone : takeContinuation (mark :: more ++ rest) = none := by
    rw [takeContinuation, List.cons_append, List.dropWhile_cons_of_neg (by simp [hblank, htab])]
    split
    · rename_i heq
      exact absurd (List.cons.inj heq).1 hline
    · rfl
  rw [List.cons_append, takeLines, if_neg (by decide), if_pos (by decide), hnone, h.take]
  simp only [Option.bind_eq_bind, Option.bind_some]
  cases takeLines '"' true fuel rest <;> rfl

/-- How a text of several lines is written behind some quotes that belong to it: no more than two
stand together, and all else shows a character. -/
inductive Spells (quote : Char) (escapes : Bool) : Nat → List Char → List Char → Prop
  | nil (run : Nat) : Spells quote escapes run [] []
  | quote {run : Nat} {text written : List Char} (few : run < 2)
      (rest : Spells quote escapes (run + 1) text written) :
    Spells quote escapes run (quote :: text) (quote :: written)
  | shows {run : Nat} {c : Char} {piece text written : List Char}
      (shows : Shows quote escapes piece c) (rest : Spells quote escapes 0 text written) :
    Spells quote escapes run (c :: text) (piece ++ written)

theorem quoteRun_replicate {n : Nat} (hn : n ≤ 5) {rest : List Char}
    (h : rest.head? ≠ some quote) : quoteRun quote (List.replicate n quote ++ rest) = n := by
  have htail : (rest.take (5 - n)).takeWhile (· = quote) = [] := by
    cases rest with
    | nil => simp
    | cons first rest =>
      cases hroom : 5 - n with
      | zero => rfl
      | succ room =>
        rw [List.take_succ_cons, List.takeWhile_cons_of_neg]
        simpa using h
  rw [quoteRun, List.take_append, List.length_replicate, List.take_replicate,
    Nat.min_eq_right hn, List.takeWhile_append_of_pos (by simp), htail, List.append_nil,
    List.length_replicate]

/-- Two quotes do not close a text. -/
theorem takeLines_replicate {n : Nat} (hn : n ≤ 2) {rest : List Char}
    (h : rest.head? ≠ some quote) (fuel : Nat) :
    takeLines quote escapes (fuel + n) (List.replicate n quote ++ rest) =
      (takeLines quote escapes fuel rest).map
        fun (cs, rest) ↦ (List.replicate n quote ++ cs, rest) := by
  induction n with
  | zero =>
    rw [List.replicate_zero, List.nil_append, Nat.add_zero]
    cases takeLines quote escapes fuel rest <;> rfl
  | succ n ih =>
    have hrun := quoteRun_replicate (by omega : n + 1 ≤ 5) h
    rw [List.replicate_succ, List.cons_append] at hrun ⊢
    rw [← Nat.add_assoc, takeLines, if_pos rfl]
    dsimp only
    rw [hrun, if_neg (by omega), ih (by omega), Option.map_map]
    rfl

/-- Three quotes close a text, and up to two before them belong to it. -/
theorem takeLines_closing {n : Nat} (hn : n ≤ 2) {rest : List Char}
    (h : rest.head? ≠ some quote) (fuel : Nat) :
    takeLines quote escapes (fuel + 1)
        (List.replicate n quote ++ ([quote, quote, quote] ++ rest)) =
      some (List.replicate n quote, rest) := by
  have hquotes : List.replicate n quote ++ ([quote, quote, quote] ++ rest) =
      List.replicate (n + 3) quote ++ rest := by
    rw [← List.append_assoc, List.replicate_add]
    rfl
  have hrun := quoteRun_replicate (by omega : n + 3 ≤ 5) h
  have hrest : (List.replicate (n + 3) quote ++ rest).drop (n + 3) = rest :=
    List.drop_left' List.length_replicate
  rw [hquotes]
  rw [List.replicate_succ, List.cons_append] at hrun hrest ⊢
  rw [takeLines, if_pos rfl]
  dsimp only
  rw [hrun, if_pos (by omega), hrest, Nat.add_sub_cancel]

/-- The induction is on how the text is written, with the quotes before it that are yet unread. -/
theorem Spells.takeLines_append {run : Nat} {text written : List Char}
    (h : Spells quote escapes run text written) {rest : List Char}
    (hrest : rest.head? ≠ some quote) {pending fuel : Nat} (hpending : pending ≤ run)
    (hrun : run ≤ 2) (hfuel : pending + written.length < fuel) :
    takeLines quote escapes fuel
        (List.replicate pending quote ++ (written ++ ([quote, quote, quote] ++ rest))) =
      some (List.replicate pending quote ++ text, rest) := by
  induction h generalizing pending fuel with
  | nil run =>
    obtain ⟨fuel, rfl⟩ := Nat.exists_eq_add_one_of_ne_zero (by omega : fuel ≠ 0)
    rw [List.nil_append, takeLines_closing (by omega) hrest, List.append_nil]
  | @quote run text written few _ ih =>
    have hshift : ∀ tail : List Char, List.replicate pending quote ++ quote :: tail =
        List.replicate (pending + 1) quote ++ tail := by
      intro tail
      rw [List.replicate_succ', List.append_assoc, List.singleton_append]
    rw [List.cons_append, hshift, hshift]
    apply ih (by omega) (by omega)
    rw [List.length_cons] at hfuel
    omega
  | @shows run c piece text written shows _ ih =>
    obtain ⟨first, more, hpiece, hfirst⟩ := shows.head
    have hhead : (piece ++ written ++ ([quote, quote, quote] ++ rest)).head? ≠ some quote := by
      rw [hpiece]
      exact fun heq ↦ hfirst (Option.some.inj heq)
    rw [hpiece, List.cons_append, List.length_cons, List.length_append] at hfuel
    obtain ⟨fuel, rfl⟩ := Nat.exists_eq_add_of_le (by omega : pending + 1 ≤ fuel)
    have hread := ih (Nat.zero_le 0) (Nat.zero_le 2) (by omega : 0 + written.length < fuel)
    rw [List.replicate_zero, List.nil_append, List.nil_append] at hread
    rw [show pending + 1 + fuel = fuel + 1 + pending by omega,
      takeLines_replicate (by omega) hhead, List.append_assoc, shows.take, hread]
    rfl

end Lines

/-! ### How they are written -/

/-- The writer puts a backslash before every third quote. -/
theorem spells_writeChars (run : Nat) (text : List Char) :
    Spells '"' true run text (writeChars 2 true run text) := by
  induction text generalizing run with
  | nil => exact .nil run
  | cons c text ih =>
    by_cases hquote : c = '"' ∧ run < 2
    · obtain ⟨rfl, hfew⟩ := hquote
      rw [writeChars_cons, if_pos ⟨rfl, hfew⟩, writeChar, if_pos rfl, if_pos hfew]
      exact .quote hfew (ih (run + 1))
    · obtain ⟨piece, hwrites, hnext⟩ := exists_writeChars_cons 2 true run c text
      rw [hnext, if_neg hquote]
      cases hwrites with
      | quote isQuote few => exact absurd ⟨isQuote, few⟩ hquote
      | lineEnd isEnd several =>
        subst isEnd
        exact .shows (shows_plain (by decide) (by decide) (.inl rfl)) (ih 0)
      | plain isPlain noQuote noMark =>
        exact .shows (shows_plain noQuote (fun h ↦ noMark h.1) (.inr isPlain)) (ih 0)
      | escape escapes => exact .shows (shows_escape escapes) (ih 0)

/-- One more character of which runs are counted: the run so far and the longest one. -/
def countRun (c : Char) (counts : Nat × Nat) (d : Char) : Nat × Nat :=
  if d = c then (counts.1 + 1, max counts.2 (counts.1 + 1)) else (0, counts.2)

theorem longestRun_eq (c : Char) (text : List Char) :
    longestRun c text = (text.foldl (countRun c) (0, 0)).2 := rfl

theorem le_foldl_countRun (c : Char) (counts : Nat × Nat) (text : List Char) :
    counts.2 ≤ (text.foldl (countRun c) counts).2 := by
  induction text generalizing counts with
  | nil => exact Nat.le_refl _
  | cons d text ih =>
    refine Nat.le_trans ?_ (ih _)
    unfold countRun
    split
    · exact Nat.le_max_left _ _
    · exact Nat.le_refl _

/-- A text without a run of three quotes is written as it is. -/
theorem spells_of_foldl {quote : Char} {text : List Char} (counts : Nat × Nat)
    (h : (text.foldl (countRun quote) counts).2 ≤ 2)
    (hclean : ∀ c ∈ text, c = '\n' ∨ isPlain c = true) :
    Spells quote false counts.1 text text := by
  induction text generalizing counts with
  | nil => exact .nil _
  | cons c text ih =>
    obtain ⟨hc, hrest⟩ := List.forall_mem_cons.1 hclean
    have hread := ih (countRun quote counts c) h hrest
    have hbest := Nat.le_trans (le_foldl_countRun quote (countRun quote counts c) text) h
    unfold countRun at hread hbest
    by_cases hquote : c = quote
    · rw [if_pos hquote] at hread hbest
      subst hquote
      have hrun := Nat.le_trans (Nat.le_max_right _ _) hbest
      exact .quote hrun hread
    · rw [if_neg hquote] at hread
      exact .shows (shows_plain hquote (by simp) hc) hread

theorem notMem_of_longestRun {c : Char} {text : List Char} (h : longestRun c text = 0) :
    c ∉ text := by
  rw [longestRun_eq] at h
  intro hmem
  obtain ⟨before, after, rfl⟩ := List.append_of_mem hmem
  rw [List.foldl_append, List.foldl_cons] at h
  have hbest := le_foldl_countRun c (countRun c (before.foldl (countRun c) (0, 0)) c) after
  rw [h, countRun, if_pos rfl] at hbest
  have hrun := Nat.le_trans (Nat.le_max_right _ _) hbest
  omega

/-! ## Forms -/

theorem of_formOf_literal {text : List Char} (h : formOf text = .literal) :
    (∀ c ∈ text, isControl c = false) ∧ '\'' ∉ text ∧ '\n' ∉ text := by
  unfold formOf at h
  dsimp only at h
  split_ifs at h with hbasic hliteral
  simp only [Bool.and_eq_true, Bool.not_eq_true', List.any_eq_false, decide_eq_true_eq] at hliteral
  obtain ⟨⟨hcontrols, hsingles⟩, hline⟩ := hliteral
  refine ⟨fun c hc ↦ by simpa using hcontrols c hc, notMem_of_longestRun hsingles, ?_⟩
  intro hmem
  rw [List.contains_iff_mem.2 hmem] at hline
  cases hline

theorem of_formOf_literalLines {text : List Char} (h : formOf text = .literalLines) :
    (∀ c ∈ text, isControl c = false) ∧ longestRun '\'' text ≤ 2 := by
  unfold formOf at h
  dsimp only at h
  split_ifs at h with hbasic hliteral hlines hfew
  simp only [Bool.and_eq_true, Bool.not_eq_true', List.any_eq_false, decide_eq_true_eq] at hfew
  exact ⟨fun c hc ↦ by simpa using hfew.1 c hc, hfew.2⟩

/-- What does not start with three quotes is a text of one line. -/
theorem takeText_eq_takeShortText {text : List Char} (hdouble : ¬['"', '"', '"'] <+: text)
    (hsingle : ¬['\'', '\'', '\''] <+: text) : takeText text = takeShortText text := by
  unfold takeText
  split
  · exact absurd (List.prefix_append ['"', '"', '"'] _) hdouble
  · exact absurd (List.prefix_append ['\'', '\'', '\''] _) hsingle
  · rfl

theorem not_prefix_of_head? {q : Char} {body rest : List Char} (hbody : body.head? ≠ some q)
    (hrest : rest.head? ≠ some q) : ¬[q, q, q] <+: q :: (body ++ q :: rest) := by
  rintro ⟨tail, htail⟩
  have hsecond : q :: q :: tail = body ++ q :: rest := (List.cons.inj htail).2
  cases body with
  | nil => exact hrest (by rw [← (List.cons.inj hsecond).2]; rfl)
  | cons d body => exact hbody (by rw [(List.cons.inj hsecond).1]; rfl)

theorem not_prefix_of_ne {q d : Char} (h : d ≠ q) (rest : List Char) :
    ¬[q, q, q] <+: d :: rest := by
  rintro ⟨tail, htail⟩
  exact h (List.cons.inj htail).1.symm

theorem head?_writeChars (text : List Char) :
    (writeChars 0 false 0 text).head? ≠ some '"' := by
  cases text with
  | nil => simp [writeChars]
  | cons c text =>
    obtain ⟨piece, hwrites, hnext⟩ := exists_writeChars_cons 0 false 0 c text
    rw [hnext]
    cases hwrites with
    | quote isQuote few => cases few
    | lineEnd isEnd several => cases several
    | plain isPlain noQuote noMark => exact fun h ↦ noQuote (Option.some.inj h)
    | escape escapes => exact fun h ↦ absurd (Option.some.inj h) (by decide)

theorem dropLineEnd_of_head? {text : List Char} (h : text.head? ≠ some '\n') :
    dropLineEnd text = text := by
  unfold dropLineEnd
  split
  · exact absurd rfl h
  · rfl

/-- A text of several lines is read behind its opening quotes, whether or not it starts on the next
line. -/
theorem Spells.takeLines_dropLineEnd {quote : Char} {escapes : Bool} {text written : List Char}
    (h : Spells quote escapes 0 text written) {rest : List Char}
    (hrest : rest.head? ≠ some quote) (hquote : quote ≠ '\n')
    (hline : '\n' ∉ text → written.head? ≠ some '\n') {body : List Char}
    (hbody : body = (if text.contains '\n' then ['\n'] else []) ++
      (written ++ ([quote, quote, quote] ++ rest))) :
    takeLines quote escapes (body.length + 1) (dropLineEnd body) = some (text, rest) := by
  have hopened : dropLineEnd body = written ++ ([quote, quote, quote] ++ rest) := by
    rw [hbody]
    by_cases hcontains : text.contains '\n' = true
    · rw [if_pos hcontains]
      rfl
    · rw [if_neg hcontains, List.nil_append]
      apply dropLineEnd_of_head?
      have hhead := hline (by simpa using hcontains)
      cases written with
      | nil => exact fun heq ↦ hquote (Option.some.inj heq)
      | cons c written => exact hhead
  have hlength : 0 + written.length < body.length + 1 := by
    rw [hbody, List.length_append, List.length_append]
    omega
  rw [hopened]
  exact h.takeLines_append hrest (Nat.zero_le 0) (Nat.zero_le 2) hlength

theorem head?_writeChars_lines {text : List Char} (h : '\n' ∉ text) :
    (writeChars 2 true 0 text).head? ≠ some '\n' := by
  cases text with
  | nil => simp [writeChars]
  | cons c text =>
    obtain ⟨piece, hwrites, hnext⟩ := exists_writeChars_cons 2 true 0 c text
    rw [hnext]
    have hc : c ≠ '\n' := fun heq ↦ h (heq ▸ List.mem_cons_self)
    cases hwrites with
    | quote isQuote few => exact fun h ↦ absurd (Option.some.inj h) (by decide)
    | lineEnd isEnd several => exact absurd isEnd hc
    | plain isPlain noQuote noMark => exact fun h ↦ hc (Option.some.inj h)
    | escape escapes => exact fun h ↦ absurd (Option.some.inj h) (by decide)

/-- A text is read back from each form that it may be written in, if no quote follows. -/
theorem takeText_writeText (text : List Char) {rest : List Char}
    (hdouble : rest.head? ≠ some '"') (hsingle : rest.head? ≠ some '\'') :
    takeText (writeText text ++ rest) = some (text, rest) := by
  unfold writeText
  cases hform : formOf text with
  | basic =>
    dsimp only
    rw [List.cons_append, List.append_assoc, List.singleton_append, takeText_eq_takeShortText
      (not_prefix_of_head? (head?_writeChars text) hdouble) (not_prefix_of_ne (by decide) _)]
    apply takeBasic_writeChars
    rw [List.length_append]
    omega
  | literal =>
    obtain ⟨hcontrols, hquotes, hlines⟩ := of_formOf_literal hform
    have hclean : ∀ c ∈ text, isPlain c = true ∧ c ≠ '\'' := fun c hc ↦
      ⟨isPlain_of_not_isControl (hcontrols c hc) fun heq ↦ hlines (heq ▸ hc),
        fun heq ↦ hquotes (heq ▸ hc)⟩
    dsimp only
    rw [List.cons_append, List.append_assoc, List.singleton_append, takeText_eq_takeShortText
      (not_prefix_of_ne (by decide) _)
      (not_prefix_of_head? (fun hhead ↦ hquotes (List.mem_of_head? hhead)) hsingle)]
    exact takeLiteral_append rest hclean
  | basicLines =>
    have hread := (spells_writeChars 0 text).takeLines_dropLineEnd hdouble (by decide)
      head?_writeChars_lines rfl
    simp only [List.append_assoc]
    exact hread
  | literalLines =>
    obtain ⟨hcontrols, hquotes⟩ := of_formOf_literalLines hform
    have hclean : ∀ c ∈ text, c = '\n' ∨ isPlain c = true := by
      intro c hc
      by_cases hline : c = '\n'
      · exact .inl hline
      · exact .inr (isPlain_of_not_isControl (hcontrols c hc) hline)
    have hread := (spells_of_foldl (0, 0) hquotes hclean).takeLines_dropLineEnd hsingle (by decide)
      (fun hline hhead ↦ hline (List.mem_of_head? hhead)) rfl
    simp only [List.append_assoc]
    exact hread

/-! ## Line ends -/

theorem return_notMem_writeChars (allowed : Nat) (lines : Bool) (run : Nat) (text : List Char) :
    '\r' ∉ writeChars allowed lines run text := by
  induction text generalizing run with
  | nil => simp [writeChars]
  | cons c text ih =>
    obtain ⟨piece, hwrites, hnext⟩ := exists_writeChars_cons allowed lines run c text
    rw [hnext, List.mem_append, not_or]
    refine ⟨?_, ih _⟩
    cases hwrites with
    | quote isQuote few => decide
    | lineEnd isEnd several => decide
    | plain isPlain noQuote noMark =>
      intro hmem
      rw [← List.mem_singleton.1 hmem] at isPlain
      exact absurd isPlain (by decide)
    | escape escapes =>
      rintro (_ | ⟨_, hmem⟩)
      exact escapes.clean hmem

/-- A text is never written with a return that is not escaped. -/
theorem return_notMem_writeText (text : List Char) : '\r' ∉ writeText text := by
  unfold writeText
  cases hform : formOf text with
  | basic => simp [return_notMem_writeChars]
  | basicLines => simp [return_notMem_writeChars]
  | literal =>
    have hclean : '\r' ∉ text := fun hmem ↦
      absurd ((of_formOf_literal hform).1 _ hmem) (by decide)
    simp [hclean]
  | literalLines =>
    have hclean : '\r' ∉ text := fun hmem ↦
      absurd ((of_formOf_literalLines hform).1 _ hmem) (by decide)
    simp [hclean]

theorem foldLineEnds_of_notMem {text : List Char} (h : '\r' ∉ text) :
    foldLineEnds text = text := by
  induction text with
  | nil => rfl
  | cons c text ih =>
    have hc : c ≠ '\r' := fun heq ↦ h (heq ▸ List.mem_cons_self)
    have htext := ih fun hmem ↦ h (List.mem_cons_of_mem c hmem)
    rw [foldLineEnds, htext]
    intro rest heq
    exact absurd heq hc

end GpuCounters.Toml
