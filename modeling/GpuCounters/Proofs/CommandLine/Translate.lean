import GpuCounters.CommandLine.Run
import GpuCounters.Proofs.Queue.Numerals

/-!
# Property lists on a command line

A property list may be spread over arguments in any way: the numbers in it are those of its
arguments, in order, and what is printed is the bit field of exactly that list, or why there is
none.
-/

namespace GpuCounters.CommandLine

/-! ## Arguments -/

theorem foldl_addPositional (given : Given) (arguments : List String) :
    arguments.foldl Given.addPositional given =
      { given with positional := given.positional ++ arguments } := by
  induction arguments generalizing given with
  | nil => simp
  | cons argument rest ih => simp [ih, Given.addPositional]

/-- Arguments none of which is an option are all taken as they stand. -/
theorem readGiven_of_forall_not_isOption (name : Name) {fuel : ℕ}
    {arguments : List String} (h : ∀ argument ∈ arguments, isOption argument.toList = false)
    (enough : arguments.length ≤ fuel) (given : Given) :
    readGiven name fuel given arguments =
      some { given with positional := given.positional ++ arguments } := by
  rw [← foldl_addPositional]
  induction arguments generalizing fuel given with
  | nil => simp [readGiven]
  | cons argument rest ih =>
    obtain ⟨hargument, hrest⟩ := List.forall_mem_cons.1 h
    have hhyphens : argument ≠ "--" := by
      rintro rfl
      exact absurd hargument (by decide)
    cases fuel with
    | zero => simp at enough
    | succ fuel =>
      rw [readGiven, if_neg hhyphens, hargument]
      exact ih hrest (Nat.le_of_succ_le_succ enough) (given.addPositional argument)

theorem parse?_translate {arguments : List String}
    (h : ∀ argument ∈ arguments, isOption argument.toList = false) (named? : Option String) :
    parse? ("translate" :: arguments) named? = some ⟨false, false, .translate arguments⟩ := by
  have hgiven := readGiven_of_forall_not_isOption .translate h (Nat.le_succ _) {}
  have hcommand : isOption "translate".toList = false := by decide
  rw [parse?, readInvocation, hcommand]
  simp [Name.ofText?, hgiven, Given.toCommand?]

/-! ## Property lists -/

/-- What is printed of the bit field of a property list, or why there is none. -/
def ofBits : Except Queue.Refusal Queue.Bits → Outcome
  | .ok bits =>
    ⟨0, success ("Queue properties: " ++ Decimal.hex bits.toNat ++ " (" ++
      Queue.describe bits ++ ")"), ""⟩
  | .error refusal => ⟨1, "", failure ("Queue properties rejected: " ++ refusal.message)⟩

/-- An empty list is no list, which makes no difference. -/
theorem bitsOf_nonempty (numbers : List UInt64) :
    Queue.bitsOf (if numbers = [] then none else some numbers) = Queue.bitsOf (some numbers) := by
  split
  · subst numbers
    rfl
  · rfl

theorem run?_translate_of_readNumeralList {surroundings : Surroundings} {arguments : List String}
    {numbers : List UInt64} (h : ∀ argument ∈ arguments, isOption argument.toList = false)
    (hread : Queue.readNumeralList (" ".intercalate arguments) = .ok numbers) :
    run? surroundings ("translate" :: arguments) = some (ofBits (Queue.bitsOf (some numbers))) := by
  rw [run?, parse?_translate h, Option.map_some, runInvocation]
  simp only [perform, translate, bitsOfArguments, hread, bitsOf_nonempty]
  cases Queue.bitsOf (some numbers) with
  | ok bits => simp [ofBits]
  | error refusal => rfl

/-- What writes numbers out is no option. -/
theorem isOption_of_writes {text : List Char} {numbers : List UInt64}
    (h : Queue.Writes text numbers) : isOption text = false := by
  cases hoption : isOption text with
  | false => rfl
  | true =>
    unfold isOption at hoption
    split at hoption
    · exact absurd h Queue.not_writes_minus_cons
    · cases hoption

/-- A text is read exactly if it writes numbers out, and otherwise it is refused for its first bad
numeral. However numbers are written out and spread over arguments, a command line translates the
list of all of them. -/
theorem readNumeralList_and_translate :
    (∀ text numbers, Queue.readNumeralList text = .ok numbers ↔
      Queue.Writes text.toList numbers) ∧
    (∀ text bad, Queue.readNumeralList text = .error bad ↔ Queue.IsFirstBad text.toList bad) ∧
    ∀ surroundings arguments parts,
      List.Forall₂ (fun argument numbers ↦ Queue.Writes argument.toList numbers) arguments parts →
      run? surroundings ("translate" :: arguments) =
        some (ofBits (Queue.bitsOf (some parts.flatten))) := by
  refine ⟨fun _ _ ↦ Queue.readNumeralList_eq_ok_iff, fun _ _ ↦ Queue.readNumeralList_eq_error_iff,
    fun surroundings arguments parts hwrites ↦ ?_⟩
  have hoptions : ∀ argument ∈ arguments, isOption argument.toList = false := by
    induction hwrites with
    | nil => simp
    | cons hargument _ ih => exact List.forall_mem_cons.2 ⟨isOption_of_writes hargument, ih⟩
  refine run?_translate_of_readNumeralList hoptions ?_
  rw [Queue.readNumeralList_eq_ok_iff, String.toList_intercalate]
  exact Queue.Writes.join (List.forall₂_map_left_iff.2 hwrites)

/-- A bit field in decimal and a hint in base sixteen, with a sign, zeros and letters of either case
among them. -/
theorem readNumeralList_and_translate_spread :
    run? ⟨fun _ ↦ .error .notText, []⟩ ["translate", "4243,\t+03", " 0X1096 0x0aBc,"] =
      some ⟨0, success
        "Queue properties: 0x3 (OUT_OF_ORDER_EXEC_MODE_ENABLE | PROFILING_ENABLE)", ""⟩ := by
  have hfield : Queue.Writes "4243,\t+03".toList [0x1093, 3] :=
    ⟨["4243".toList, "+03".toList], Text.spaced_iff.2 (by decide),
      .cons (.decimal (.bare ⟨0, by decide⟩)) (.cons (.decimal (.plus ⟨1, by decide⟩)) .nil)⟩
  have hhint : Queue.Writes " 0X1096 0x0aBc,".toList [0x1096, 0xabc] :=
    ⟨["0X1096".toList, "0x0aBc".toList], Text.spaced_iff.2 (by decide),
      .cons (.hexadecimal (.inr rfl) (.bare ⟨0, by decide⟩))
        (.cons (.hexadecimal (.inl rfl) (.bare ⟨1, by decide⟩)) .nil)⟩
  rw [readNumeralList_and_translate.2.2 _ _ _ (.cons hfield (.cons hhint .nil))]
  decide

end GpuCounters.CommandLine
