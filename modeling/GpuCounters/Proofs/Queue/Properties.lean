import GpuCounters.Proofs.FirstFault
import GpuCounters.Queue.Properties
import Mathlib.Data.List.Perm.Basic

/-!
# Which property lists are bit fields

A list is read as entries, each a key with its value, up to a zero key or its end; a last key may
lack its value. The list is a bit field exactly if every entry is acceptable, and then it is the
union of the bit fields in it, whatever their order, whatever hints stand between them and whatever
follows the zero key. Otherwise the first entry that is not acceptable says why the list is refused.
-/

namespace GpuCounters.Queue

/-! ## Entries -/

/-- A key of a list, and its value unless the list ends behind the key. -/
abbrev Entry := UInt64 × Option UInt64

/-- What a list says before a zero key or its end. -/
def entriesOf : List UInt64 → List Entry
  | [] => []
  | [key] => if key = 0 then [] else [(key, none)]
  | key :: value :: rest => if key = 0 then [] else (key, some value) :: entriesOf rest

def IsHintKey (key : UInt64) : Prop := key = priorityKey ∨ key = throttleKey

instance : DecidablePred IsHintKey := fun _ ↦ inferInstanceAs (Decidable (_ ∨ _))

def IsHint (entry : Entry) : Prop := IsHintKey entry.1 ∧ entry.2.isSome

instance : DecidablePred IsHint := fun _ ↦ inferInstanceAs (Decidable (_ ∧ _))

/-- Whether an entry is a bit field that a queue with counters supports. -/
def IsField (entry : Entry) : Prop := entry.1 = propertiesKey ∧ ∃ value ∈ entry.2, value ∈ supported

instance : DecidablePred IsField := fun _ ↦ inferInstanceAs (Decidable (_ ∧ _))

/-- Whether an entry may stand in a list. -/
def IsAcceptable (entry : Entry) : Prop := IsField entry ∨ IsHint entry

instance : DecidablePred IsAcceptable := fun _ ↦ inferInstanceAs (Decidable (_ ∨ _))

/-- What is wrong with an entry. -/
inductive Offends : Entry → Refusal → Prop
  | missingValue (key : UInt64) : Offends (key, none) (.missingValue key)
  | unsupportedValue {value : UInt64} (unsupported : value ∉ supported) :
      Offends (propertiesKey, some value) (.unsupportedValue value)
  | unrecognizedKey {key : UInt64} (value : UInt64) (noField : key ≠ propertiesKey)
      (noHint : ¬IsHintKey key) : Offends (key, some value) (.unrecognizedKey key)

def fieldsOf (entries : List Entry) : List Bits :=
  entries.filterMap fun entry ↦ if entry.1 = propertiesKey then entry.2 else none

/-- All bits of bit fields. -/
def union (fields : List Bits) : Bits := fields.foldr (· ||| ·) 0

theorem fieldsOf_cons (entry : Entry) (rest : List Entry) :
    fieldsOf (entry :: rest) = fieldsOf [entry] ++ fieldsOf rest :=
  List.filterMap_append (l := [entry])

theorem union_append (fields more : List Bits) :
    union (fields ++ more) = union fields ||| union more := by
  induction fields with
  | nil => simp [union]
  | cons field fields ih =>
    rw [union, union, List.cons_append, List.foldr_cons, List.foldr_cons, UInt64.or_assoc]
    exact congrArg (field ||| ·) ih

theorem hint_ne_field {key : UInt64} (h : IsHintKey key) : key ≠ propertiesKey := by
  obtain rfl | rfl := h <;> decide

theorem pairBits_eq_ok_iff {key value : UInt64} {bits : Bits} :
    pairBits key value = .ok bits ↔
      IsAcceptable (key, some value) ∧ bits = union (fieldsOf [(key, some value)]) := by
  by_cases hfield : key = propertiesKey
  · subst hfield
    have hnoHint : ¬IsHintKey propertiesKey := by decide
    by_cases hvalue : value ∈ supported
    · simp [pairBits, IsAcceptable, IsField, IsHint, union, fieldsOf, hvalue, eq_comm]
    · simp [pairBits, IsAcceptable, IsField, IsHint, hvalue, hnoHint]
  · by_cases hhint : IsHintKey key
    · have hpair : pairBits key value = .ok 0 := by
        rw [pairBits, if_neg hfield]
        exact if_pos hhint
      simp [hpair, IsAcceptable, IsHint, hhint, union, fieldsOf, hfield, eq_comm]
    · have hpair : pairBits key value = .error (.unrecognizedKey key) := by
        rw [pairBits, if_neg hfield]
        exact if_neg hhint
      simp [hpair, IsAcceptable, IsField, IsHint, hfield, hhint]

theorem pairBits_eq_error_iff {key value : UInt64} {refusal : Refusal} :
    pairBits key value = .error refusal ↔ Offends (key, some value) refusal := by
  constructor
  · intro h
    unfold pairBits at h
    split at h
    · rename_i hfield
      subst hfield
      split at h
      · cases h
      · rename_i hvalue
        cases h
        exact .unsupportedValue hvalue
    · rename_i hfield
      split at h
      · cases h
      · rename_i hhint
        cases h
        exact .unrecognizedKey value hfield hhint
  · rintro (_ | hvalue | ⟨_, hfield, hhint⟩)
    · exact if_neg hvalue
    · rw [pairBits, if_neg hfield]
      exact if_neg hhint

theorem Offends.not_isAcceptable {entry : Entry} {refusal : Refusal} (h : Offends entry refusal) :
    ¬IsAcceptable entry := by
  cases h with
  | missingValue key => simp [IsAcceptable, IsField, IsHint]
  | unsupportedValue unsupported =>
    have hnoHint : ¬IsHintKey propertiesKey := by decide
    simp [IsAcceptable, IsField, IsHint, unsupported, hnoHint]
  | unrecognizedKey value noField noHint => simp [IsAcceptable, IsField, IsHint, noField, noHint]

/-! ## Lists -/

/-- The bits of a list are those joined to it and those of its fields. -/
theorem bitsFrom_eq_ok_iff {bits total : Bits} {list : List UInt64} :
    bitsFrom bits list = .ok total ↔
      (∀ entry ∈ entriesOf list, IsAcceptable entry) ∧
        total = bits ||| union (fieldsOf (entriesOf list)) := by
  induction list using entriesOf.induct generalizing bits with
  | case1 => simp [entriesOf, fieldsOf, union, eq_comm]
  | case2 => simp [entriesOf, fieldsOf, union, eq_comm]
  | case3 key hkey => simp [bitsFrom, entriesOf, hkey, IsAcceptable, IsField, IsHint]
  | case4 value rest => simp [entriesOf, fieldsOf, union, eq_comm]
  | case5 key value rest hkey ih =>
    have hentries : entriesOf (key :: value :: rest) = (key, some value) :: entriesOf rest :=
      if_neg hkey
    rw [hentries, List.forall_mem_cons, fieldsOf_cons, union_append, bitsFrom, if_neg hkey]
    cases hpair : pairBits key value with
    | ok more =>
      obtain ⟨hacceptable, rfl⟩ := pairBits_eq_ok_iff.1 hpair
      rw [← UInt64.or_assoc]
      simp [ih, hacceptable]
    | error refusal =>
      simp [(pairBits_eq_error_iff.1 hpair).not_isAcceptable]

theorem bitsFrom_eq_error_iff {bits : Bits} {list : List UInt64} {refusal : Refusal} :
    bitsFrom bits list = .error refusal ↔
      FirstFault IsAcceptable Offends (entriesOf list) refusal := by
  induction list using entriesOf.induct generalizing bits with
  | case1 => simp [entriesOf, not_firstFault_nil]
  | case2 => simp [entriesOf, not_firstFault_nil]
  | case3 key hkey =>
    have hentries : entriesOf [key] = [(key, none)] := if_neg hkey
    have hread : bitsFrom bits [key] = .error (.missingValue key) := if_neg hkey
    have hoffends : Offends (key, none) refusal ↔ Refusal.missingValue key = refusal := by
      constructor
      · rintro ⟨⟩
        rfl
      · rintro rfl
        exact .missingValue key
    simp [hentries, hread, firstFault_cons, not_firstFault_nil, hoffends]
  | case4 value rest => simp [entriesOf, not_firstFault_nil]
  | case5 key value rest hkey ih =>
    have hentries : entriesOf (key :: value :: rest) = (key, some value) :: entriesOf rest :=
      if_neg hkey
    rw [hentries, firstFault_cons, ← pairBits_eq_error_iff, bitsFrom, if_neg hkey]
    cases hpair : pairBits key value with
    | ok more => simp [ih, (pairBits_eq_ok_iff.1 hpair).1]
    | error cause =>
      simp [(pairBits_eq_error_iff.1 hpair).not_isAcceptable]

/-- Supported bit fields are closed under union. -/
theorem union_mem_supported {fields : List Bits} (h : ∀ field ∈ fields, field ∈ supported) :
    union fields ∈ supported := by
  have hclosed : supported.Forall fun bits ↦ supported.Forall fun more ↦
      bits ||| more ∈ supported := by decide
  simp only [List.forall_iff_forall_mem] at hclosed
  induction fields with
  | nil => decide
  | cons field fields ih =>
    obtain ⟨hfield, hfields⟩ := List.forall_mem_cons.1 h
    exact hclosed field hfield (union fields) (ih hfields)

theorem mem_supported_of_mem_fieldsOf {entries : List Entry}
    (h : ∀ entry ∈ entries, IsAcceptable entry) {field : Bits} (hfield : field ∈ fieldsOf entries) :
    field ∈ supported := by
  obtain ⟨⟨key, value?⟩, hentry, hvalue⟩ := List.mem_filterMap.1 hfield
  dsimp only at hvalue
  split at hvalue
  · rename_i hkey
    obtain ⟨-, value, hmem, hsupported⟩ | ⟨hhint, -⟩ := h _ hentry
    · obtain rfl : field = value := Option.some.inj (hvalue.symm.trans hmem)
      exact hsupported
    · exact absurd hkey (hint_ne_field hhint)
  · cases hvalue

/-- Hints are no bit fields. -/
theorem fieldsOf_filter (entries : List Entry) :
    fieldsOf (entries.filter fun entry ↦ ¬IsHint entry) = fieldsOf entries := by
  rw [fieldsOf, fieldsOf, List.filterMap_filter]
  refine List.filterMap_congr fun entry _ ↦ ?_
  by_cases hhint : IsHint entry
  · simp [hhint, hint_ne_field hhint.1]
  · simp [hhint]

/-- Whether lists say the same but for the order of their entries and for hints. -/
def SameFields (entries others : List Entry) : Prop :=
  (entries.filter fun entry ↦ ¬IsHint entry).Perm (others.filter fun entry ↦ ¬IsHint entry)

theorem SameFields.union_eq {entries others : List Entry} (h : SameFields entries others) :
    union (fieldsOf entries) = union (fieldsOf others) := by
  rw [← fieldsOf_filter entries, ← fieldsOf_filter others]
  exact (h.filterMap _).foldr_op_eq

theorem SameFields.isAcceptable {entries others : List Entry} (h : SameFields entries others)
    (hothers : ∀ entry ∈ others, IsAcceptable entry) : ∀ entry ∈ entries, IsAcceptable entry := by
  intro entry hentry
  by_cases hhint : IsHint entry
  · exact .inr hhint
  · have hmem : entry ∈ entries.filter fun entry ↦ ¬IsHint entry :=
      List.mem_filter.2 ⟨hentry, by simpa using hhint⟩
    exact hothers entry (List.mem_filter.1 (h.subset hmem)).1

/-- Pairs of keys and values in a row. -/
def listOf (pairs : List (UInt64 × UInt64)) : List UInt64 :=
  pairs.flatMap fun (key, value) ↦ [key, value]

/-- Nothing behind a zero key is read. -/
theorem entriesOf_append_zero (pairs : List (UInt64 × UInt64)) (rest : List UInt64) :
    entriesOf (listOf pairs ++ 0 :: rest) = entriesOf (listOf pairs) := by
  induction pairs with
  | nil => cases rest <;> rfl
  | cons pair pairs ih =>
    obtain ⟨key, value⟩ := pair
    have hrow : listOf ((key, value) :: pairs) = key :: value :: listOf pairs := rfl
    rw [hrow, List.cons_append, List.cons_append, entriesOf, entriesOf, ih]

/-- A list is a bit field exactly if all its entries are acceptable. It is the union of its fields
then, which is supported, and which is also that of every list with the same fields, whatever their
order and whatever hints it has. Otherwise the first entry that is not acceptable is the cause.
Nothing behind a zero key matters. -/
theorem bitsOf_entriesOf (properties : Option (List UInt64)) :
    let entries := entriesOf (properties.getD [])
    (∀ bits, bitsOf properties = .ok bits ↔
        (∀ entry ∈ entries, IsAcceptable entry) ∧ bits = union (fieldsOf entries)) ∧
      (∀ refusal, bitsOf properties = .error refusal ↔
        FirstFault IsAcceptable Offends entries refusal) ∧
      (∀ bits, bitsOf properties = .ok bits →
        bits ∈ supported ∧
          ∀ other, SameFields (entriesOf other) entries → bitsOf (some other) = .ok bits) ∧
      ∀ pairs rest, properties = some (listOf pairs ++ 0 :: rest) →
        bitsOf properties = bitsOf (some (listOf pairs)) := by
  have hread : ∀ list, bitsOf (some list) = bitsFrom 0 list := fun _ ↦ rfl
  have hbits : bitsOf properties = bitsFrom 0 (properties.getD []) := by
    cases properties <;> rfl
  have hok : ∀ list bits, bitsFrom 0 list = .ok bits ↔
      (∀ entry ∈ entriesOf list, IsAcceptable entry) ∧
        bits = union (fieldsOf (entriesOf list)) := by
    intro list bits
    rw [bitsFrom_eq_ok_iff, UInt64.zero_or]
  have herror : ∀ list refusal, bitsFrom 0 list = .error refusal ↔
      FirstFault IsAcceptable Offends (entriesOf list) refusal :=
    fun _ _ ↦ bitsFrom_eq_error_iff
  dsimp only
  rw [hbits]
  refine ⟨hok _, herror _, ?_, ?_⟩
  · intro bits haccepted
    obtain ⟨hentries, rfl⟩ := (hok _ _).1 haccepted
    refine ⟨union_mem_supported fun _ ↦ mem_supported_of_mem_fieldsOf hentries, ?_⟩
    intro other hsame
    exact (hok other _).2 ⟨hsame.isAcceptable hentries, hsame.union_eq.symm⟩
  · rintro pairs rest rfl
    -- Both lists have the same entries, so that one is accepted or refused as the other is.
    have hentries := entriesOf_append_zero pairs rest
    rw [hread, Option.getD_some]
    cases hleft : bitsFrom 0 (listOf pairs ++ 0 :: rest) with
    | ok bits =>
      rw [hok, hentries, ← hok] at hleft
      exact hleft.symm
    | error refusal =>
      rw [herror, hentries, ← herror] at hleft
      exact hleft.symm

/-- Two bit fields with hints around them, and an unknown key behind the zero key. -/
def hintedList : List UInt64 :=
  [0x1096, 7, 0x1093, 2, 0x1097, 0, 0x1093, 1, 0, 0x1234]

/-- The fields of a list in the other order and without hints are the same bit field. -/
theorem bitsOf_entriesOf_hintedList :
    SameFields (entriesOf [0x1093, 1, 0x1093, 2]) (entriesOf hintedList) ∧
      bitsOf (some hintedList) = .ok (profiling ||| outOfOrder) ∧
      bitsOf (some [0x1093, 1, 0x1093, 2]) = .ok (profiling ||| outOfOrder) := by
  have hsame : SameFields (entriesOf [0x1093, 1, 0x1093, 2]) (entriesOf hintedList) := by
    unfold SameFields
    decide
  obtain ⟨haccepted, -, hkept, -⟩ := bitsOf_entriesOf (some hintedList)
  have hacceptable : ∀ entry ∈ entriesOf hintedList, IsAcceptable entry :=
    List.forall_iff_forall_mem.1 (by decide)
  have hbits := (haccepted (profiling ||| outOfOrder)).2 ⟨hacceptable, by decide⟩
  exact ⟨hsame, hbits, (hkept _ hbits).2 _ hsame⟩

/-- A key at the end lacks its value, whether it is known or not. -/
example : bitsOf (some [0x1093, 2, 0x1234]) = .error (.missingValue 0x1234) := by decide

end GpuCounters.Queue
