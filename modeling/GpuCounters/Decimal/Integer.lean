/-!
# Whole numbers in text

Digits of a radix are read from the left. The first character that is no digit, or the first
digit that takes the number to the bound, decides how reading fails.
-/

namespace GpuCounters.Decimal

/-- Why a text is no whole number below the bound. -/
inductive IntegerFault
  /-- There is no character to read. -/
  | empty
  /-- A character is no digit of the radix. -/
  | invalidDigit
  /-- The digits exceed the bound. -/
  | tooLarge
  deriving DecidableEq, Repr

def IntegerFault.message : IntegerFault → String
  | .empty => "cannot parse integer from empty string"
  | .invalidDigit => "invalid digit found in string"
  | .tooLarge => "number too large to fit in target type"

/-- The value of a character as a digit of the radix; letters of either case follow nine. -/
def digit? (radix : Nat) (c : Char) : Option Nat :=
  let value :=
    if '0' ≤ c ∧ c ≤ '9' then some (c.toNat - '0'.toNat)
    else if 'a' ≤ c ∧ c ≤ 'z' then some (c.toNat - 'a'.toNat + 10)
    else if 'A' ≤ c ∧ c ≤ 'Z' then some (c.toNat - 'A'.toNat + 10)
    else none
  value.filter (· < radix)

/-- Read digits behind a number already read. -/
def readDigits (radix bound : Nat) : List Char → Nat → Except IntegerFault Nat
  | [], number => .ok number
  | c :: rest, number =>
    match digit? radix c with
    | none => .error .invalidDigit
    | some digit =>
      let next := number * radix + digit
      if next < bound then readDigits radix bound rest next else .error .tooLarge

/-- Read a whole number below the bound, with or without a plus sign. -/
def readUnsigned (radix bound : Nat) : List Char → Except IntegerFault Nat
  | [] => .error .empty
  | ['+'] => .error .invalidDigit
  | '+' :: digits => readDigits radix bound digits 0
  | digits => readDigits radix bound digits 0

/-- Read a whole number from `-bound` up to, and not including, `bound`, with or without a sign. -/
def readSigned? (bound : Nat) : List Char → Option Int
  | ['-'] => none
  | '-' :: digits => (readDigits 10 (bound + 1) digits 0).toOption.map fun n ↦ -(n : Int)
  | text => (readUnsigned 10 bound text).toOption.map fun n ↦ (n : Int)

/-- A number in lower-case digits of base sixteen behind the mark of that base. -/
def hex (n : Nat) : String := "0x" ++ String.ofList (Nat.toDigits 16 n)

def padZeros (width : Nat) (digits : List Char) : List Char :=
  List.replicate (width - digits.length) '0' ++ digits

@[simp] theorem readDigits_nil (radix bound number : Nat) :
    readDigits radix bound [] number = .ok number := rfl

@[simp] theorem readUnsigned_nil (radix bound : Nat) :
    readUnsigned radix bound [] = .error .empty := rfl

/-- What is read is below the bound. -/
theorem lt_of_readDigits {radix bound : Nat} {text : List Char} {number value : Nat}
    (below : number < bound) (h : readDigits radix bound text number = .ok value) :
    value < bound := by
  induction text generalizing number with
  | nil => simp_all
  | cons c rest ih =>
    simp only [readDigits] at h
    split at h
    · simp at h
    · split at h
      · exact ih ‹_› h
      · simp at h

end GpuCounters.Decimal
