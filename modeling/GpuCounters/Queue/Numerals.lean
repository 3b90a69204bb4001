import GpuCounters.Decimal.Integer
import GpuCounters.Text.Blank
import GpuCounters.Text.Split

/-!
# Numerals of a property list

Keys and values are written in decimal, or in base sixteen behind its mark, with commas or white
space between them.
-/

namespace GpuCounters.Queue

/-- A numeral that is no number below `2 ^ 64`. -/
structure BadNumeral where
  /-- Whether the numeral has the mark of base sixteen -/
  inHex : Bool
  /-- The numeral without white space at its ends -/
  numeral : String
  /-- What is wrong with its digits -/
  fault : Decimal.IntegerFault
  deriving DecidableEq, Repr

/-- The wording of a bad numeral, its cause behind it. -/
def BadNumeral.message (bad : BadNumeral) : String :=
  (if bad.inHex then "Invalid hex value: " else "Invalid integer value: ") ++ bad.numeral ++ ": " ++
    bad.fault.message

/-- The digits behind the mark of base sixteen, if a numeral has it. -/
def hexDigits? : List Char → Option (List Char)
  | '0' :: 'x' :: digits => some digits
  | '0' :: 'X' :: digits => some digits
  | _ => none

/-- Read a numeral, with white space at its ends or without. -/
def readNumeral (text : List Char) : Except BadNumeral UInt64 :=
  let numeral := Text.trim text
  let bad (inHex : Bool) (fault : Decimal.IntegerFault) : BadNumeral :=
    ⟨inHex, String.ofList numeral, fault⟩
  match hexDigits? numeral with
  | some digits =>
    match Decimal.readUnsigned 16 UInt64.size digits with
    | .ok n => .ok (.ofNat n)
    | .error fault => .error (bad true fault)
  | none =>
    match Decimal.readUnsigned 10 UInt64.size numeral with
    | .ok n => .ok (.ofNat n)
    | .error fault => .error (bad false fault)

def isSeparator (c : Char) : Bool := c = ',' || Text.isBlank c

/-- Read numerals up to the first bad one. -/
def readNumerals : List (List Char) → Except BadNumeral (List UInt64)
  | [] => .ok []
  | numeral :: rest =>
    match readNumeral numeral with
    | .error bad => .error bad
    | .ok n =>
      match readNumerals rest with
      | .error bad => .error bad
      | .ok ns => .ok (n :: ns)

def readNumeralList (text : String) : Except BadNumeral (List UInt64) :=
  readNumerals ((Text.split isSeparator text.toList).filter (· ≠ []))

end GpuCounters.Queue
