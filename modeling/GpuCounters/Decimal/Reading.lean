import GpuCounters.Binary.Arithmetic
import GpuCounters.Decimal.Shortest

/-!
# Reading decimals

A decimal is an optional sign, digits with at most one point among them, and an optional exponent;
the words for an infinity and for `nan` are read in any letter case. A decimal is read as the
number of the format nearest to it.
-/

namespace GpuCounters.Decimal

/-- What a decimal text says. -/
inductive Reading
  /-- The word for `nan` -/
  | nan
  /-- A word for an infinity -/
  | infinite (negative : Bool)
  /-- The decimal `± significand * 10 ^ exponent` -/
  | number (negative : Bool) (significand : Nat) (exponent : Int)
  deriving DecidableEq, Repr

/-- The number that a text of decimal digits is. -/
def ofDigits (digits : List Char) : Nat :=
  digits.foldl (fun n c ↦ 10 * n + (c.toNat - '0'.toNat)) 0

/-- A whole number with an optional sign and at least one digit. -/
def readExponent? (text : List Char) : Option Int :=
  let (negative, digits) := match text with
    | '-' :: rest => (true, rest)
    | '+' :: rest => (false, rest)
    | rest => (false, rest)
  if digits ≠ [] ∧ digits.all Char.isDigit then
    some (if negative then -(ofDigits digits : Int) else ofDigits digits)
  else none

/-- Digits with at most one point, and an optional exponent. -/
def readMagnitude? (negative : Bool) (text : List Char) : Option Reading :=
  let whole := text.takeWhile Char.isDigit
  let afterWhole := text.dropWhile Char.isDigit
  let (fraction, rest) := match afterWhole with
    | '.' :: behind => (behind.takeWhile Char.isDigit, behind.dropWhile Char.isDigit)
    | _ => ([], afterWhole)
  if whole = [] ∧ fraction = [] then none
  else
    let significand := ofDigits (whole ++ fraction)
    let place : Int := -(fraction.length : Int)
    match rest with
    | [] => some (.number negative significand place)
    | c :: behind =>
      if c = 'e' ∨ c = 'E' then
        (readExponent? behind).map fun exponent ↦ .number negative significand (place + exponent)
      else none

/-- Read a text that holds a decimal and nothing else. -/
def read? (text : List Char) : Option Reading :=
  let (negative, magnitude) := match text with
    | '-' :: rest => (true, rest)
    | '+' :: rest => (false, rest)
    | rest => (false, rest)
  let word := String.ofList (magnitude.map Char.toLower)
  if word = "inf" ∨ word = "infinity" then some (.infinite negative)
  else if word = "nan" then some .nan
  else readMagnitude? negative magnitude

/-- The number nearest to `± significand * 10 ^ exponent`. A decimal with its leading digit beyond
all places of the format need not be written out to be rounded. -/
def nearest (f : Binary.Format) (negative : Bool) (significand : Nat) (exponent : Int) :
    Binary f :=
  if significand = 0 then .zero negative
  else
    let lead := exponent + length significand
    if f.maxExponent + f.precision + 1 < lead then .infinite negative
    else if lead < f.minExponent then .zero negative
    else .ofRatio f negative (significand * Nat.pow 10 exponent.toNat)
      (Nat.pow 10 (-exponent).toNat)

/-- The datum of the format that a reading denotes. -/
def Reading.toBinary (f : Binary.Format) : Reading → Binary f
  | .nan => .nan
  | .infinite negative => .infinite negative
  | .number negative significand exponent => nearest f negative significand exponent

def readDouble? (text : List Char) : Option Binary64 :=
  (read? text).map (Reading.toBinary .double)

end GpuCounters.Decimal
