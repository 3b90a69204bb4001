import GpuCounters.Decimal.Shortest

/-!
# Layouts of shortest decimals

The shortest decimal of a number says which digits are written. A layout says where the point
stands, when an exponent is written instead, and what a whole number ends in.
-/

namespace GpuCounters.Decimal

/-- How the digits of a number are laid out. -/
structure Layout where
  /-- The choice between two equally near decimals -/
  tie : Tie
  /-- The leading places from which to which digits are written around a point; `none` is all of
  them -/
  positional : Option (Int × Int)
  /-- What follows the digits of a whole number -/
  wholeMark : List Char

namespace Layout

/-- Digits around a point: `exponent` is the place of the last digit. -/
def aroundPoint (layout : Layout) (digits : List Char) (exponent : Int) : List Char :=
  if 0 ≤ exponent then digits ++ List.replicate exponent.toNat '0' ++ layout.wholeMark
  else
    let fractional := (-exponent).toNat
    if fractional < digits.length then
      digits.take (digits.length - fractional) ++ '.' :: digits.drop (digits.length - fractional)
    else '0' :: '.' :: (List.replicate (fractional - digits.length) '0' ++ digits)

/-- Digits behind the first one, and the place of the first one behind a signed exponent mark. -/
def withExponent (digits : List Char) (lead : Int) : List Char :=
  let mantissa := match digits with
    | [] => []
    | [digit] => [digit]
    | digit :: rest => digit :: '.' :: rest
  let sign := if lead < 0 then '-' else '+'
  mantissa ++ 'e' :: sign :: Nat.toDigits 10 lead.natAbs

def positive (layout : Layout) (decimal : Scientific) : List Char :=
  let digits := Nat.toDigits 10 decimal.significand
  let lead := decimal.exponent + digits.length - 1
  let around := match layout.positional with
    | none => true
    | some (lowest, highest) => lowest ≤ lead && lead ≤ highest
  if around then layout.aroundPoint digits decimal.exponent else withExponent digits lead

def render {f : Binary.Format} (layout : Layout) : Binary f → List Char
  | .nan => "NaN".toList
  | .infinite negative => if negative then "-inf".toList else "inf".toList
  | .finite negative m e _ =>
    let magnitude :=
      if m = 0 then '0' :: layout.wholeMark else layout.positive (shortest f layout.tie m e)
    if negative then '-' :: magnitude else magnitude

end Layout

/-- Plain digits: a point wherever it falls, never an exponent, and nothing behind a whole
number. -/
def plain : Layout := ⟨.up, none, []⟩

end GpuCounters.Decimal
