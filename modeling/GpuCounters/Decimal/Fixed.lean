import GpuCounters.Binary.Arithmetic

/-!
# Fixed places

A number rounded to a fixed count of places behind the point, a number halfway between two such
decimals to the one whose last digit is even.
-/

namespace GpuCounters.Decimal

/-- The number of steps of size `10 ^ -places` nearest to `significand * 2 ^ exponent`. -/
def steps (places significand : Nat) (exponent : Int) : Nat :=
  roundDiv (significand * Nat.pow 2 exponent.toNat * Nat.pow 10 places)
    (Nat.pow 2 (-exponent).toNat)

/-- A count of steps with the point set before its last `places` digits. -/
def withPlaces (places count : Nat) : List Char :=
  let whole := Nat.toDigits 10 (count / Nat.pow 10 places)
  let fraction := Nat.toDigits 10 (count % Nat.pow 10 places)
  whole ++ '.' :: (List.replicate (places - fraction.length) '0' ++ fraction)

/-- The text of a datum with a fixed, positive count of places. -/
def fixed {f : Binary.Format} (places : Nat) : Binary f → List Char
  | .nan => "NaN".toList
  | .infinite negative => if negative then "-inf".toList else "inf".toList
  | .finite negative m e _ =>
    let magnitude := withPlaces places (steps places m e)
    if negative then '-' :: magnitude else magnitude

def dropTrailing (c : Char) (text : List Char) : List Char :=
  (text.reverse.dropWhile (· = c)).reverse

end GpuCounters.Decimal
