import GpuCounters.Binary.Basic

/-!
# Rounding

An exact quotient is rounded to the nearest multiple of a unit, or to the nearest number of a
binary format; a quotient halfway between two neighbours goes to the even one.
-/

namespace GpuCounters

/-- The whole number nearest to `num / den`, the even one of two that are equally near. -/
def roundDiv (num den : Nat) : Nat :=
  let floor := num / den
  let rest := num % den
  if 2 * rest < den ∨ (2 * rest = den ∧ floor % 2 = 0) then floor else floor + 1

@[simp] theorem roundDiv_one (n : Nat) : roundDiv n 1 = n := by
  simp [roundDiv, Nat.mod_one]

namespace Binary

variable {f : Format}

/-- `num / den` as a quotient of multiples of `2 ^ exponent`. -/
def scale (num den : Nat) (exponent : Int) : Nat × Nat :=
  if 0 ≤ exponent then (num, den * Nat.pow 2 exponent.toNat)
  else (num * Nat.pow 2 (-exponent).toNat, den)

/-- The unit at which the positive quotient `num / den` fills the digits of the format, and no
unit below the smallest. -/
def unitExponent (f : Format) (num den : Nat) : Int :=
  let estimate : Int := (num.log2 : Int) - den.log2 - f.precision
  let (n, d) := scale num den estimate
  max f.minExponent (if n < d * Nat.pow 2 f.precision then estimate else estimate + 1)

/-- The number of the format nearest to `± num / den`. -/
def ofRatio (f : Format) (negative : Bool) (num den : Nat) : Binary f :=
  if num = 0 then zero negative
  else
    let exponent := unitExponent f num den
    let (n, d) := scale num den exponent
    let significand := roundDiv n d
    if significand = Nat.pow 2 f.precision then
      ofCanonical negative (Nat.pow 2 (f.precision - 1)) (exponent + 1)
    else ofCanonical negative significand exponent

/-- The number of the format nearest to `± significand * 2 ^ exponent`. -/
def ofDyadic (f : Format) (negative : Bool) (significand : Nat) (exponent : Int) : Binary f :=
  ofRatio f negative (significand * Nat.pow 2 exponent.toNat) (Nat.pow 2 (-exponent).toNat)

/-- The number of the format nearest to a natural number. -/
def ofNat (f : Format) (n : Nat) : Binary f := ofRatio f false n 1

/-- The nearest datum of another format. -/
def convert (g : Format) : Binary f → Binary g
  | .nan => .nan
  | .infinite negative => .infinite negative
  | .finite negative m e _ => ofDyadic g negative m e

end Binary

end GpuCounters
