/-!
# Binary floating-point numbers

A number of a binary format is a sign, a significand and the exponent of the significand's unit.
Every number has one such form, so equality of numbers is equality of their bits; all the bit
patterns that are not numbers stand for the one value `nan`.
-/

namespace GpuCounters

/-- The finite numbers of a format are `± m * 2 ^ e` with `m` below `2 ^ precision` and `e` between
the two limits. -/
structure Binary.Format where
  /-- The digits of a significand -/
  precision : Nat
  /-- The unit of the smallest numbers -/
  minExponent : Int
  /-- The unit of the largest numbers -/
  maxExponent : Int
  deriving DecidableEq, Repr

namespace Binary.Format

def single : Format := ⟨24, -149, 104⟩

def double : Format := ⟨53, -1074, 971⟩

/-- A significand and a unit are canonical if the significand uses every digit of the format, or
the unit is the smallest. -/
def Canonical (f : Format) (significand : Nat) (exponent : Int) : Prop :=
  significand < Nat.pow 2 f.precision ∧ f.minExponent ≤ exponent ∧ exponent ≤ f.maxExponent ∧
    (Nat.pow 2 (f.precision - 1) ≤ significand ∨ exponent = f.minExponent)

instance (f : Format) (significand : Nat) (exponent : Int) :
    Decidable (f.Canonical significand exponent) :=
  inferInstanceAs (Decidable (_ ∧ _))

end Binary.Format

/-- A datum of a binary floating-point format. -/
inductive Binary (f : Binary.Format)
  /-- Not a number -/
  | nan
  /-- An infinity -/
  | infinite (negative : Bool)
  /-- The number `± significand * 2 ^ exponent` -/
  | finite (negative : Bool) (significand : Nat) (exponent : Int)
      (canonical : f.Canonical significand exponent)
  deriving DecidableEq, Repr

abbrev Binary32 := Binary .single

abbrev Binary64 := Binary .double

namespace Binary

variable {f : Format}

/-- The datum with the given significand and unit; where they are not canonical, the infinity that
an overflow leaves. -/
def ofCanonical (negative : Bool) (significand : Nat) (exponent : Int) : Binary f :=
  if canonical : f.Canonical significand exponent then
    .finite negative significand exponent canonical
  else .infinite negative

def zero (negative : Bool) : Binary f := ofCanonical negative 0 f.minExponent

def isFinite : Binary f → Bool
  | .finite _ _ _ _ => true
  | _ => false

def neg : Binary f → Binary f
  | .nan => .nan
  | .infinite negative => .infinite !negative
  | .finite negative m e h => .finite (!negative) m e h

@[simp] theorem neg_neg (x : Binary f) : x.neg.neg = x := by
  cases x <;> simp [neg]

/-! ## Bit patterns -/

/-- The stored exponents run from zero to the mark of the infinities. -/
def Format.exponentMark (f : Format) : Nat := (f.maxExponent - f.minExponent).toNat + 2

/-- The datum that a bit pattern stands for: a sign bit, a stored exponent, and the significand
without its leading digit. -/
def ofBits (f : Format) (bits : Nat) : Binary f :=
  let fractions := Nat.pow 2 (f.precision - 1)
  let fraction := bits % fractions
  let stored := bits / fractions % (f.exponentMark + 1)
  let negative := bits / fractions / (f.exponentMark + 1) % 2 == 1
  if stored = f.exponentMark then
    if fraction = 0 then .infinite negative else .nan
  else if stored = 0 then ofCanonical negative fraction f.minExponent
  else ofCanonical negative (fraction + fractions) (f.minExponent + (stored - 1 : Nat))

/-- The bit pattern of a datum, the quiet pattern without a payload for `nan`. -/
def toBits : Binary f → Nat
  | .nan => f.exponentMark * Nat.pow 2 (f.precision - 1) + Nat.pow 2 (f.precision - 2)
  | .infinite negative =>
    ((if negative then f.exponentMark + 1 else 0) + f.exponentMark) * Nat.pow 2 (f.precision - 1)
  | .finite negative m e _ =>
    let stored := if m < Nat.pow 2 (f.precision - 1) then 0 else (e - f.minExponent).toNat + 1
    ((if negative then f.exponentMark + 1 else 0) + stored) * Nat.pow 2 (f.precision - 1) +
      m % Nat.pow 2 (f.precision - 1)

end Binary

end GpuCounters
