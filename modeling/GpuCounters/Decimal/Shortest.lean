import GpuCounters.Binary.Rounding

/-!
# Shortest decimals

Every number of a binary format is the nearest one to a whole interval of reals. Among the
decimals in that interval the shortest has the fewest digits; of several with that many digits it
is the nearest to the number, and a tie between two neighbours is settled by a rule of choice.
-/

namespace GpuCounters.Decimal

/-- Which of two equally near neighbours is taken. -/
inductive Tie
  /-- The greater one -/
  | up
  /-- The one whose last digit is even -/
  | even
  deriving DecidableEq, Repr

/-- The positive decimal `significand * 10 ^ exponent`. -/
structure Scientific where
  /-- The digits as one whole number -/
  significand : Nat
  /-- The place of the last digit -/
  exponent : Int
  deriving DecidableEq, Repr

def length (n : Nat) : Nat := (Nat.toDigits 10 n).length

/-- The place of the leading digit of the positive quotient `num / den`. -/
def leadingPlace (num den : Nat) : Int :=
  if den ≤ num then (length (num / den) : Int) - 1
  else -(length ((den + num - 1) / num - 1) : Int)

/-- The decimals with last digit at `place` that are neighbours of `significand * 2 ^ exponent`
and round to it: of two the nearer, of two equally near ones the tie's choice. -/
def neighbour? (f : Binary.Format) (tie : Tie) (significand : Nat) (exponent place : Int) :
    Option Nat :=
  let m := significand
  let unit := Nat.pow 2 (exponent - 2).toNat * Nat.pow 10 (-place).toNat
  let grid := Nat.pow 10 place.toNat * Nat.pow 2 (2 - exponent).toNat
  let narrow := m = Nat.pow 2 (f.precision - 1) ∧ exponent ≠ f.minExponent
  let low := (if narrow then 4 * m - 1 else 4 * m - 2) * unit
  let high := (4 * m + 2) * unit
  let value := 4 * m * unit
  let below := value / grid
  let above := below + 1
  let inside (point : Nat) : Bool :=
    if m % 2 = 0 then low ≤ point ∧ point ≤ high else low < point ∧ point < high
  match inside (below * grid), inside (above * grid) with
  | false, false => none
  | true, false => some below
  | false, true => some above
  | true, true =>
    let down := value - below * grid
    let up := above * grid - value
    if down < up then some below
    else if up < down then some above
    else match tie with
      | .up => some above
      | .even => some (if below % 2 = 0 then below else above)

/-- The digit counts that are tried; seventeen digits tell all numbers of double precision
apart. -/
def digitCounts : List Nat := List.range 17

/-- The shortest decimal that rounds to the positive number `significand * 2 ^ exponent`. -/
def shortest (f : Binary.Format) (tie : Tie) (significand : Nat) (exponent : Int) : Scientific :=
  let lead := leadingPlace (significand * Nat.pow 2 exponent.toNat) (Nat.pow 2 (-exponent).toNat)
  let hit := digitCounts.findSome? fun (further : Nat) ↦
    (neighbour? f tie significand exponent (lead - further)).map fun n ↦
      (⟨n, lead - further⟩ : Scientific)
  match hit with
  | some ⟨10, place⟩ => ⟨1, place + 1⟩
  | some decimal => decimal
  | none => ⟨0, 0⟩

end GpuCounters.Decimal
