import GpuCounters.Binary.Rounding

/-!
# Arithmetic

Each operation is the exact one, rounded once. Infinities and `nan` follow the rules of the
binary interchange formats.
-/

namespace GpuCounters.Binary

variable {f : Format}

/-- `± significand * 2 ^ exponent` as a whole multiple of `2 ^ unit`, for a unit not above the
exponent. -/
def signedAt (unit : Int) (negative : Bool) (significand : Nat) (exponent : Int) : Int :=
  let n : Int := significand * Nat.pow 2 (exponent - unit).toNat
  if negative then -n else n

/-- The sum of two data. A sum of numbers that cancel is negative only if both are. -/
def add : Binary f → Binary f → Binary f
  | .nan, _ => .nan
  | _, .nan => .nan
  | .infinite s, .infinite t => if s = t then .infinite s else .nan
  | .infinite s, .finite _ _ _ _ => .infinite s
  | .finite _ _ _ _, .infinite t => .infinite t
  | .finite s m e _, .finite t n k _ =>
    let unit := min e k
    let sum := signedAt unit s m e + signedAt unit t n k
    if sum = 0 then zero (s && t) else ofDyadic f (sum < 0) sum.natAbs unit

def mul : Binary f → Binary f → Binary f
  | .nan, _ => .nan
  | _, .nan => .nan
  | .infinite s, .infinite t => .infinite (s != t)
  | .infinite s, .finite t n _ _ => if n = 0 then .nan else .infinite (s != t)
  | .finite s m _ _, .infinite t => if m = 0 then .nan else .infinite (s != t)
  | .finite s m e _, .finite t n k _ => ofDyadic f (s != t) (m * n) (e + k)

def div : Binary f → Binary f → Binary f
  | .nan, _ => .nan
  | _, .nan => .nan
  | .infinite _, .infinite _ => .nan
  | .infinite s, .finite t _ _ _ => .infinite (s != t)
  | .finite s _ _ _, .infinite t => zero (s != t)
  | .finite s m e _, .finite t n k _ =>
    if n = 0 then if m = 0 then .nan else .infinite (s != t)
    else
      ofRatio f (s != t) (m * Nat.pow 2 (e - k).toNat) (n * Nat.pow 2 (k - e).toNat)

/-- Whether the first datum is less than the second; `nan` is neither less nor greater. -/
def lt : Binary f → Binary f → Bool
  | .nan, _ => false
  | _, .nan => false
  | .infinite s, .infinite t => s && !t
  | .infinite s, .finite _ _ _ _ => s
  | .finite _ _ _ _, .infinite t => !t
  | .finite s m e _, .finite t n k _ =>
    signedAt (min e k) s m e < signedAt (min e k) t n k

/-- The lesser of two data, the other one where one is `nan`. -/
def min : Binary f → Binary f → Binary f
  | .nan, y => y
  | x, .nan => x
  | x, y => if y.lt x then y else x

/-- The greater of two data, the other one where one is `nan`. -/
def max : Binary f → Binary f → Binary f
  | .nan, y => y
  | x, .nan => x
  | x, y => if x.lt y then y else x

def toInt? : Binary f → Option Int
  | .finite negative m e _ =>
    let (n, d) := (m * Nat.pow 2 e.toNat, Nat.pow 2 (-e).toNat)
    if n % d = 0 then
      let quotient : Int := (n / d : Nat)
      some (if negative then -quotient else quotient)
    else none
  | _ => none

@[simp] theorem min_nan_left (y : Binary f) : min .nan y = y := by cases y <;> rfl

@[simp] theorem max_nan_left (y : Binary f) : max .nan y = y := by cases y <;> rfl

end GpuCounters.Binary
