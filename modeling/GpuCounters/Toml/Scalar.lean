import GpuCounters.Decimal.Integer
import GpuCounters.Decimal.Reading
import GpuCounters.Toml.Value

/-!
# TOML words

A word that is no text is a truth value, a number or a moment. Underscores may stand between the
digits of a number.
-/

namespace GpuCounters.Toml

/-- Whether a character may be part of such a word. -/
def isWordChar (c : Char) : Bool :=
  c.isAlphanum || c = '+' || c = '-' || c = '.' || c = '_' || c = ':'

/-- Digits without the underscores between them; `none` where one does not stand between
digits. -/
def joinDigits (isDigit : Char → Bool) : List Char → Option (List Char)
  | [] => none
  | [c] => if isDigit c then some [c] else none
  | c :: '_' :: rest => if isDigit c then (joinDigits isDigit rest).map (c :: ·) else none
  | c :: rest => if isDigit c then (joinDigits isDigit rest).map (c :: ·) else none

/-- Digits of a decimal number without a superfluous zero. -/
def wholeDigits? (text : List Char) : Option (List Char) :=
  (joinDigits Char.isDigit text).filter fun digits ↦ digits.length = 1 || digits.head? ≠ some '0'

def inRange (n : Int) : Option Value :=
  if -Nat.pow 2 63 ≤ n ∧ n < Nat.pow 2 63 then some (.integer n) else none

def radixInteger? (radix : Nat) (digits : List Char) : Option Value := do
  let digits ← joinDigits (fun c ↦ (Decimal.digit? radix c).isSome) digits
  inRange (digits.foldl (fun n c ↦ radix * n + ((Decimal.digit? radix c).getD 0)) 0 : Nat)

/-- Whether a minus sign stands in front, and the text behind it. -/
def takeMinus : List Char → Bool × List Char
  | '-' :: rest => (true, rest)
  | text => (false, text)

def dropPlus : List Char → List Char
  | '+' :: rest => rest
  | text => text

/-- A number with a fraction or an exponent, or both. -/
def float? (text : List Char) : Option Value := do
  let (negative, unsigned) := takeMinus text
  let isMark (c : Char) : Bool := c = 'e' || c = 'E'
  let mantissa := unsigned.takeWhile fun c ↦ !isMark c
  let exponent ← match unsigned.dropWhile fun c ↦ !isMark c with
    | [] => some []
    | _ :: rest =>
      let (minus, digits) := takeMinus (dropPlus rest)
      (joinDigits Char.isDigit digits).map fun digits ↦
        'e' :: (if minus then '-' :: digits else digits)
  let whole ← wholeDigits? (mantissa.takeWhile (· ≠ '.'))
  let fraction ← match mantissa.dropWhile (· ≠ '.') with
    | [] => some []
    | _ :: rest => (joinDigits Char.isDigit rest).map ('.' :: ·)
  if exponent = [] ∧ fraction = [] then none
  else
    let x ← Decimal.readDouble? (whole ++ fraction ++ exponent)
    if x.isFinite then some (.float (if negative then x.neg else x)) else none

def integer? (text : List Char) : Option Value :=
  match text with
  | '0' :: 'x' :: digits => radixInteger? 16 digits
  | '0' :: 'o' :: digits => radixInteger? 8 digits
  | '0' :: 'b' :: digits => radixInteger? 2 digits
  | _ =>
    let (negative, unsigned) := takeMinus text
    (wholeDigits? unsigned).bind fun digits ↦
      inRange (if negative then -(Decimal.ofDigits digits : Int) else Decimal.ofDigits digits)

/-- The value of a word that is a number, with or without a minus sign. -/
def number? (word : List Char) : Option Value :=
  let (negative, unsigned) := takeMinus word
  if unsigned = "inf".toList then some (.float (.infinite negative))
  else if unsigned = "nan".toList then some (.float .nan)
  else (integer? word).or (float? word)

/-- The value of a word. A number may have a plus sign in front of all else. -/
def scalar? (word : List Char) : Option Value :=
  if word = "true".toList then some (.bool true)
  else if word = "false".toList then some (.bool false)
  else
    match word with
    | '+' :: number => number? number
    | _ => ((Moment.read? word).map .moment).or (number? word)

end GpuCounters.Toml
