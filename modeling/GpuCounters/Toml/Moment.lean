import GpuCounters.Decimal.Integer
import GpuCounters.Decimal.Reading

/-!
# Dates and times

A moment is a date, a time of day, or a date with a time; a moment with a date may say how far its
clocks are from universal time. Its text is the same however it was written.
-/

namespace GpuCounters.Toml

structure Date where
  year : Nat
  month : Nat
  day : Nat
  deriving DecidableEq, Repr

structure Time where
  hour : Nat
  minute : Nat
  second : Nat
  nanosecond : Nat
  deriving DecidableEq, Repr

/-- How far clocks are from universal time. -/
inductive Offset
  /-- They show universal time. -/
  | universal
  /-- They are ahead of it, or behind it if the hours are below zero. -/
  | ahead (hours : Int) (minutes : Nat)
  deriving DecidableEq, Repr

/-- A date, a time or both. -/
structure Moment where
  date? : Option Date
  time? : Option Time
  offset? : Option Offset
  deriving DecidableEq, Repr

namespace Moment

/-! ## Texts -/

def padded (width n : Nat) : String := String.ofList (Decimal.padZeros width (Nat.toDigits 10 n))

def dateText (date : Date) : String :=
  padded 4 date.year ++ "-" ++ padded 2 date.month ++ "-" ++ padded 2 date.day

/-- The text of a time, with no more places of a second than are needed. -/
def timeText (time : Time) : String :=
  let places := ((Decimal.padZeros 9 (Nat.toDigits 10 time.nanosecond)).reverse.dropWhile
    (· = '0')).reverse
  padded 2 time.hour ++ ":" ++ padded 2 time.minute ++ ":" ++ padded 2 time.second ++
    (if places = [] then "" else "." ++ String.ofList places)

def offsetText : Offset → String
  | .universal => "Z"
  | .ahead hours minutes =>
    (if hours < 0 then "-" else "+") ++ padded 2 hours.natAbs ++ ":" ++ padded 2 minutes

def toText (moment : Moment) : String :=
  (moment.date?.map dateText).getD "" ++
    (if moment.date?.isSome && moment.time?.isSome then "T" else "") ++
    (moment.time?.map timeText).getD "" ++ (moment.offset?.map offsetText).getD ""

/-! ## Reading -/

def takeField (width : Nat) (text : List Char) : Option (Nat × List Char) :=
  let digits := text.take width
  if digits.length = width ∧ digits.all Char.isDigit then
    some (Decimal.ofDigits digits, text.drop width)
  else none

def behind? (c : Char) : List Char → Option (List Char)
  | d :: rest => if d = c then some rest else none
  | [] => none

def takeDate (text : List Char) : Option (Date × List Char) := do
  let (year, rest) ← takeField 4 text
  let (month, rest) ← takeField 2 (← behind? '-' rest)
  let (day, rest) ← takeField 2 (← behind? '-' rest)
  if 1 ≤ month ∧ month ≤ 12 ∧ 1 ≤ day ∧ day ≤ 31 then some (⟨year, month, day⟩, rest) else none

/-- The nanoseconds of the places of a second; places beyond the ninth do not count. -/
def nanoseconds (places : List Char) : Nat :=
  Decimal.ofDigits (places.take 9) * Nat.pow 10 (9 - (places.take 9).length)

/-- A time of day. A day may end at twenty-four. -/
def takeTime (text : List Char) : Option (Time × List Char) := do
  let (hour, rest) ← takeField 2 text
  let (minute, rest) ← takeField 2 (← behind? ':' rest)
  let (second, rest) ← takeField 2 (← behind? ':' rest)
  let (places, rest) ← match rest with
    | '.' :: rest =>
      if rest.takeWhile Char.isDigit = [] then none
      else some (rest.takeWhile Char.isDigit, rest.dropWhile Char.isDigit)
    | rest => some ([], rest)
  if hour ≤ 24 ∧ minute ≤ 59 ∧ second ≤ 59 then
    some (⟨hour, minute, second, nanoseconds places⟩, rest)
  else none

/-- An offset that is the whole text. -/
def readOffset? : List Char → Option Offset
  | ['Z'] => some .universal
  | ['z'] => some .universal
  | sign :: rest => do
    let (hours, rest) ← takeField 2 rest
    let (minutes, rest) ← takeField 2 (← behind? ':' rest)
    if rest ≠ [] then none
    else if sign = '+' then some (.ahead hours minutes)
    else if sign = '-' then some (.ahead (-hours) minutes)
    else none
  | [] => none

/-- What stands behind a date, or a date and a time. -/
def withOffset (date : Date) (time? : Option Time) : List Char → Option Moment
  | [] => some ⟨some date, time?, none⟩
  | rest => (readOffset? rest).map fun offset ↦ ⟨some date, time?, some offset⟩

def read? (text : List Char) : Option Moment :=
  match takeTime text with
  | some (time, rest) => if rest = [] then some ⟨none, some time, none⟩ else none
  | none => do
    let (date, rest) ← takeDate text
    match rest with
    | c :: behind =>
      if c = 'T' ∨ c = 't' ∨ c = ' ' then
        let (time, rest) ← takeTime behind
        withOffset date (some time) rest
      else withOffset date none rest
    | [] => withOffset date none []

/-- Whether a text is a date and nothing else. -/
def isDate (text : List Char) : Bool := (takeDate text).any (·.2 = [])

example : (read? "1979-05-27t07:32:00.500-07:30".toList).map toText =
    some "1979-05-27T07:32:00.5-07:30" := by decide

end Moment

end GpuCounters.Toml
