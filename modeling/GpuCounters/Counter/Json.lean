import GpuCounters.Binary.Arithmetic
import GpuCounters.Counter.Mode
import GpuCounters.Counter.Report
import GpuCounters.Decimal.Layout
import GpuCounters.Decimal.Reading
import GpuCounters.Json.Reader
import GpuCounters.Json.Writer

/-!
# Reports in JSON

Records are objects, or arrays of their fields in order. In an object the keys of fields come in
any order and at most once each, and other keys are ignored. A value is an object of its kind and
its content.
-/

namespace GpuCounters.Json

/-! ## Numbers -/

/-- Double precision: a point always stands, unless the first digit's place is below the fifth
behind the point or above the fifteenth before it. -/
def double : Decimal.Layout := ⟨.even, some (-5, 15), ['.', '0']⟩

/-- Single precision: a point always stands, unless the first digit's place is below the sixth
behind the point or above the twelfth before it. -/
def single : Decimal.Layout := ⟨.even, some (-6, 12), ['.', '0']⟩

/-- A number; what is no number is null. -/
def ofBinary {f : Binary.Format} (layout : Decimal.Layout) (x : Binary f) : Document :=
  if x.isFinite then .number (layout.render x) else .null

/-- What the literal of a number is read as. -/
inductive Number
  /-- A whole number below `2 ^ 64` -/
  | natural (n : Nat)
  /-- A whole number below zero and not below `-2 ^ 63` -/
  | negative (n : Int)
  /-- Any other number -/
  | double (x : Binary64)
  deriving DecidableEq, Repr

/-- Digits read into a number below `2 ^ 64`, and the digits from the first one that takes it
beyond. -/
def accumulate : List Char → Nat → Nat × List Char
  | [], n => (n, [])
  | c :: rest, n =>
    let next := n * 10 + (c.toNat - '0'.toNat)
    if next < UInt64.size then accumulate rest next else (n, c :: rest)

/-- A power of ten, to the nearest. -/
def powerOfTen (n : Nat) : Binary64 := .ofNat _ (Nat.pow 10 n)

/-- `x / 10 ^ n`, rounded after each division by `10 ^ 308` and after the last one. -/
def divideByTens (x : Binary64) (n : Nat) : Binary64 :=
  if n ≤ 308 then x.div (powerOfTen n) else divideByTens (x.div (powerOfTen 308)) (n - 308)
termination_by n
decreasing_by omega

/-- The number `significand * 10 ^ exponent`, rounded once for the significand and once for each
multiplication or division; `none` beyond the format. -/
def scaled? (significand : Nat) (exponent : Int) : Option Binary64 :=
  let x : Binary64 := .ofNat _ significand
  if exponent < 0 then
    if 700 < exponent.natAbs then some (.zero false) else some (divideByTens x exponent.natAbs)
  else if 308 < exponent then if significand = 0 then some (.zero false) else none
  else
    let product := x.mul (powerOfTen exponent.toNat)
    if product.isFinite then some product else none

/-- What the literal of a number is worth; `none` if it is beyond the format. -/
def Number.ofLiteral? (literal : List Char) : Option Number := do
  let (minus, unsigned) := match literal with
    | '-' :: rest => (true, rest)
    | rest => (false, rest)
  let whole := unsigned.takeWhile Char.isDigit
  let behind := unsigned.dropWhile Char.isDigit
  let fraction := match behind with
    | '.' :: rest => rest.takeWhile Char.isDigit
    | _ => []
  let exponent := match behind.dropWhile fun c ↦ c = '.' || c.isDigit with
    | _ :: digits => (Decimal.readExponent? digits).getD 0
    | [] => 0
  let (head, dropped) := accumulate whole 0
  if behind = [] ∧ dropped = [] then
    if ¬ minus then return .natural head
    if head ≠ 0 ∧ head ≤ Nat.pow 2 63 then return .negative (-head)
    return .double (Binary.neg (.ofNat _ head))
  let (significand, unread) := accumulate fraction head
  let place : Int := dropped.length - (fraction.length - unread.length)
  let magnitude ← scaled? significand (place + exponent)
  return .double (if minus then magnitude.neg else magnitude)

/-! ## Reading parts of documents -/

/-- A whole number below the bound. -/
def natural? (bound : Nat) : Document → Option Nat
  | .number literal =>
    match Number.ofLiteral? literal with
    | some (.natural n) => if n < bound then some n else none
    | _ => none
  | _ => none

/-- A number of a format: whole numbers are rounded once, others from double precision. -/
def binary? (f : Binary.Format) : Document → Option (Binary f)
  | .number literal =>
    match Number.ofLiteral? literal with
    | some (.natural n) => some (.ofNat _ n)
    | some (.negative n) => some (Binary.neg (.ofNat _ n.natAbs))
    | some (.double x) => some (x.convert _)
    | none => none
  | _ => none

def string? : Document → Option String
  | .text value => value
  | _ => none

def bool? : Document → Option Bool
  | .bool value => some value
  | _ => none

/-- The variant of a choice without content: its name, or an object of its name and null. -/
def variant? : Document → Option String
  | .text value => value
  | .object [(key, .null)] => key
  | _ => none

/-- The fields of a record by position; `none` where a document is no record of such fields. A
field that is missing is `none` at its position. -/
def fields? (keys : List String) : Document → Option (List (Option Document))
  | .array elements =>
    if elements.length ≤ keys.length then
      some (elements.map some ++ List.replicate (keys.length - elements.length) none)
    else none
  | .object members =>
    if members.all (·.1.isSome) then
      keys.mapM fun key ↦
        match members.filter (·.1 = some key) with
        | [] => some none
        | [(_, value)] => some (some value)
        | _ => none
    else none
  | _ => none

def list? {α : Type} (read : Document → Option α) : Document → Option (List α)
  | .array elements => elements.mapM read
  | _ => none

/-- A value that may be null. -/
def nullable? {α : Type} (read : Document → Option α) : Document → Option (Option α)
  | .null => some none
  | document => (read document).map some

end GpuCounters.Json

namespace GpuCounters

open Json

/-! ## Values -/

namespace Value

def kindName : Value → String
  | .u32 _ => "u32"
  | .u64 _ => "u64"
  | .f32 _ => "f32"
  | .f64 _ => "f64"
  | .bool _ => "bool"
  | .text _ => "str"

def contentToJson : Value → Document
  | .u32 n => .ofNat n.toNat
  | .u64 n => .ofNat n.toNat
  | .f32 x => ofBinary single x
  | .f64 x => ofBinary double x
  | .bool b => .bool b
  | .text s => .ofString s

def toJson (v : Value) : Document :=
  .ofMembers [("type", .ofString v.kindName), ("value", v.contentToJson)]

/-- Content read as the kind of the given name. -/
def contentOfJson? (kind : String) (content : Document) : Option Value :=
  match kind with
  | "u32" => (natural? UInt32.size content).map fun n ↦ .u32 (.ofNat n)
  | "u64" => (natural? UInt64.size content).map fun n ↦ .u64 (.ofNat n)
  | "f32" => (binary? .single content).map .f32
  | "f64" => (binary? .double content).map .f64
  | "bool" => (bool? content).map .bool
  | "str" => (string? content).map .text
  | _ => none

def ofJson? (document : Document) : Option Value := do
  match ← fields? ["type", "value"] document with
  | [some kind, some content] => contentOfJson? (← variant? kind) content
  | _ => none

end Value

/-! ## Metrics, reports and descriptors -/

namespace Metric

def toJson (metric : Metric) : Document :=
  .ofMembers
    [("name", .ofString metric.name), ("value", metric.value.toJson),
      ("max", (metric.max?.map Value.toJson).getD .null)]

def ofJson? (document : Document) : Option Metric := do
  match ← fields? ["name", "value", "max"] document with
  | [some name, some value, max] =>
    return ⟨← string? name, ← Value.ofJson? value,
      ← (max.map (nullable? Value.ofJson?)).getD (some none)⟩
  | _ => none

end Metric

namespace Report

def toJson (report : Report) : Document :=
  .ofMembers
    [("values", .array (report.metrics.map Metric.toJson)),
      ("io_info", .array (report.information.map Value.toJson))]

def ofJson? (document : Document) : Option Report := do
  match ← fields? ["values", "io_info"] document with
  | [some metrics, information] =>
    return ⟨← list? Metric.ofJson? metrics,
      ← (information.map (list? Value.ofJson?)).getD (some [])⟩
  | _ => none

end Report

namespace Descriptor

def toJson (descriptor : Descriptor) : Document :=
  .ofMembers [("name", .ofString descriptor.name), ("unit", .ofString descriptor.unit)]

def ofJson? (document : Document) : Option Descriptor := do
  match ← fields? ["name", "unit"] document with
  | [some name, some unit] => return ⟨← string? name, ← string? unit⟩
  | _ => none

end Descriptor

namespace Mode

def toJson (mode : Mode) : Document := .ofString mode.name

def ofJson? (document : Document) : Option Mode := do
  match ← variant? document with
  | "event-based" => some .event
  | "time-based" => some .time
  | _ => none

end Mode

end GpuCounters
