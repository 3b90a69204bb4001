import GpuCounters.Decimal.Integer

/-!
# Queue properties

Queues with counters are created from a bit field. A property list of keys and values, ended by a
zero key or by its end, is expressed as one, or refused at the first pair that a bit field cannot
express.
-/

namespace GpuCounters.Queue

abbrev Bits := UInt64

def outOfOrder : Bits := 1

def profiling : Bits := 2

/-- The key whose value is a bit field. -/
def propertiesKey : UInt64 := 0x1093

def priorityKey : UInt64 := 0x1096

def throttleKey : UInt64 := 0x1097

/-- The bit fields that a queue with counters supports. -/
def supported : List Bits := [0, profiling, outOfOrder, profiling ||| outOfOrder]

/-- Why a property list is refused. -/
inductive Refusal
  /-- A bit field has a value that is not supported. -/
  | unsupportedValue (value : UInt64)
  /-- A key is not known. -/
  | unrecognizedKey (key : UInt64)
  /-- The list ends behind a key. -/
  | missingValue (key : UInt64)
  deriving DecidableEq, Repr

def Refusal.message : Refusal → String
  | .unsupportedValue value => "unsupported queue properties value " ++ Decimal.hex value.toNat
  | .unrecognizedKey key => "unrecognized queue property key " ++ Decimal.hex key.toNat
  | .missingValue key => "queue property key " ++ Decimal.hex key.toNat ++ " has no value"

/-- The bits that one pair of a list contributes. -/
def pairBits (key value : UInt64) : Except Refusal Bits :=
  if key = propertiesKey then
    if value ∈ supported then .ok value else .error (.unsupportedValue value)
  else if key = priorityKey ∨ key = throttleKey then .ok 0
  else .error (.unrecognizedKey key)

/-- The bit field of a property list, joined to the bits of the pairs before it. -/
def bitsFrom (bits : Bits) : List UInt64 → Except Refusal Bits
  | [] => .ok bits
  | [key] => if key = 0 then .ok bits else .error (.missingValue key)
  | key :: value :: rest =>
    if key = 0 then .ok bits
    else
      match pairBits key value with
      | .ok more => bitsFrom (bits ||| more) rest
      | .error refusal => .error refusal

/-- The bit field of a property list; no list is the empty bit field. -/
def bitsOf : Option (List UInt64) → Except Refusal Bits
  | none => .ok 0
  | some properties => bitsFrom 0 properties

def flagNames (bits : Bits) : List String :=
  (if bits &&& outOfOrder ≠ 0 then ["OUT_OF_ORDER_EXEC_MODE_ENABLE"] else []) ++
    if bits &&& profiling ≠ 0 then ["PROFILING_ENABLE"] else []

def describe (bits : Bits) : String :=
  match flagNames bits with
  | [] => "none"
  | names => " | ".intercalate names

@[simp] theorem bitsOf_none : bitsOf none = .ok 0 := rfl

@[simp] theorem bitsFrom_nil (bits : Bits) : bitsFrom bits [] = .ok bits := rfl

/-- Nothing behind a zero key is read. -/
@[simp] theorem bitsFrom_zero_cons (bits : Bits) (rest : List UInt64) :
    bitsFrom bits (0 :: rest) = .ok bits := by
  cases rest <;> simp [bitsFrom]

end GpuCounters.Queue
