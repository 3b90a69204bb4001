import GpuCounters.Binary.Basic
import GpuCounters.Toml.Moment

/-!
# TOML values

Tables and arrays remember how they came to be, which says what later lines of a document may still
add to them.
-/

namespace GpuCounters.Toml

/-- How a table came to be. -/
inductive Origin
  /-- By a header, its own or that of a table below it: headers may add to it. -/
  | header
  /-- By a key with points in it: such keys may add to it. -/
  | key
  /-- Written in place: nothing adds to it. -/
  | place
  deriving DecidableEq, Repr

inductive Value
  | text (s : String)
  | integer (n : Int)
  | float (x : Binary64)
  | bool (b : Bool)
  | moment (m : Moment)
  /-- An array; one that headers grow is not written in place -/
  | array (growing : Bool) (elements : List Value)
  | table (origin : Origin) (entries : List (String × Value))
  deriving Repr

abbrev Entries := List (String × Value)

/-- Entries with the value of a key replaced, or a new entry behind the others. -/
def Entries.set : Entries → String → Value → Entries
  | [], key, value => [(key, value)]
  | (name, old) :: rest, key, value =>
    if name = key then (key, value) :: rest else (name, old) :: Entries.set rest key value

def Entries.get? (entries : Entries) (key : String) : Option Value := entries.lookup key

@[simp] theorem Entries.get?_nil (key : String) : Entries.get? [] key = none := rfl

end GpuCounters.Toml
