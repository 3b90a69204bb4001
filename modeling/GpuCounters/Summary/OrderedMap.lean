import Std.Data.TreeMap

/-!
# Ordered maps

A map from texts to values that lists its entries in the order in which their keys first came. A
search tree leads from each key to the position of its entry.
-/

namespace GpuCounters.Summary

/-- Entries in the order of their keys' first coming, and the position of each key. -/
structure OrderedMap (α : Type) where
  entries : Array (String × α)
  index : Std.TreeMap String Nat

namespace OrderedMap

variable {α : Type}

def empty : OrderedMap α := ⟨#[], ∅⟩

instance : Inhabited (OrderedMap α) := ⟨empty⟩

def toList (map : OrderedMap α) : List (String × α) := map.entries.toList

def size (map : OrderedMap α) : Nat := map.entries.size

/-- The value of a key, looked up by its position. -/
def get? (map : OrderedMap α) (key : String) : Option α :=
  map.index[key]?.bind fun position ↦ map.entries[position]?.map (·.2)

/-- The map with a new entry behind the others. -/
def insert (map : OrderedMap α) (key : String) (value : α) : OrderedMap α :=
  ⟨map.entries.push (key, value), map.index.insert key map.entries.size⟩

/-- The value at a position, and the map with another one in its place. -/
def at? (map : OrderedMap α) (position : Nat) : Option (α × (α → OrderedMap α)) :=
  map.entries[position]?.map fun entry ↦
    (entry.2, fun value ↦
      { map with entries := map.entries.modify position fun (name, _) ↦ (name, value) })

/-- The value of a key in its place, if the key is there. -/
def access? (map : OrderedMap α) (key : String) : Option (α × (α → OrderedMap α)) :=
  map.index[key]?.bind map.at?

/-- The value of a key in its place. A key that is not there is entered with a new value first. -/
def accessOr (map : OrderedMap α) (key : String) (new : α) : Option (α × (α → OrderedMap α)) :=
  match map.index[key]? with
  | some position => map.at? position
  | none => (map.insert key new).at? map.entries.size

@[simp] theorem toList_empty : (empty : OrderedMap α).toList = [] := rfl

@[simp] theorem toList_insert (map : OrderedMap α) (key : String) (value : α) :
    (map.insert key value).toList = map.toList ++ [(key, value)] := by
  simp [insert, toList]

@[simp] theorem get?_empty (key : String) : (empty : OrderedMap α).get? key = none := by
  simp [empty, get?]

@[simp] theorem size_eq_length (map : OrderedMap α) : map.toList.length = map.size := by
  simp [toList, size]

end OrderedMap

end GpuCounters.Summary
