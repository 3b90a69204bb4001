import GpuCounters.Summary.Aggregator
import Mathlib.Algebra.GroupWithZero.Nat

/-!
# Indices of ordered maps

The search tree of an ordered map leads from each key to the position of its entry and nowhere else.
So both ways to change the value of a key, by an access to it or by one that enters it first, change
one entry or add one. For an aggregator this means that each report is one more call of one
operation.
-/

namespace GpuCounters.Summary

namespace OrderedMap

variable {α : Type} {map : OrderedMap α} {key : String}

/-! ## Well-indexed maps -/

/-- Whether the search tree leads from each key to the position of its entry, and nowhere else. -/
def WellIndexed (map : OrderedMap α) : Prop :=
  ∀ (key : String) (position : Nat),
    map.index[key]? = some position ↔ map.entries[position]?.map Prod.fst = some key

theorem wellIndexed_empty : (empty : OrderedMap α).WellIndexed := by
  intro key position
  simp [empty]

theorem WellIndexed.lt_size (h : map.WellIndexed) {position : Nat}
    (hindex : map.index[key]? = some position) : position < map.entries.size := by
  have hentry := (h key position).1 hindex
  apply Nat.lt_of_not_le
  intro hsize
  rw [Array.getElem?_eq_none hsize] at hentry
  cases hentry

/-- A key that is there leads to its entry, whose value is looked up. -/
theorem WellIndexed.exists_of_index (h : map.WellIndexed) {position : Nat}
    (hindex : map.index[key]? = some position) :
    ∃ value, map.entries[position]? = some (key, value) ∧ map.get? key = some value := by
  obtain ⟨⟨name, value⟩, hentry, rfl⟩ := Option.map_eq_some_iff.1 ((h key position).1 hindex)
  refine ⟨value, hentry, ?_⟩
  rw [get?, hindex, Option.bind_some, hentry, Option.map_some]

theorem get?_of_index_none (hindex : map.index[key]? = none) : map.get? key = none := by
  rw [get?, hindex, Option.bind_none]

/-- A key that was not there before gets the position of the entry that is added for it. -/
theorem WellIndexed.insert (h : map.WellIndexed) (hnew : map.index[key]? = none) (value : α) :
    (map.insert key value).WellIndexed := by
  intro other position
  have hindex : (map.insert key value).index[other]? =
      if key = other then some map.entries.size else map.index[other]? := by
    simp [OrderedMap.insert, Std.TreeMap.getElem?_insert]
  have hentries : (map.insert key value).entries[position]? =
      if position = map.entries.size then some (key, value) else map.entries[position]? :=
    Array.getElem?_push
  rw [hindex, hentries]
  by_cases hkey : key = other
  · subst hkey
    by_cases hlast : position = map.entries.size
    · simp [hlast]
    · have hnone := h key position
      rw [hnew] at hnone
      simp only [if_true, if_neg hlast, ← hnone, Option.some.injEq, reduceCtorEq, iff_false]
      exact Ne.symm hlast
  · by_cases hlast : position = map.entries.size
    · have hnone := h other position
      rw [hlast, Array.getElem?_eq_none (Nat.le_refl _)] at hnone
      simp [hkey, hlast, hnone]
    · simp [hkey, hlast, h other position]

/-- A change of a value does not change which key its entry has. -/
theorem map_fst_getElem?_modify (change : α → α) (entries : Array (String × α))
    (found position : Nat) :
    (entries.modify found fun entry ↦ (entry.1, change entry.2))[position]?.map Prod.fst =
      entries[position]?.map Prod.fst := by
  rw [Array.getElem?_modify]
  split
  · rw [Option.map_map]
    rfl
  · rfl

/-! ## Changes -/

/-- The map with the value of a key changed, or with a new entry if there is none. -/
def upsert (map : OrderedMap α) (key : String) (change : α → α) (new : α) : OrderedMap α :=
  match map.index[key]? with
  | some position =>
    { map with entries := map.entries.modify position fun (name, value) ↦ (name, change value) }
  | none => map.insert key new

theorem upsert_of_some {position : Nat} (hindex : map.index[key]? = some position)
    (change : α → α) (new : α) :
    map.upsert key change new =
      { map with
        entries := map.entries.modify position fun (name, value) ↦ (name, change value) } := by
  rw [upsert, hindex]

theorem upsert_of_none (hindex : map.index[key]? = none) (change : α → α) (new : α) :
    map.upsert key change new = map.insert key new := by
  rw [upsert, hindex]

theorem WellIndexed.upsert (h : map.WellIndexed) (key : String) (change : α → α) (new : α) :
    (map.upsert key change new).WellIndexed := by
  cases hindex : map.index[key]? with
  | none =>
    rw [upsert_of_none hindex]
    exact h.insert hindex new
  | some found =>
    rw [upsert_of_some hindex]
    intro other position
    dsimp only
    rw [map_fst_getElem?_modify]
    exact h other position

/-- A value that is known is changed by putting another one in its place. -/
theorem WellIndexed.upsert_const (h : map.WellIndexed) {value : α}
    (hvalue : map.get? key = some value) (change : α → α) (new other : α) :
    map.upsert key (fun _ ↦ change value) other = map.upsert key change new := by
  cases hindex : map.index[key]? with
  | none =>
    rw [get?_of_index_none hindex] at hvalue
    cases hvalue
  | some position =>
    obtain ⟨found, hentry, hfound⟩ := h.exists_of_index hindex
    obtain rfl : found = value := Option.some.inj (hfound.symm.trans hvalue)
    rw [upsert_of_some hindex, upsert_of_some hindex]
    congr 1
    apply Array.ext_getElem?
    intro place
    rw [Array.getElem?_modify, Array.getElem?_modify]
    by_cases hplace : position = place
    · rw [if_pos hplace, if_pos hplace, ← hplace, hentry]
      rfl
    · rw [if_neg hplace, if_neg hplace]

/-! ### Values in their places -/

theorem at?_of_some {position : Nat} {value : α} (hindex : map.index[key]? = some position)
    (hentry : map.entries[position]? = some (key, value)) :
    map.at? position = some (value, fun new ↦ map.upsert key (fun _ ↦ new) new) := by
  simp only [at?, hentry, Option.map_some, upsert_of_some hindex]

/-- A key that is entered for an access ends up like one that is entered with its last value. -/
theorem at?_insert (map : OrderedMap α) (key : String) (value : α) :
    (map.insert key value).at? map.entries.size =
      some (value, fun new ↦ map.insert key new) := by
  have hentries : ∀ new, (map.entries.push (key, value)).modify map.entries.size
      (fun (name, _) ↦ (name, new)) = map.entries.push (key, new) := by
    intro new
    apply Array.ext_getElem?
    intro position
    rw [Array.getElem?_modify, Array.getElem?_push, Array.getElem?_push]
    by_cases hlast : position = map.entries.size
    · simp [hlast]
    · simp [hlast, Ne.symm hlast]
  simp only [at?, insert, Array.getElem?_push_size, Option.map_some, hentries]

/-- A key that is there leads to its value, and to the map with another one for it. -/
theorem WellIndexed.access?_eq (h : map.WellIndexed) (key : String) :
    map.access? key =
      (map.get? key).map fun value ↦ (value, fun new ↦ map.upsert key (fun _ ↦ new) new) := by
  rw [access?]
  cases hindex : map.index[key]? with
  | none => rw [get?_of_index_none hindex, Option.bind_none, Option.map_none]
  | some position =>
    obtain ⟨value, hentry, hvalue⟩ := h.exists_of_index hindex
    rw [hvalue, Option.bind_some, at?_of_some hindex hentry, Option.map_some]

theorem WellIndexed.accessOr_eq (h : map.WellIndexed) (key : String) (default : α) :
    map.accessOr key default =
      some ((map.get? key).getD default, fun new ↦ map.upsert key (fun _ ↦ new) new) := by
  rw [accessOr]
  cases hindex : map.index[key]? with
  | none =>
    rw [get?_of_index_none hindex, Option.getD_none]
    simp only [at?_insert, upsert_of_none hindex]
  | some position =>
    obtain ⟨value, hentry, hvalue⟩ := h.exists_of_index hindex
    rw [hvalue, Option.getD_some]
    exact at?_of_some hindex hentry

/-- A change is an access to a key that is there, and a new entry for one that is not. -/
theorem WellIndexed.upsert_eq_access? (h : map.WellIndexed) (key : String) (change : α → α)
    (new : α) :
    map.upsert key change new =
      match map.access? key with
      | some (value, put) => put (change value)
      | none => map.insert key new := by
  rw [h.access?_eq]
  cases hindex : map.index[key]? with
  | none =>
    rw [get?_of_index_none hindex]
    exact upsert_of_none hindex change new
  | some position =>
    obtain ⟨value, -, hvalue⟩ := h.exists_of_index hindex
    rw [hvalue]
    exact (h.upsert_const hvalue change new (change value)).symm

/-- A change of a key that is entered first if it is not there is a change from what is entered. -/
theorem WellIndexed.upsert_const_getD (h : map.WellIndexed) (key : String) (change : α → α)
    (new : α) :
    map.upsert key (fun _ ↦ change ((map.get? key).getD new)) (change ((map.get? key).getD new)) =
      map.upsert key change (change new) := by
  cases hindex : map.index[key]? with
  | none =>
    rw [get?_of_index_none hindex, Option.getD_none, upsert_of_none hindex, upsert_of_none hindex]
  | some position =>
    obtain ⟨value, -, hvalue⟩ := h.exists_of_index hindex
    rw [hvalue, Option.getD_some]
    exact h.upsert_const hvalue change (change new) (change value)

theorem WellIndexed.map_accessOr (h : map.WellIndexed) (key : String) (change : α → α) (new : α) :
    (map.accessOr key new).map (fun (value, put) ↦ put (change value)) =
      some (map.upsert key change (change new)) := by
  rw [h.accessOr_eq, Option.map_some]
  exact congrArg some (h.upsert_const_getD key change new)

/-! ## Sums over the entries -/

theorem sum_map_modify {β : Type} (weight : β → Nat) {change : β → β} {more : Nat}
    (hchange : ∀ x, weight (change x) = weight x + more) {entries : List β} {position : Nat}
    (h : position < entries.length) :
    ((entries.modify position change).map weight).sum = (entries.map weight).sum + more := by
  induction entries generalizing position with
  | nil => simp at h
  | cons entry entries ih =>
    cases position with
    | zero =>
      rw [List.modify_zero_cons, List.map_cons, List.map_cons, List.sum_cons, List.sum_cons,
        hchange]
      omega
    | succ position =>
      rw [List.modify_succ_cons, List.map_cons, List.map_cons, List.sum_cons, List.sum_cons,
        ih (Nat.lt_of_succ_lt_succ h)]
      omega

/-- Whatever is summed up over the entries grows by what one change adds. -/
theorem WellIndexed.sum_upsert (h : map.WellIndexed) {weight : α → Nat} {change : α → α} {new : α}
    {more : Nat} (hchange : ∀ value, weight (change value) = weight value + more)
    (hnew : weight new = more) (key : String) :
    ((map.upsert key change new).toList.map fun entry ↦ weight entry.2).sum =
      (map.toList.map fun entry ↦ weight entry.2).sum + more := by
  cases hindex : map.index[key]? with
  | none =>
    rw [upsert_of_none hindex, toList_insert, List.map_append, List.sum_append,
      List.map_singleton, List.sum_singleton, hnew]
  | some position =>
    have hposition : position < map.toList.length := by
      rw [size_eq_length]
      exact h.lt_size hindex
    rw [upsert_of_some hindex]
    dsimp only [toList] at hposition ⊢
    rw [Array.toList_modify]
    exact sum_map_modify (fun entry : String × α ↦ weight entry.2)
      (fun entry ↦ hchange entry.2) hposition

end OrderedMap

/-! ## Calls -/

namespace Operation

@[simp] theorem calls_observeAll (operation : Operation) (metrics : List Metric) :
    (operation.observeAll metrics).1.calls = operation.calls := by
  induction metrics generalizing operation with
  | nil => rfl
  | cons metric metrics ih =>
    rw [observeAll]
    split
    · exact ih _
    · exact ih operation

@[simp] theorem calls_fold (operation : Operation) (report : Report) :
    (operation.fold report).calls = operation.calls + 1 := by
  rw [fold, aggregate, calls_observeAll]

end Operation

namespace Aggregator

def calls (aggregator : Aggregator) : Nat :=
  (aggregator.operations.toList.map fun entry ↦ entry.2.calls).sum

theorem calls_empty : empty.calls = 0 := rfl

theorem wellIndexed_empty : empty.operations.WellIndexed := OrderedMap.wellIndexed_empty

variable {aggregator : Aggregator}

/-- One more report changes what was seen under its operation, if anything. -/
theorem operations_add (h : aggregator.operations.WellIndexed) (operation : String)
    (report : Report) :
    (aggregator.add operation report).operations =
      aggregator.operations.upsert operation (·.fold report) (({} : Operation).fold report) := by
  rw [add, aggregate, h.accessOr_eq]
  exact h.upsert_const_getD operation (·.fold report) {}

theorem wellIndexed_add (h : aggregator.operations.WellIndexed) (operation : String)
    (report : Report) : (aggregator.add operation report).operations.WellIndexed := by
  rw [operations_add h]
  exact h.upsert operation _ _

/-- One more report is one more call. -/
theorem calls_add (h : aggregator.operations.WellIndexed) (operation : String)
    (report : Report) : (aggregator.add operation report).calls = aggregator.calls + 1 := by
  have hnew : (({} : Operation).fold report).calls = 1 := by rw [Operation.calls_fold]
  rw [calls, operations_add h]
  exact h.sum_upsert (fun value ↦ Operation.calls_fold value report) hnew operation

def addAll (aggregator : Aggregator) (rows : List (String × Report)) : Aggregator :=
  rows.foldl (fun aggregator (label, report) ↦ aggregator.add label report) aggregator

theorem addAll_append (aggregator : Aggregator) (rows more : List (String × Report)) :
    aggregator.addAll (rows ++ more) = (aggregator.addAll rows).addAll more := List.foldl_append

/-- The induction is on the rows: each is one more call, and leaves the operations well-indexed. -/
theorem calls_addAll (h : aggregator.operations.WellIndexed) (rows : List (String × Report)) :
    (aggregator.addAll rows).calls = aggregator.calls + rows.length := by
  induction rows generalizing aggregator with
  | nil => rfl
  | cons row rows ih =>
    obtain ⟨label, report⟩ := row
    calc ((aggregator.add label report).addAll rows).calls
      _ = (aggregator.add label report).calls + rows.length := ih (wellIndexed_add h label report)
      _ = aggregator.calls + 1 + rows.length := by rw [calls_add h]
      _ = aggregator.calls + ((label, report) :: rows).length := by rw [List.length_cons]; omega

end Aggregator

end GpuCounters.Summary
