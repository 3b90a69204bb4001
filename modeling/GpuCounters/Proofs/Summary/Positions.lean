import GpuCounters.Proofs.Summary.History
import Mathlib.Data.List.Nodup

/-!
# Positions of entries

The search tree of an ordered map says over again what its entries say. Whatever fills an aggregator
keeps the two in step: a value that is found or changed by its position is the one that a search
through the entries, from the first on, would come to. New entries go behind the others, so that an
entry stays where it is until the aggregator is emptied.
-/

namespace GpuCounters.Summary

variable {α : Type} {key : String}

/-! ## Entries without an index -/

/-- Entries of which the first one of a key has its value changed. If there is none, a new one comes
behind all others. -/
def searchUpsert (key : String) (change : α → α) (new : α) : List (String × α) → List (String × α)
  | [] => [(key, new)]
  | (name, value) :: rest =>
    if name = key then (name, change value) :: rest
    else (name, value) :: searchUpsert key change new rest

section Entries

variable {entries : List (String × α)}

theorem lookup_of_notMem (h : key ∉ entries.map Prod.fst) : entries.lookup key = none := by
  rw [List.lookup_eq_none_iff]
  intro entry hentry
  rw [bne_iff_ne]
  rintro rfl
  exact h (List.mem_map_of_mem hentry)

theorem searchUpsert_of_notMem (h : key ∉ entries.map Prod.fst) (change : α → α) (new : α) :
    searchUpsert key change new entries = entries ++ [(key, new)] := by
  induction entries with
  | nil => rfl
  | cons entry entries ih =>
    rw [List.map_cons, List.mem_cons, not_or] at h
    rw [searchUpsert, if_neg (Ne.symm h.1), ih h.2, List.cons_append]

/-- A search comes to any entry, as no earlier one has its key. The induction is on the entries
before it. -/
theorem search_of_getElem? {position : Nat} {value : α} (hnodup : (entries.map Prod.fst).Nodup)
    (hentry : entries[position]? = some (key, value)) (change : α → α) (new : α) :
    entries.lookup key = some value ∧
      searchUpsert key change new entries =
        entries.modify position fun entry ↦ (entry.1, change entry.2) := by
  induction entries generalizing position with
  | nil => cases hentry
  | cons entry entries ih =>
    obtain ⟨name, old⟩ := entry
    obtain ⟨hfirst, hrest⟩ := List.nodup_cons.1 hnodup
    cases position with
    | zero =>
      obtain ⟨rfl, rfl⟩ := Prod.mk.inj (Option.some.inj hentry)
      exact ⟨List.lookup_cons_self, if_pos rfl⟩
    | succ position =>
      rw [List.getElem?_cons_succ] at hentry
      obtain ⟨hlookup, hupsert⟩ := ih hrest hentry
      have hmem : key ∈ entries.map Prod.fst :=
        List.mem_map_of_mem (f := Prod.fst) (List.mem_of_getElem? hentry)
      have hname : name ≠ key := by
        rintro rfl
        exact hfirst hmem
      constructor
      · rw [List.lookup_cons, beq_false_of_ne (Ne.symm hname), hlookup]
      · rw [searchUpsert, if_neg hname, hupsert, List.modify_succ_cons]

end Entries

namespace OrderedMap

variable {map : OrderedMap α}

/-! ## Index and entries -/

theorem getElem?_keys (map : OrderedMap α) (position : Nat) :
    map.keys[position]? = map.entries[position]?.map Prod.fst := by
  rw [keys, toList, List.getElem?_map, Array.getElem?_toList]

/-- Each key leads to one position only. -/
theorem WellIndexed.nodup_keys (h : map.WellIndexed) : map.keys.Nodup := by
  rw [List.nodup_iff_getElem?_ne_getElem?]
  intro first second hlt hsecond heq
  have hlater : map.keys[second]? = some map.keys[second] := List.getElem?_eq_getElem hsecond
  have hearlier : map.keys[first]? = some map.keys[second] := heq.trans hlater
  rw [getElem?_keys, ← h] at hlater hearlier
  rw [hlater] at hearlier
  exact Nat.ne_of_gt hlt (Option.some.inj hearlier)

/-- A search through the entries comes to the one at the position of its key. -/
theorem WellIndexed.search_of_some (h : map.WellIndexed) {position : Nat}
    (hindex : map.index[key]? = some position) :
    map.toList.lookup key = map.get? key ∧
      ∀ change new, searchUpsert key change new map.toList =
        map.toList.modify position fun entry ↦ (entry.1, change entry.2) := by
  obtain ⟨value, hentry, hvalue⟩ := h.exists_of_index hindex
  have hlisted : map.toList[position]? = some (key, value) := by
    rw [toList, Array.getElem?_toList, hentry]
  have hsearch := search_of_getElem? h.nodup_keys hlisted
  rw [hvalue]
  exact ⟨(hsearch id value).1, fun change new ↦ (hsearch change new).2⟩

/-- A search for a key without a position comes to the end. -/
theorem WellIndexed.search_of_none (h : map.WellIndexed) (hindex : map.index[key]? = none) :
    map.toList.lookup key = none ∧
      ∀ change new, searchUpsert key change new map.toList = map.toList ++ [(key, new)] := by
  have hkey : key ∉ map.toList.map Prod.fst := h.index_eq_none_iff.1 hindex
  exact ⟨lookup_of_notMem hkey, searchUpsert_of_notMem hkey⟩

/-- What is changed by its position, a search would come to and change. -/
theorem WellIndexed.toList_upsert (h : map.WellIndexed) (key : String) (change : α → α) (new : α) :
    (map.upsert key change new).toList = searchUpsert key change new map.toList := by
  cases hindex : map.index[key]? with
  | none =>
    obtain ⟨-, hsearch⟩ := h.search_of_none hindex
    rw [upsert_of_none hindex, hsearch, toList_insert]
  | some position =>
    obtain ⟨-, hsearch⟩ := h.search_of_some hindex
    rw [upsert_of_some hindex, hsearch]
    exact Array.toList_modify

theorem WellIndexed.get?_eq_lookup (h : map.WellIndexed) (key : String) :
    map.get? key = map.toList.lookup key := by
  cases hindex : map.index[key]? with
  | none => rw [get?_of_index_none hindex, (h.search_of_none hindex).1]
  | some position => exact (h.search_of_some hindex).1.symm

/-! ### Index and entries in step -/

/-- Whether the index of a map is in step with its entries, and all that goes by the index does what
a search through the entries would. -/
structure InStep (map : OrderedMap α) : Prop where
  nodup : map.keys.Nodup
  mem_index_iff : ∀ key, key ∈ map.index ↔ key ∈ map.keys
  index_eq_some_iff : ∀ (key : String) (position : Nat),
    map.index[key]? = some position ↔ map.keys[position]? = some key
  lt_size : ∀ (key : String) (position : Nat), map.index[key]? = some position →
    position < map.size
  get? : ∀ key, map.get? key = map.toList.lookup key
  access? : ∀ key, (map.access? key).map Prod.fst = map.toList.lookup key
  put_access? : ∀ key value put, map.access? key = some (value, put) → ∀ new,
    (put new).WellIndexed ∧ (put new).toList = searchUpsert key (fun _ ↦ new) new map.toList
  accessOr : ∀ key new,
    (map.accessOr key new).map Prod.fst = some ((map.toList.lookup key).getD new)
  put_accessOr : ∀ key default value put, map.accessOr key default = some (value, put) → ∀ new,
    (put new).WellIndexed ∧ (put new).toList = searchUpsert key (fun _ ↦ new) new map.toList
  /-- A change is made where the value is accessed, or else with a new entry -/
  upsert : ∀ key change new,
    map.upsert key change new =
      match map.access? key with
      | some (value, put) => put (change value)
      | none => map.insert key new
  /-- It is also the change of what is entered first -/
  upsert_accessOr : ∀ key change new,
    (map.accessOr key new).map (fun (value, put) ↦ put (change value)) =
      some (map.upsert key change (change new))

theorem WellIndexed.inStep (h : map.WellIndexed) : map.InStep where
  nodup := h.nodup_keys
  mem_index_iff := by
    intro key
    rw [Std.TreeMap.mem_iff_isSome_getElem?, ← not_iff_not, ← h.index_eq_none_iff,
      Bool.not_eq_true, Option.isSome_eq_false_iff, Option.isNone_iff_eq_none]
  index_eq_some_iff := by
    intro key position
    rw [getElem?_keys]
    exact h key position
  lt_size := fun _ _ ↦ h.lt_size
  get? := h.get?_eq_lookup
  access? := by
    intro key
    rw [h.access?_eq, Option.map_map, ← h.get?_eq_lookup]
    exact Option.map_id_fun' ▸ rfl
  put_access? := by
    intro key value put haccess new
    rw [h.access?_eq, Option.map_eq_some_iff] at haccess
    obtain ⟨_, -, hput⟩ := haccess
    obtain ⟨-, rfl⟩ := Prod.mk.inj hput
    exact ⟨h.upsert _ _ _, h.toList_upsert _ _ _⟩
  accessOr := by
    intro key new
    rw [h.accessOr_eq, Option.map_some, h.get?_eq_lookup]
  put_accessOr := by
    intro key default value put haccess new
    rw [h.accessOr_eq, Option.some.injEq] at haccess
    obtain ⟨-, rfl⟩ := Prod.mk.inj haccess
    exact ⟨h.upsert _ _ _, h.toList_upsert _ _ _⟩
  upsert := h.upsert_eq_access?
  upsert_accessOr := h.map_accessOr

end OrderedMap

/-! ## Aggregators -/

theorem Operation.wellIndexed_fold {operation : Operation} (h : operation.metrics.WellIndexed)
    (report : Report) :
    (operation.fold report).metrics.WellIndexed ∧
      operation.metrics.keys <+: (operation.fold report).metrics.keys := by
  rw [metrics_fold h]
  exact h.pushAll _ _ _

namespace Aggregator

/-- Whether all the maps of an aggregator are well-indexed. -/
structure WellIndexed (aggregator : Aggregator) : Prop where
  operations : aggregator.operations.WellIndexed
  metrics : ∀ name operation, aggregator.operation? name = some operation →
    operation.metrics.WellIndexed

/-- Whether every entry of an aggregator is where it was before. -/
structure KeepsPositions (before after : Aggregator) : Prop where
  operations : before.operations.keys <+: after.operations.keys
  metrics : ∀ name operation, before.operation? name = some operation →
    ∃ later, after.operation? name = some later ∧ operation.metrics.keys <+: later.metrics.keys

variable {aggregator first second third : Aggregator}

theorem KeepsPositions.refl (aggregator : Aggregator) : aggregator.KeepsPositions aggregator :=
  ⟨List.prefix_rfl, fun _ operation h ↦ ⟨operation, h, List.prefix_rfl⟩⟩

theorem KeepsPositions.trans (h : first.KeepsPositions second)
    (hlast : second.KeepsPositions third) : first.KeepsPositions third := by
  refine ⟨h.operations.trans hlast.operations, ?_⟩
  intro name operation hfound
  obtain ⟨middle, hmiddle, hkeys⟩ := h.metrics name operation hfound
  obtain ⟨later, hlater, hrest⟩ := hlast.metrics name middle hmiddle
  exact ⟨later, hlater, hkeys.trans hrest⟩

/-! ### One call -/

theorem WellIndexed.empty : empty.WellIndexed :=
  ⟨wellIndexed_empty, by rintro name operation ⟨⟩⟩

theorem operation?_add (h : aggregator.WellIndexed) (name : String) (report : Report)
    (other : String) :
    (aggregator.add name report).operation? other =
      if other = name then some (((aggregator.operation? name).getD {}).fold report)
      else aggregator.operation? other := by
  have hget := h.operations.get?_upsert name (·.fold report) (({} : Operation).fold report) other
  rw [operation?, operations_add h.operations, hget, operation?, operation?]
  cases aggregator.operations.get? name <;> rfl

/-- One more report leaves every map well-indexed, and every entry where it is. -/
theorem WellIndexed.add (h : aggregator.WellIndexed) (name : String) (report : Report) :
    (aggregator.add name report).WellIndexed ∧
      aggregator.KeepsPositions (aggregator.add name report) := by
  have hfold : ∀ operation, aggregator.operation? name = some operation →
      (operation.fold report).metrics.WellIndexed ∧
        operation.metrics.keys <+: (operation.fold report).metrics.keys :=
    fun operation hfound ↦ Operation.wellIndexed_fold (h.metrics name operation hfound) report
  have hkeys : aggregator.operations.keys <+: (aggregator.add name report).operations.keys := by
    rw [operations_add h.operations]
    exact h.operations.keys_prefix_upsert _ _ _
  refine ⟨⟨wellIndexed_add h.operations name report, ?_⟩, ⟨hkeys, ?_⟩⟩
  · intro other operation hfound
    rw [operation?_add h] at hfound
    split at hfound
    · obtain rfl := Option.some.inj hfound
      cases hname : aggregator.operation? name with
      | none => exact (Operation.wellIndexed_fold OrderedMap.wellIndexed_empty report).1
      | some operation => exact (hfold operation hname).1
    · exact h.metrics other operation hfound
  · intro other operation hfound
    rw [operation?_add h]
    split
    · rename_i hname
      subst hname
      rw [hfound]
      exact ⟨operation.fold report, rfl, (hfold operation hfound).2⟩
    · exact ⟨operation, hfound, List.prefix_rfl⟩

theorem WellIndexed.serve (h : aggregator.WellIndexed) (call : Call) :
    (call.serve aggregator).WellIndexed ∧
      (call ≠ .clear → aggregator.KeepsPositions (call.serve aggregator)) := by
  cases call with
  | add name report => exact ⟨(h.add name report).1, fun _ ↦ (h.add name report).2⟩
  | clear => exact ⟨WellIndexed.empty, fun hclear ↦ absurd rfl hclear⟩

/-! ### Any calls -/

/-- The induction is on the calls, with the aggregator that they come to generalised. -/
theorem WellIndexed.serveEach (h : aggregator.WellIndexed) (calls : List Call) :
    (calls.foldl Call.serve aggregator).WellIndexed ∧
      ((∀ call ∈ calls, call ≠ .clear) →
        aggregator.KeepsPositions (calls.foldl Call.serve aggregator)) := by
  induction calls generalizing aggregator with
  | nil => exact ⟨h, fun _ ↦ .refl aggregator⟩
  | cons call calls ih =>
    obtain ⟨hone, hkeepsOne⟩ := h.serve call
    obtain ⟨hall, hkeepsAll⟩ := ih hone
    refine ⟨hall, fun hclear ↦ ?_⟩
    obtain ⟨hfirst, hrest⟩ := List.forall_mem_cons.1 hclear
    exact (hkeepsOne hfirst).trans (hkeepsAll hrest)

theorem wellIndexed_serveAll (calls : List Call) : (serveAll calls).WellIndexed :=
  (WellIndexed.empty.serveEach calls).1

/-- After any calls the index of the operations is in step with their entries, and so is that of
the metrics of each. More reports leave every entry in its place. -/
theorem inStep_serveAll (calls : List Call) :
    (serveAll calls).operations.InStep ∧
      (∀ name operation, (name, operation) ∈ (serveAll calls).operations.toList →
        operation.metrics.InStep) ∧
      ∀ more, (∀ call ∈ more, call ≠ .clear) →
        (serveAll calls).KeepsPositions (serveAll (calls ++ more)) := by
  have hwell := wellIndexed_serveAll calls
  refine ⟨hwell.operations.inStep, ?_, ?_⟩
  · intro name operation hmem
    exact (hwell.metrics name operation (hwell.operations.get?_eq_some_iff.2 hmem)).inStep
  · intro more hmore
    have happend : serveAll (calls ++ more) = more.foldl Call.serve (serveAll calls) :=
      List.foldl_append
    rw [happend]
    exact (hwell.serveEach more).2 hmore

/-- Behind reports that came in turn, one more of the first operation brings a metric that is new
to it, and one of a third operation comes behind both. -/
theorem inStep_serveAll_alternating :
    let more : List Call :=
      [.add "scale" { metrics := [⟨"GpuBusy", .u32 3, none⟩, ⟨"GpuTime", .u32 40, none⟩] },
        .add "fill" {}]
    (serveAll alternating).operations.index["copy"]? = some 1 ∧
      ((serveAll alternating).operations.toList.lookup "copy").map Operation.calls = some 1 ∧
      (∀ call ∈ more, call ≠ .clear) ∧
      (serveAll alternating).KeepsPositions (serveAll (alternating ++ more)) ∧
      (serveAll (alternating ++ more)).operations.keys = ["scale", "copy", "fill"] ∧
      ((serveAll (alternating ++ more)).operation? "scale").map (·.metrics.keys) =
        some ["GpuTime", "GpuBusy"] := by
  obtain ⟨hoperations, -, hkeeps⟩ := inStep_serveAll alternating
  intro more
  have hmore : ∀ call ∈ more, call ≠ .clear := by
    simp [more]
  refine ⟨(hoperations.index_eq_some_iff "copy" 1).2 (by decide +kernel), ?_, hmore,
    hkeeps more hmore, by decide +kernel, by decide +kernel⟩
  rw [← hoperations.get?]
  decide +kernel

end Aggregator

end GpuCounters.Summary
