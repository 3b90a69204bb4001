import GpuCounters.Proofs.Summary.Indexing
import Mathlib.Data.List.Induction

/-!
# Grouping by keys

An ordered map that is filled pair by pair groups the pairs by their keys. It lists the keys in the
order of their first coming, and the value of a key is the left fold of all that came with it, in
the order in which it came. So a value does not depend on how the pairs of different keys alternate.
-/

namespace GpuCounters.Summary

variable {α β : Type}

/-! ## Left folds from the first element -/

/-- The left fold of a list from what its first element gives. -/
def gather (first : β → α) (more : α → β → α) : List β → Option α
  | [] => none
  | x :: xs => some (xs.foldl more (first x))

theorem gather_append_singleton (first : β → α) (more : α → β → α) (xs : List β) (x : β) :
    gather first more (xs ++ [x]) = some ((gather first more xs).elim (first x) (more · x)) := by
  cases xs with
  | nil => rfl
  | cons y ys => simp [gather]

/-! ## Distinct elements by first coming -/

theorem eraseDups_append_singleton [DecidableEq α] (xs : List α) (x : α) :
    (xs ++ [x]).eraseDups = if x ∈ xs then xs.eraseDups else xs.eraseDups ++ [x] := by
  rw [List.eraseDups_append]
  by_cases hmem : x ∈ xs <;> simp [List.removeAll, hmem, List.eraseDups_cons]

theorem nodup_eraseDups [DecidableEq α] (xs : List α) : xs.eraseDups.Nodup := by
  induction xs using List.reverseRecOn with
  | nil => exact List.nodup_nil
  | append_singleton xs x ih =>
    rw [eraseDups_append_singleton]
    split
    · exact ih
    · rename_i hnew
      rw [← List.mem_eraseDups] at hnew
      exact List.nodup_append.2 ⟨ih, List.pairwise_singleton _ _, by grind⟩

namespace OrderedMap

variable {map : OrderedMap α} {key : String}

/-! ## Keys and values -/

def keys (map : OrderedMap α) : List String := map.toList.map Prod.fst

theorem mem_keys_iff : key ∈ map.keys ↔ ∃ position : Nat,
    map.entries[position]?.map Prod.fst = some key := by
  simp only [keys, toList, List.mem_iff_getElem?, List.getElem?_map, Array.getElem?_toList]

theorem WellIndexed.index_eq_none_iff (h : map.WellIndexed) :
    map.index[key]? = none ↔ key ∉ map.keys := by
  rw [mem_keys_iff, Option.eq_none_iff_forall_ne_some, not_exists]
  exact forall_congr' fun position ↦ not_congr (h key position)

/-- A value that is looked up stands at the position of its key. -/
theorem WellIndexed.get?_eq_some_iff_exists (h : map.WellIndexed) {value : α} :
    map.get? key = some value ↔ ∃ position : Nat, map.entries[position]? = some (key, value) := by
  unfold get?
  rw [Option.bind_eq_some_iff]
  apply exists_congr
  intro position
  rw [h key position, Option.map_eq_some_iff, Option.map_eq_some_iff]
  constructor
  · rintro ⟨⟨entry, hentry, rfl⟩, ⟨_, hother, rfl⟩⟩
    rw [hentry] at hother
    cases hother
    exact hentry
  · intro hentry
    exact ⟨⟨_, hentry, rfl⟩, ⟨_, hentry, rfl⟩⟩

/-- What is looked up under a key is what is listed with it. -/
theorem WellIndexed.get?_eq_some_iff (h : map.WellIndexed) {value : α} :
    map.get? key = some value ↔ (key, value) ∈ map.toList := by
  rw [h.get?_eq_some_iff_exists, toList, List.mem_iff_getElem?]
  simp only [Array.getElem?_toList]

/-! ## One more pair -/

theorem WellIndexed.get?_insert (h : map.WellIndexed) (key : String) (value : α)
    (other : String) :
    (map.insert key value).get? other = if other = key then some value else map.get? other := by
  unfold get? OrderedMap.insert
  dsimp only
  rw [Std.TreeMap.getElem?_insert]
  by_cases hkey : other = key
  · rw [if_pos hkey, if_pos (Std.compare_eq_iff_eq.2 hkey.symm), Option.bind_some,
      Array.getElem?_push_size]
    rfl
  · rw [if_neg hkey, if_neg (mt Std.compare_eq_iff_eq.1 (Ne.symm hkey))]
    apply Option.bind_congr
    intro position hposition
    -- An old position is not the one behind all entries.
    rw [Array.getElem?_push, if_neg (Nat.ne_of_lt (h.lt_size hposition))]

/-- A change under one key leaves the values of all others alone. -/
theorem WellIndexed.get?_upsert (h : map.WellIndexed) (key : String) (change : α → α) (new : α)
    (other : String) :
    (map.upsert key change new).get? other =
      if other = key then some ((map.get? key).elim new change) else map.get? other := by
  cases hindex : map.index[key]? with
  | none =>
    rw [upsert_of_none hindex, get?_of_index_none hindex]
    exact h.get?_insert key new other
  | some position =>
    obtain ⟨value, hentry, hvalue⟩ := h.exists_of_index hindex
    rw [upsert_of_some hindex]
    unfold get? at hvalue ⊢
    dsimp only
    by_cases hkey : other = key
    · subst hkey
      rw [if_pos rfl, hvalue, hindex, Option.bind_some, Array.getElem?_modify, if_pos rfl, hentry]
      rfl
    · rw [if_neg hkey]
      apply Option.bind_congr
      intro place hplace
      have hne : position ≠ place := by
        rintro rfl
        have hother := (h other position).1 hplace
        rw [hentry] at hother
        exact hkey (Option.some.inj hother).symm
      rw [Array.getElem?_modify, if_neg hne]

theorem WellIndexed.keys_upsert (h : map.WellIndexed) (key : String) (change : α → α) (new : α) :
    (map.upsert key change new).keys =
      if key ∈ map.keys then map.keys else map.keys ++ [key] := by
  cases hindex : map.index[key]? with
  | none =>
    rw [upsert_of_none hindex, if_neg (h.index_eq_none_iff.1 hindex)]
    simp [keys]
  | some position =>
    have hmem : key ∈ map.keys := mem_keys_iff.2 ⟨position, (h key position).1 hindex⟩
    rw [upsert_of_some hindex, if_pos hmem]
    apply List.ext_getElem?
    intro place
    simp only [keys, toList, List.getElem?_map, Array.getElem?_toList]
    exact map_fst_getElem?_modify change map.entries position place

/-- New keys come behind the old ones. -/
theorem WellIndexed.keys_prefix_upsert (h : map.WellIndexed) (key : String) (change : α → α)
    (new : α) : map.keys <+: (map.upsert key change new).keys := by
  rw [h.keys_upsert]
  split
  · exact List.prefix_rfl
  · exact List.prefix_append _ _

/-! ## Pair by pair -/

/-- The map with more pairs, one after another. -/
def pushAll (first : β → α) (more : α → β → α) (map : OrderedMap α) (pairs : List (String × β)) :
    OrderedMap α :=
  pairs.foldl (fun map (key, x) ↦ map.upsert key (more · x) (first x)) map

/-- What came with a key. -/
def under (pairs : List (String × β)) (key : String) : List β :=
  (pairs.filter (·.1 = key)).map Prod.snd

variable (first : β → α) (more : α → β → α)

theorem pushAll_append (map : OrderedMap α) (pairs others : List (String × β)) :
    map.pushAll first more (pairs ++ others) =
      (map.pushAll first more pairs).pushAll first more others :=
  List.foldl_append

theorem under_append_singleton (pairs : List (String × β)) (key other : String) (x : β) :
    under (pairs ++ [(key, x)]) other =
      if other = key then under pairs other ++ [x] else under pairs other := by
  unfold under
  by_cases hkey : key = other
  · simp [hkey]
  · simp [hkey, Ne.symm hkey]

theorem under_flatMap {γ : Type} (pairs : γ → List (String × β)) (xs : List γ) (key : String) :
    under (xs.flatMap pairs) key = xs.flatMap fun x ↦ under (pairs x) key := by
  unfold under
  rw [List.filter_flatMap, List.map_flatMap]

/-- The induction is on the pairs, with the map that they come to generalised. -/
theorem WellIndexed.pushAll (h : map.WellIndexed) (pairs : List (String × β)) :
    (map.pushAll first more pairs).WellIndexed ∧
      map.keys <+: (map.pushAll first more pairs).keys := by
  induction pairs generalizing map with
  | nil => exact ⟨h, List.prefix_rfl⟩
  | cons pair pairs ih =>
    obtain ⟨key, x⟩ := pair
    obtain ⟨hwell, hkeys⟩ := ih (h.upsert key (more · x) (first x))
    exact ⟨hwell, (h.keys_prefix_upsert key (more · x) (first x)).trans hkeys⟩

/-- A map that is filled pair by pair groups the pairs by their keys. The induction is on the pairs
from their end, where one more is one more `upsert`. -/
theorem pushAll_empty (pairs : List (String × β)) :
    (empty.pushAll first more pairs).WellIndexed ∧
      (empty.pushAll first more pairs).keys = (pairs.map Prod.fst).eraseDups ∧
      ∀ key, (empty.pushAll first more pairs).get? key =
        gather first more (under pairs key) := by
  induction pairs using List.reverseRecOn with
  | nil => exact ⟨wellIndexed_empty, rfl, get?_empty⟩
  | append_singleton pairs pair ih =>
    obtain ⟨key, x⟩ := pair
    obtain ⟨hwell, hkeys, hget⟩ := ih
    have hstep : empty.pushAll first more (pairs ++ [(key, x)]) =
        (empty.pushAll first more pairs).upsert key (more · x) (first x) :=
      pushAll_append first more empty pairs [(key, x)]
    rw [hstep]
    refine ⟨hwell.upsert _ _ _, ?_, ?_⟩
    · have hmem : key ∈ (pairs.map Prod.fst).eraseDups ↔ key ∈ pairs.map Prod.fst :=
        List.mem_eraseDups
      rw [hwell.keys_upsert, hkeys, List.map_append, List.map_singleton,
        eraseDups_append_singleton]
      simp only [hmem]
    · intro other
      rw [hwell.get?_upsert, under_append_singleton, hget, hget]
      by_cases hkey : other = key
      · subst hkey
        rw [if_pos rfl, if_pos rfl, gather_append_singleton]
      · rw [if_neg hkey, if_neg hkey]

/-- Whatever grows by one with each pair is their number in the end. -/
theorem sum_pushAll_empty {weight : α → Nat} (hfirst : ∀ x, weight (first x) = 1)
    (hmore : ∀ value x, weight (more value x) = weight value + 1) (pairs : List (String × β)) :
    ((empty.pushAll first more pairs).toList.map fun entry ↦ weight entry.2).sum =
      pairs.length := by
  induction pairs using List.reverseRecOn with
  | nil => rfl
  | append_singleton pairs pair ih =>
    obtain ⟨key, x⟩ := pair
    obtain ⟨hwell, -, -⟩ := pushAll_empty first more pairs
    rw [pushAll_append, List.length_append, List.length_singleton, ← ih]
    exact hwell.sum_upsert (fun value ↦ hmore value x) (hfirst x) key

end OrderedMap

end GpuCounters.Summary
