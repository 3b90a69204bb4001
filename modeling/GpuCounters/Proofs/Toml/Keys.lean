import GpuCounters.Toml.Reader
import Mathlib.Data.List.Nodup

/-!
# Keys of a document

A document that is read gives no key two values: an entry is replaced or put behind the others, and
no statement does anything else to a table.
-/

namespace GpuCounters.Toml

def Entries.IsDistinct (entries : Entries) : Prop := (entries.map Prod.fst).Nodup

theorem Entries.isDistinct_nil : Entries.IsDistinct [] := List.nodup_nil

theorem Entries.map_fst_set (entries : Entries) (key : String) (value : Value) :
    (entries.set key value).map Prod.fst =
      if key ∈ entries.map Prod.fst then entries.map Prod.fst
      else entries.map Prod.fst ++ [key] := by
  induction entries with
  | nil => rfl
  | cons entry rest ih =>
    obtain ⟨name, old⟩ := entry
    rw [set]
    by_cases hname : name = key
    · simp [hname]
    · rw [if_neg hname, List.map_cons, ih]
      by_cases hrest : key ∈ rest.map Prod.fst
      · simp [hrest]
      · simp [hrest, Ne.symm hname]

theorem Entries.IsDistinct.set {entries : Entries} (h : entries.IsDistinct) (key : String)
    (value : Value) : (entries.set key value).IsDistinct := by
  rw [IsDistinct, map_fst_set]
  split
  · exact h
  · rename_i hkey
    exact List.nodup_append_comm.1 (List.nodup_cons.2 ⟨hkey, h⟩)

/-! ## Statements -/

/-- Whether a change that goes through sets one entry and does nothing else. -/
def SetsEntry (change : Entries → Option Entries) : Prop :=
  ∀ entries result, change entries = some result → ∃ key value, result = entries.set key value

/-- Whether a change that goes through keeps the keys distinct. -/
def KeepsDistinct (change : Entries → Option Entries) : Prop :=
  ∀ entries result, entries.IsDistinct → change entries = some result → result.IsDistinct

theorem SetsEntry.keepsDistinct {change : Entries → Option Entries} (h : SetsEntry change) :
    KeepsDistinct change := by
  intro entries result hdistinct hchange
  obtain ⟨key, value, rfl⟩ := h entries result hchange
  exact hdistinct.set key value

theorem setsEntry_assign (path : List String) (value : Value) :
    SetsEntry (assign · path value) := by
  intro entries result h
  dsimp only at h
  unfold assign at h
  split at h
  · cases h
  · split at h
    · cases h
    · exact ⟨_, _, (Option.some.inj h).symm⟩
  · split at h
    · obtain ⟨inner, -, rfl⟩ := Option.map_eq_some_iff.1 h
      exact ⟨_, _, rfl⟩
    · obtain ⟨inner, -, rfl⟩ := Option.map_eq_some_iff.1 h
      exact ⟨_, _, rfl⟩
    · cases h

/-- What happens inside a table that is an entry is no matter of the keys around it. -/
theorem setsEntry_modifyAt (change : Entries → Option Entries) (key : String)
    (path : List String) : SetsEntry (modifyAt change (key :: path)) := by
  intro entries result h
  unfold modifyAt at h
  split at h
  · obtain ⟨inner, -, rfl⟩ := Option.map_eq_some_iff.1 h
    exact ⟨_, _, rfl⟩
  · obtain ⟨inner, -, rfl⟩ := Option.map_eq_some_iff.1 h
    exact ⟨_, _, rfl⟩
  · split at h
    · obtain ⟨inner, -, rfl⟩ := Option.map_eq_some_iff.1 h
      exact ⟨_, _, rfl⟩
    · cases h
  · cases h

theorem keepsDistinct_modifyAt {change : Entries → Option Entries} (h : KeepsDistinct change)
    (path : List String) : KeepsDistinct (modifyAt change path) := by
  cases path with
  | nil => exact h
  | cons key path => exact (setsEntry_modifyAt change key path).keepsDistinct

theorem keepsDistinct_addElement (path : List String) : KeepsDistinct (addElement path) := by
  intro entries result hdistinct h
  unfold addElement at h
  split at h
  · cases h
  · refine keepsDistinct_modifyAt (SetsEntry.keepsDistinct ?_) _ entries result hdistinct h
    intro inner grown hgrown
    dsimp only at hgrown
    split at hgrown
    · exact ⟨_, _, (Option.some.inj hgrown).symm⟩
    · exact ⟨_, _, (Option.some.inj hgrown).symm⟩
    · cases hgrown

theorem Builder.isDistinct_follow {builder next : Builder} {statement : Statement}
    (h : builder.entries.IsDistinct) (hnext : builder.follow statement = some next) :
    next.entries.IsDistinct := by
  cases statement with
  | assign key value =>
    obtain ⟨entries, hentries, rfl⟩ := Option.map_eq_some_iff.1 hnext
    exact keepsDistinct_modifyAt (setsEntry_assign key value).keepsDistinct _ _ _ h hentries
  | table path =>
    rw [follow] at hnext
    split at hnext
    · cases hnext
    · obtain ⟨entries, hentries, rfl⟩ := Option.map_eq_some_iff.1 hnext
      refine keepsDistinct_modifyAt (fun entries result hdistinct hsame ↦ ?_) _ _ _ h hentries
      exact Option.some.inj hsame ▸ hdistinct
  | element path =>
    obtain ⟨entries, hentries, rfl⟩ := Option.map_eq_some_iff.1 hnext
    exact keepsDistinct_addElement path _ _ h hentries

theorem Builder.isDistinct_followAll {builder last : Builder} {statements : List Statement}
    (h : builder.entries.IsDistinct) (hlast : builder.followAll statements = some last) :
    last.entries.IsDistinct := by
  induction statements generalizing builder with
  | nil => exact Option.some.inj hlast ▸ h
  | cons statement rest ih =>
    obtain ⟨next, hnext, hrest⟩ := Option.bind_eq_some_iff.1 hlast
    exact ih (isDistinct_follow h hnext) hrest

/-- A document that is read gives no key two values. -/
theorem isDistinct_of_read? {text : String} {entries : Entries} (h : read? text = some entries) :
    entries.IsDistinct := by
  obtain ⟨statements, -, hread⟩ := Option.bind_eq_some_iff.1 h
  obtain ⟨builder, hbuilder, hentries⟩ := Option.bind_eq_some_iff.1 hread
  obtain rfl := Option.some.inj hentries
  exact Builder.isDistinct_followAll Entries.isDistinct_nil hbuilder

end GpuCounters.Toml
