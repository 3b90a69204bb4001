import Mathlib.Data.List.Basic

/-!
# Handles of a library

A library hands out a handle for each driver that it opens. Numbers may come again, so a handle is
what lies between an opening and the close behind it. This module writes down what calls do with
handles, and says when every handle is closed once and left alone from then on.
-/

namespace GpuCounters.Driver

/-! ## Uses of handles -/

/-- What a call does with a handle. -/
inductive HandleUse
  | opened (handle : Nat)
  | used (handle : Nat)
  | closed (handle : Nat)
  deriving DecidableEq, Repr

namespace HandleUse

def isOpened : HandleUse → Bool
  | .opened _ => true
  | _ => false

def isClosed : HandleUse → Bool
  | .closed _ => true
  | _ => false

/-- Whether the handle that is held is used, and neither opened nor closed. -/
def IsCall (held? : Option Nat) (use : HandleUse) : Prop :=
  ∃ handle, held? = some handle ∧ use = .used handle

end HandleUse

/-- Whether a handle was opened more often than it was closed. -/
def IsOpen (uses : List HandleUse) (handle : Nat) : Prop :=
  uses.count (.closed handle) < uses.count (.opened handle)

instance (uses : List HandleUse) (handle : Nat) : Decidable (IsOpen uses handle) :=
  inferInstanceAs (Decidable (_ < _))

/-- Whether uses lead from one handle held to another. At most one handle is held at a time, and
only that handle is used and closed. -/
inductive Follows : Option Nat → List HandleUse → Option Nat → Prop
  | done (held? : Option Nat) : Follows held? [] held?
  | opened {handle : Nat} {uses : List HandleUse} {last? : Option Nat}
      (rest : Follows (some handle) uses last?) : Follows none (.opened handle :: uses) last?
  | used {handle : Nat} {uses : List HandleUse} {last? : Option Nat}
      (rest : Follows (some handle) uses last?) :
      Follows (some handle) (.used handle :: uses) last?
  | closed {handle : Nat} {uses : List HandleUse} {last? : Option Nat}
      (rest : Follows none uses last?) : Follows (some handle) (.closed handle :: uses) last?

namespace Follows

variable {first? held? last? : Option Nat} {uses more : List HandleUse} {handle : Nat}

theorem trans (h : Follows first? uses held?) (hmore : Follows held? more last?) :
    Follows first? (uses ++ more) last? := by
  induction h with
  | done => exact hmore
  | opened _ ih => exact .opened (ih hmore)
  | used _ ih => exact .used (ih hmore)
  | closed _ ih => exact .closed (ih hmore)

theorem exists_between (h : Follows first? (uses ++ more) last?) :
    ∃ held?, Follows first? uses held? ∧ Follows held? more last? := by
  induction uses generalizing first? with
  | nil => exact ⟨first?, .done first?, h⟩
  | cons use uses ih =>
    cases h with
    | opened rest =>
      obtain ⟨held?, huses, hmore⟩ := ih rest
      exact ⟨held?, .opened huses, hmore⟩
    | used rest =>
      obtain ⟨held?, huses, hmore⟩ := ih rest
      exact ⟨held?, .used huses, hmore⟩
    | closed rest =>
      obtain ⟨held?, huses, hmore⟩ := ih rest
      exact ⟨held?, .closed huses, hmore⟩

theorem of_calls (h : ∀ use ∈ uses, use.IsCall held?) : Follows held? uses held? := by
  induction uses with
  | nil => exact .done held?
  | cons use uses ih =>
    obtain ⟨huse, hrest⟩ := List.forall_mem_cons.1 h
    obtain ⟨handle, rfl, rfl⟩ := huse
    exact .used (ih hrest)

/-- Of each handle, one opening is ahead of the closes exactly while it is held. -/
theorem count_eq (h : Follows first? uses last?) (handle : Nat) :
    uses.count (.opened handle) + (if first? = some handle then 1 else 0) =
      uses.count (.closed handle) + (if last? = some handle then 1 else 0) := by
  induction h with
  | done => rfl
  | opened _ ih => grind
  | used _ ih => grind
  | closed _ ih => grind

theorem countP_eq (h : Follows first? uses last?) :
    uses.countP HandleUse.isOpened + first?.toList.length =
      uses.countP HandleUse.isClosed + last?.toList.length := by
  induction h with
  | done => rfl
  | opened _ ih =>
    rw [List.countP_cons_of_pos rfl, List.countP_cons_of_neg (by simp [HandleUse.isClosed])]
    exact ih
  | used _ ih =>
    rw [List.countP_cons_of_neg (by simp [HandleUse.isOpened]),
      List.countP_cons_of_neg (by simp [HandleUse.isClosed])]
    exact ih
  | closed _ ih =>
    rw [List.countP_cons_of_neg (by simp [HandleUse.isOpened]), List.countP_cons_of_pos rfl]
    exact (congrArg (· + 1) ih).trans (Nat.add_right_comm _ _ _)

/-- What is opened more often than it is closed is what is held. -/
theorem isOpen_iff (h : Follows none uses last?) : IsOpen uses handle ↔ last? = some handle := by
  have hcount := h.count_eq handle
  rw [if_neg (by simp), Nat.add_zero] at hcount
  rw [IsOpen, hcount]
  by_cases hlast : last? = some handle
  · simp [hlast]
  · simp [hlast]

/-- A handle that is held is only used until it is closed, or held to the end. -/
theorem exists_closed (h : Follows (some handle) uses last?) :
    (last? = some handle ∧ ∀ use ∈ uses, use = .used handle) ∨
      ∃ calls rest, uses = calls ++ .closed handle :: rest ∧
        ∀ use ∈ calls, use = .used handle := by
  induction uses with
  | nil =>
    cases h
    exact .inl ⟨rfl, by simp⟩
  | cons use uses ih =>
    cases h with
    | closed rest => exact .inr ⟨[], uses, rfl, by simp⟩
    | used hrest =>
      obtain ⟨hlast, hall⟩ | ⟨calls, rest, rfl, hall⟩ := ih hrest
      · exact .inl ⟨hlast, List.forall_mem_cons.2 ⟨rfl, hall⟩⟩
      · exact .inr ⟨.used handle :: calls, rest, rfl, List.forall_mem_cons.2 ⟨rfl, hall⟩⟩

/-- A handle that is held has been held from the beginning, or since it was opened. -/
theorem exists_opened (h : Follows first? uses (some handle)) :
    (first? = some handle ∧ ∀ use ∈ uses, use = .used handle) ∨
      ∃ earlier calls, uses = earlier ++ .opened handle :: calls ∧
        ∀ use ∈ calls, use = .used handle := by
  induction uses generalizing first? with
  | nil =>
    cases h
    exact .inl ⟨rfl, by simp⟩
  | cons use uses ih =>
    -- an opening behind this use is an opening behind all of them
    have hbehind : (∃ earlier calls, uses = earlier ++ .opened handle :: calls ∧
        ∀ use ∈ calls, use = .used handle) →
        ∃ earlier calls, use :: uses = earlier ++ .opened handle :: calls ∧
          ∀ use ∈ calls, use = .used handle := by
      rintro ⟨earlier, calls, rfl, hall⟩
      exact ⟨use :: earlier, calls, rfl, hall⟩
    cases h with
    | opened rest =>
      obtain ⟨hheld, hall⟩ | hopened := ih rest
      · obtain rfl := Option.some.inj hheld
        exact .inr ⟨[], uses, rfl, hall⟩
      · exact .inr (hbehind hopened)
    | used rest =>
      obtain ⟨hheld, hall⟩ | hopened := ih rest
      · obtain rfl := Option.some.inj hheld
        exact .inl ⟨rfl, List.forall_mem_cons.2 ⟨rfl, hall⟩⟩
      · exact .inr (hbehind hopened)
    | closed rest =>
      obtain ⟨hheld, -⟩ | hopened := ih rest
      · cases hheld
      · exact .inr (hbehind hopened)

end Follows

/-- What one request may do with handles, from the handle that is held before to the one that is
held behind. A handle is opened only where a request connects and none is held. It is closed only
behind an attempt that fails, or where a request gives the driver up. -/
inductive Episode (connects gives : Bool) : Option Nat → List HandleUse → Option Nat → Prop
  /-- Whatever is held is used. -/
  | calls {held? : Option Nat} {uses : List HandleUse} (hgives : gives = true → held? = none)
      (hcalls : ∀ use ∈ uses, use.IsCall held?) : Episode connects gives held? uses held?
  /-- A handle is opened and kept. -/
  | kept {handle : Nat} {uses : List HandleUse} (hconnects : connects = true)
      (hcalls : ∀ use ∈ uses, use.IsCall (some handle)) :
      Episode connects gives none (.opened handle :: uses) (some handle)
  /-- A handle is opened and given back. -/
  | failed {handle : Nat} (hconnects : connects = true) :
      Episode connects gives none [.opened handle, .closed handle] none
  /-- The handle that is held is given up. -/
  | givenUp {handle : Nat} {uses : List HandleUse} (hgives : gives = true)
      (hcalls : ∀ use ∈ uses, use.IsCall (some handle)) :
      Episode connects gives (some handle) (uses ++ [.closed handle]) none

namespace Episode

variable {connects gives : Bool} {first? held? last? : Option Nat} {uses more : List HandleUse}

theorem follows (h : Episode connects gives first? uses last?) : Follows first? uses last? := by
  cases h with
  | calls _ hcalls => exact .of_calls hcalls
  | kept _ hcalls => exact .opened (.of_calls hcalls)
  | failed => exact .opened (.closed (.done none))
  | givenUp _ hcalls => exact (Follows.of_calls hcalls).trans (.closed (.done none))

/-- Nothing is held where the driver was given up. -/
theorem eq_none_of_gives (h : Episode false true first? uses last?) : last? = none := by
  cases h with
  | calls hgives => exact hgives rfl
  | kept hconnects => cases hconnects
  | failed => rfl
  | givenUp => rfl

theorem eq_nil_of_calls (h : ∀ use ∈ uses, use.IsCall none) : uses = [] := by
  refine List.eq_nil_iff_forall_not_mem.2 fun use huse ↦ ?_
  obtain ⟨handle, hnone, -⟩ := h use huse
  cases hnone

/-- Calls in front of an episode belong to it. -/
theorem of_calls (h : Episode connects gives held? more last?)
    (hcalls : ∀ use ∈ uses, use.IsCall held?) :
    Episode connects gives held? (uses ++ more) last? := by
  cases h with
  | calls hgives hmore => exact .calls hgives (List.forall_mem_append.2 ⟨hcalls, hmore⟩)
  | kept hconnects hmore =>
    rw [eq_nil_of_calls hcalls]
    exact .kept hconnects hmore
  | failed hconnects =>
    rw [eq_nil_of_calls hcalls]
    exact .failed hconnects
  | givenUp hgives hmore =>
    rw [← List.append_assoc]
    exact .givenUp hgives (List.forall_mem_append.2 ⟨hcalls, hmore⟩)

/-- Calls behind an episode belong to it. -/
theorem append_calls (h : Episode connects gives first? uses held?)
    (hcalls : ∀ use ∈ more, use.IsCall held?) :
    Episode connects gives first? (uses ++ more) held? := by
  cases h with
  | calls hgives huses => exact .calls hgives (List.forall_mem_append.2 ⟨huses, hcalls⟩)
  | kept hconnects huses => exact .kept hconnects (List.forall_mem_append.2 ⟨huses, hcalls⟩)
  | failed hconnects =>
    rw [eq_nil_of_calls hcalls]
    exact .failed hconnects
  | givenUp hgives huses =>
    rw [eq_nil_of_calls hcalls, List.append_nil]
    exact .givenUp hgives huses

end Episode

/-- Whether every handle is closed once, except for the one that is still held. -/
structure ClosesOnce (uses : List HandleUse) (held? : Option Nat) : Prop where
  /-- A handle that was opened is only used until it is closed. -/
  closed : ∀ before handle after, uses = before ++ .opened handle :: after →
    (held? = some handle ∧ ∀ use ∈ after, use = .used handle) ∨
      ∃ calls rest, after = calls ++ .closed handle :: rest ∧ ∀ use ∈ calls, use = .used handle
  /-- A handle that is used or closed was opened, and was only used since. -/
  opened : ∀ before use after handle, uses = before ++ use :: after →
    use = .used handle ∨ use = .closed handle →
      ∃ earlier calls, before = earlier ++ .opened handle :: calls ∧
        ∀ use ∈ calls, use = .used handle
  balanceOf : ∀ handle, uses.count (.opened handle) =
    uses.count (.closed handle) + if held? = some handle then 1 else 0
  balance : uses.countP HandleUse.isOpened =
    uses.countP HandleUse.isClosed + if held?.isSome then 1 else 0

theorem Follows.closesOnce {uses : List HandleUse} {last? : Option Nat}
    (h : Follows none uses last?) : ClosesOnce uses last? where
  closed before handle after huses := by
    obtain ⟨held?, -, hrest⟩ := (huses ▸ h).exists_between
    cases hrest with
    | opened hafter => exact hafter.exists_closed
  opened before use after handle huses huse := by
    obtain ⟨held?, hbefore, hrest⟩ := (huses ▸ h).exists_between
    have hheld : held? = some handle := by
      obtain rfl | rfl := huse <;> cases hrest <;> rfl
    subst hheld
    obtain ⟨hnone, -⟩ | hopened := hbefore.exists_opened
    · cases hnone
    · exact hopened
  balanceOf handle := by
    have hcount := h.count_eq handle
    rwa [if_neg (by simp), Nat.add_zero] at hcount
  balance := by
    have hcount := h.countP_eq
    cases last? <;> simpa using hcount

end GpuCounters.Driver
