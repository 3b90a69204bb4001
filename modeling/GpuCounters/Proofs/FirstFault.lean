import Mathlib.Data.List.Basic

/-!
# First faults

A list that is read from the left is refused at its first item with a fault, if all items before
that are good. What stands behind it does not matter.
-/

namespace GpuCounters

variable {Item Fault : Type} {good : Item → Prop} {faulty : Item → Fault → Prop} {fault : Fault}

/-- Whether the first item of a list that is not good has the fault. -/
def FirstFault (good : Item → Prop) (faulty : Item → Fault → Prop) (items : List Item)
    (fault : Fault) : Prop :=
  ∃ before item after, items = before ++ item :: after ∧ (∀ other ∈ before, good other) ∧
    faulty item fault

theorem not_firstFault_nil : ¬FirstFault good faulty [] fault := by
  rintro ⟨before, item, after, hitems, -, -⟩
  exact List.append_ne_nil_of_right_ne_nil before (List.cons_ne_nil item after) hitems.symm

theorem firstFault_cons {item : Item} {rest : List Item} :
    FirstFault good faulty (item :: rest) fault ↔
      faulty item fault ∨ good item ∧ FirstFault good faulty rest fault := by
  constructor
  · rintro ⟨before, other, after, hitems, hbefore, hother⟩
    cases before with
    | nil =>
      obtain ⟨rfl, -⟩ := List.cons.inj hitems
      exact .inl hother
    | cons first before =>
      obtain ⟨rfl, hrest⟩ := List.cons.inj hitems
      obtain ⟨hfirst, hbefore⟩ := List.forall_mem_cons.1 hbefore
      exact .inr ⟨hfirst, before, other, after, hrest, hbefore, hother⟩
  · rintro (hitem | ⟨hitem, before, other, after, rfl, hbefore, hother⟩)
    · exact ⟨[], item, rest, rfl, by simp, hitem⟩
    · exact ⟨item :: before, other, after, rfl, List.forall_mem_cons.2 ⟨hitem, hbefore⟩, hother⟩

end GpuCounters
