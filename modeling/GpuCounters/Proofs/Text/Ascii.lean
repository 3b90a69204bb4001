/-!
# ASCII texts

A text of ASCII characters has a byte for each of them.
-/

namespace GpuCounters.Text

def IsAscii (text : List Char) : Prop := ∀ c ∈ text, c.val ≤ 127

instance (text : List Char) : Decidable (IsAscii text) :=
  List.decidableBAll (fun c : Char ↦ c.val ≤ 127) text

theorem IsAscii.append {text more : List Char} (h : IsAscii text) (hmore : IsAscii more) :
    IsAscii (text ++ more) := fun c hc ↦ (List.mem_append.1 hc).elim (h c) (hmore c)

theorem utf8ByteSize_ofList_cons (c : Char) (text : List Char) :
    (String.ofList (c :: text)).utf8ByteSize =
      c.utf8Size + (String.ofList text).utf8ByteSize := by
  rw [← List.singleton_append, String.ofList_append, String.utf8ByteSize_append]
  simp

theorem IsAscii.utf8ByteSize_ofList {text : List Char} (h : IsAscii text) :
    (String.ofList text).utf8ByteSize = text.length := by
  induction text with
  | nil => rfl
  | cons c text ih =>
    have hc : c.utf8Size = 1 := Char.utf8Size_eq_one_iff.2 (h c List.mem_cons_self)
    rw [utf8ByteSize_ofList_cons, hc, ih fun x hx ↦ h x (List.mem_cons_of_mem c hx),
      List.length_cons, Nat.add_comm]

theorem IsAscii.size_toUTF8 {text : List Char} (h : IsAscii text) :
    (String.ofList text).toUTF8.size = text.length := h.utf8ByteSize_ofList

end GpuCounters.Text
