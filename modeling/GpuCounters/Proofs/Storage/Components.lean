import GpuCounters.Proofs.Storage.Tree

/-!
# Components of paths

A path is made of components: the top of all directories, the current directory, steps to the
directory above and names. A name that is joined to a path is one more component of it, and one more
step to its place.
-/

namespace GpuCounters.Storage

/-- Whether a text is the name of something in a directory. -/
structure IsName (name : String) : Prop where
  nonempty : name ≠ ""
  slash : '/' ∉ name.toList
  here : name ≠ "."
  up : name ≠ ".."

inductive Component
  /-- The top of all directories -/
  | root
  /-- The current directory, as the start of a path -/
  | here
  /-- The directory above -/
  | up
  | name (text : String)
  deriving DecidableEq, Repr

def Component.ofStep (step : String) : Component := if step = ".." then .up else .name step

theorem Component.ofStep_of_isName {name : String} (h : IsName name) :
    Component.ofStep name = .name name := if_neg h.up

namespace Path

/-- What a path starts with besides its steps. -/
def front (path : Path) : List Component :=
  if path.isAbsolute then [.root]
  else if (pieces path.text.toList).head? = some ['.'] then [.here] else []

/-- The components of a path. Empty ones, and those that stay in place, only count in front. -/
def components (path : Path) : List Component := path.front ++ path.steps.map .ofStep

/-! ## Steps -/

/-- The steps of a text, empty ones and those that stay in place left out. -/
def stepsOf (pieces : List (List Char)) : List String :=
  (pieces.filter fun piece ↦ piece ≠ [] ∧ piece ≠ ['.']).map String.ofList

theorem steps_eq (path : Path) : path.steps = stepsOf (pieces path.text.toList) := rfl

theorem stepsOf_append (some more : List (List Char)) :
    stepsOf (some ++ more) = stepsOf some ++ stepsOf more := by
  simp [stepsOf]

theorem pieces_append_slash (text rest : List Char) :
    pieces (text ++ '/' :: rest) = pieces text ++ pieces rest :=
  Text.split_append_mark (by rfl) text rest

end Path

namespace IsName

open Storage.Path

variable {name : String}

theorem pieces_eq (h : IsName name) : pieces name.toList = [name.toList] :=
  Text.split_of_forall_not_test fun _ hc ↦ decide_eq_false fun heq ↦ h.slash (heq ▸ hc)

theorem toList_ne_nil (h : IsName name) : name.toList ≠ [] :=
  fun hnil ↦ h.nonempty (String.toList_eq_nil_iff.1 hnil)

theorem toList_ne_dot (h : IsName name) : name.toList ≠ ['.'] :=
  fun hdot ↦ h.here (String.toList_inj.1 hdot)

theorem head?_ne_slash (h : IsName name) : name.toList.head? ≠ some '/' :=
  fun hhead ↦ h.slash (List.mem_of_head? hhead)

/-- A name is one step. -/
theorem stepsOf_pieces (h : IsName name) : stepsOf (pieces name.toList) = [name] := by
  rw [h.pieces_eq, stepsOf, List.filter_cons_of_pos (by simp [h.toList_ne_nil, h.toList_ne_dot])]
  simp

end IsName

/-! ## Joining -/

namespace Path

/-- How a name comes to stand behind a path: a slash is set between them unless the path ends with
one. Behind no text it stands alone. -/
theorem text_join {name : String} (h : name.toList.head? ≠ some '/') (directory : Path) :
    directory.text.toList = [] ∧ (directory.join name).text.toList = name.toList ∨
      ∃ outer, (directory.join name).text.toList = outer ++ '/' :: name.toList ∧
        (directory.text.toList = outer ++ ['/'] ∨
          directory.text.toList = outer ∧ outer ≠ []) := by
  unfold join
  rw [if_neg h]
  cases hlast : directory.text.toList.getLast? with
  | none => exact .inl ⟨List.getLast?_eq_none_iff.1 hlast, rfl⟩
  | some last =>
    right
    by_cases hslash : last = '/'
    · obtain ⟨outer, houter⟩ := List.getLast?_eq_some_iff.1 hlast
      rw [hslash] at houter ⊢
      refine ⟨outer, ?_, .inl houter⟩
      show (directory.text ++ name).toList = _
      rw [String.toList_append, houter, List.append_assoc, List.singleton_append]
    · refine ⟨directory.text.toList, ?_, .inr ⟨rfl, ?_⟩⟩
      · simp [String.toList_append]
      · rintro hnil
        rw [hnil] at hlast
        cases hlast

variable {name : String}

/-- A name behind a path is one more step. -/
theorem steps_join (h : IsName name) (directory : Path) :
    (directory.join name).steps = directory.steps ++ [name] := by
  rw [steps_eq, steps_eq]
  rcases text_join h.head?_ne_slash directory with
    ⟨hnil, hjoin⟩ | ⟨outer, hjoin, hslash | ⟨hplain, -⟩⟩
  · rw [hjoin, hnil, h.stepsOf_pieces]
    rfl
  · rw [hjoin, hslash, pieces_append_slash, pieces_append_slash, stepsOf_append, stepsOf_append,
      h.stepsOf_pieces, List.append_assoc]
    rfl
  · rw [hjoin, hplain, pieces_append_slash, stepsOf_append, h.stepsOf_pieces]

theorem front_join (h : IsName name) (directory : Path) :
    (directory.join name).front = directory.front := by
  unfold front isAbsolute
  have hhead : ∀ outer more : List Char,
      (pieces outer ++ pieces more).head? = (pieces outer).head? := by
    intro outer more
    have hne : pieces outer ≠ [] := Text.split_ne_nil outer
    obtain ⟨piece, rest, hpieces⟩ := List.exists_cons_of_ne_nil hne
    rw [hpieces]
    rfl
  rcases text_join h.head?_ne_slash directory with
    ⟨hnil, hjoin⟩ | ⟨outer, hjoin, hslash | ⟨hplain, hne⟩⟩
  · rw [hjoin, hnil, h.pieces_eq]
    simp [h.head?_ne_slash, h.toList_ne_dot, pieces]
  · rw [hjoin, hslash, pieces_append_slash, pieces_append_slash, hhead, hhead]
    cases outer <;> rfl
  · obtain ⟨c, rest, rfl⟩ := List.exists_cons_of_ne_nil hne
    rw [hjoin, hplain, pieces_append_slash, hhead]
    rfl

/-- A name behind a path is one more component. -/
theorem components_join (h : IsName name) (directory : Path) :
    (directory.join name).components = directory.components ++ [.name name] := by
  rw [components, front_join h, steps_join h, List.map_append, List.map_singleton,
    Component.ofStep_of_isName h, ← List.append_assoc, components]

/-- A name behind a path is one more step to its place. -/
theorem place_join (h : IsName name) (directory : Path) :
    (directory.join name).place = directory.place ++ [name] := by
  rw [place, steps_join h, Place.follow_append, Place.follow, if_neg h.up]
  rfl

end Path

example : (Path.mk "./a//b/../c/").components = [.here, .name "a", .name "b", .up, .name "c"] := by
  decide +kernel

end GpuCounters.Storage
