import GpuCounters.Proofs.Text.Lines
import GpuCounters.Storage.Disk

/-!
# The tree of a disk

Where a path leads is settled by its steps alone: the disk decides only whether it can be followed.
What a disk has at a place stays there while directories and files are made, so a path that could be
followed once can be followed ever after, to the same place.
-/

namespace GpuCounters.Storage

/-! ## Places of paths -/

/-- The place that steps lead to from a place. -/
def Place.follow (here : Place) : List String → Place
  | [] => here
  | name :: rest =>
    if name = ".." then Place.follow here.dropLast rest else Place.follow (here ++ [name]) rest

/-- The place that a path names, if it can be followed. -/
def Path.place (path : Path) : Place := Place.follow [] path.steps

theorem Place.follow_append (here : Place) (steps more : List String) :
    Place.follow here (steps ++ more) = Place.follow (Place.follow here steps) more := by
  induction steps generalizing here with
  | nil => rfl
  | cons name steps ih =>
    simp only [List.cons_append, Place.follow]
    split
    · exact ih here.dropLast
    · exact ih (here ++ [name])

namespace Disk

theorem walk_eq_follow {disk : Disk} {here place : Place} {steps : List String}
    (h : disk.walk here steps = .ok place) : place = Place.follow here steps := by
  induction steps generalizing here with
  | nil => simpa [walk, Place.follow, eq_comm] using h
  | cons name steps ih =>
    rw [walk] at h
    rw [Place.follow]
    split at h
    · simp at h
    · simp at h
    · split at h
      · rename_i hname
        rw [if_pos hname]
        exact ih h
      · rename_i hname
        rw [if_neg hname]
        split at h
        · simp at h
        · exact ih h

theorem locate_eq_place {disk : Disk} {path : Path} {place : Place}
    (h : disk.locate path = .ok place) : place = path.place := by
  unfold locate at h
  split at h
  · exact walk_eq_follow h
  · simp at h

/-! ## Nodes -/

@[simp] theorem node?_nil (disk : Disk) : disk.node? [] = some .directory := rfl

theorem node?_eq_lookup {place : Place} (h : place ≠ []) (disk : Disk) :
    disk.node? place = disk.nodes.lookup place := by
  cases place with
  | nil => exact absurd rfl h
  | cons name rest => rfl

theorem lookup_filter_ne {place other : Place} (h : other ≠ place) (nodes : List (Place × Node)) :
    (nodes.filter (·.1 ≠ place)).lookup other = nodes.lookup other := by
  induction nodes with
  | nil => rfl
  | cons entry nodes ih =>
    obtain ⟨key, node⟩ := entry
    by_cases hkey : key = place
    · have hother : (other == key) = false := by simpa [hkey] using h
      rw [List.filter_cons_of_neg (by simpa using hkey), ih, List.lookup_cons, hother]
    · rw [List.filter_cons_of_pos (by simpa using hkey), List.lookup_cons, List.lookup_cons, ih]

theorem node?_setNode_self {place : Place} (h : place ≠ []) (disk : Disk) (node : Node) :
    (disk.setNode place node).node? place = some node := by
  rw [node?_eq_lookup h, setNode, List.lookup_cons_self]

theorem node?_setNode_of_ne {place other : Place} (h : other ≠ place) (disk : Disk) (node : Node) :
    (disk.setNode place node).node? other = disk.node? other := by
  by_cases hother : other = []
  · rw [hother, node?_nil, node?_nil]
  · have hkey : (other == place) = false := by simpa using h
    rw [node?_eq_lookup hother, node?_eq_lookup hother, setNode, List.lookup_cons, hkey]
    exact lookup_filter_ne h disk.nodes

theorem ne_nil_of_node? {disk : Disk} {place : Place} (h : disk.node? place = none) :
    place ≠ [] := by
  rintro rfl
  simp at h

/-! ## Growing trees -/

/-- Whether all that one disk has stands on another one too. -/
def Grows (disk later : Disk) : Prop :=
  ∀ place node, disk.node? place = some node → later.node? place = some node

theorem Grows.refl (disk : Disk) : disk.Grows disk := fun _ _ h ↦ h

theorem Grows.trans {disk later last : Disk} (h : disk.Grows later) (hlast : later.Grows last) :
    disk.Grows last := fun place node hnode ↦ hlast place node (h place node hnode)

theorem grows_setNode {disk : Disk} {place : Place} (h : disk.node? place = none) (node : Node) :
    disk.Grows (disk.setNode place node) := by
  intro other old hother
  have hne : other ≠ place := by
    rintro rfl
    rw [h] at hother
    simp at hother
  rwa [node?_setNode_of_ne hne]

theorem Grows.walk {disk later : Disk} (h : disk.Grows later) {here place : Place}
    {steps : List String} (hwalk : disk.walk here steps = .ok place) :
    later.walk here steps = .ok place := by
  induction steps generalizing here with
  | nil => exact hwalk
  | cons name steps ih =>
    rw [Disk.walk] at hwalk ⊢
    cases hnode : disk.node? here with
    | none => simp [hnode] at hwalk
    | some node =>
      rw [h here node hnode]
      cases node with
      | target target => simp [hnode] at hwalk
      | directory =>
        simp only [hnode] at hwalk ⊢
        by_cases hname : name = ".."
        · rw [if_pos hname] at hwalk ⊢
          exact ih hwalk
        · by_cases hlong : longestName < name.utf8ByteSize
          · simp [hname, hlong] at hwalk
          · rw [if_neg hname, if_neg hlong] at hwalk ⊢
            exact ih hwalk

theorem Grows.locate {disk later : Disk} (h : disk.Grows later) {path : Path} {place : Place}
    (hlocate : disk.locate path = .ok place) : later.locate path = .ok place := by
  unfold Disk.locate at hlocate ⊢
  by_cases hclean : path.isClean = true
  · rw [if_pos hclean] at hlocate ⊢
    exact h.walk hlocate
  · simp [hclean] at hlocate

/-! ## Directories -/

/-- Whether one disk is another one with more directories. -/
structure Furnished (disk later : Disk) : Prop where
  grows : disk.Grows later
  files : later.files = disk.files
  refusals : later.refusals = disk.refusals
  /-- Whatever is new is a directory -/
  new : ∀ place target,
    later.node? place = some (.target target) → disk.node? place = some (.target target)

theorem Furnished.refl (disk : Disk) : disk.Furnished disk :=
  ⟨Grows.refl disk, rfl, rfl, fun _ _ h ↦ h⟩

theorem Furnished.trans {disk later last : Disk} (h : disk.Furnished later)
    (hlast : later.Furnished last) : disk.Furnished last where
  grows := h.grows.trans hlast.grows
  files := by rw [hlast.files, h.files]
  refusals := by rw [hlast.refusals, h.refusals]
  new := fun place target hnode ↦ h.new place target (hlast.new place target hnode)

theorem furnished_of_makeDirectory {disk made : Disk} {steps : List String}
    (h : disk.makeDirectory steps = .ok made) : disk.Furnished made := by
  unfold makeDirectory at h
  split at h
  · simp at h
  · rename_i place _
    split at h
    · simp at h
    · rename_i hnone
      obtain rfl := Except.ok.inj h
      refine ⟨grows_setNode hnone _, rfl, rfl, ?_⟩
      intro other target hnode
      by_cases hother : other = place
      · rw [hother, node?_setNode_self (ne_nil_of_node? hnone)] at hnode
        simp at hnode
      · rwa [node?_setNode_of_ne hother] at hnode

/-- The induction is on the steps, of which the last one is in front. -/
theorem furnished_makeDirectories (disk : Disk) (steps : List String) :
    disk.Furnished (disk.makeDirectories steps).1 := by
  induction steps with
  | nil => exact Furnished.refl disk
  | cons name outer ih =>
    rw [makeDirectories]
    split
    · rename_i made hmade
      exact furnished_of_makeDirectory hmade
    · split
      · rename_i made fault houter
        rw [houter] at ih
        exact ih
      · rename_i made houter
        rw [houter] at ih
        split
        · rename_i finished hfinished
          exact ih.trans (furnished_of_makeDirectory hfinished)
        · exact ih
    · exact Furnished.refl disk

theorem furnished_makeParents (disk : Disk) (path : Path) :
    disk.Furnished (disk.makeParents path).1 := by
  unfold makeParents
  split
  · exact Furnished.refl disk
  · split
    · exact furnished_makeDirectories disk _
    · exact Furnished.refl disk

/-! ## Paths that can be followed -/

/-- All but the last step of a path that can be followed lead to a directory. -/
theorem isDirectory_of_walk {disk : Disk} {here place : Place} {outer : List String} {name : String}
    (h : disk.walk here (outer ++ [name]) = .ok place) :
    ∃ parent, disk.walk here outer = .ok parent ∧ disk.node? parent = some .directory := by
  induction outer generalizing here with
  | nil =>
    refine ⟨here, rfl, ?_⟩
    rw [List.nil_append, walk] at h
    split at h
    · cases h
    · cases h
    · assumption
  | cons first outer ih =>
    rw [List.cons_append, walk] at h
    rw [walk]
    cases hnode : disk.node? here with
    | none => simp [hnode] at h
    | some node =>
      cases node with
      | target target => simp [hnode] at h
      | directory =>
        simp only [hnode] at h ⊢
        by_cases hname : first = ".."
        · rw [if_pos hname] at h ⊢
          exact ih h
        · by_cases hlong : longestName < first.utf8ByteSize
          · simp [hname, hlong] at h
          · rw [if_neg hname, if_neg hlong] at h ⊢
            exact ih h

/-- A directory that is there is not made again. -/
theorem makeDirectories_of_walk {disk : Disk} {outer : List String} {parent : Place}
    (h : disk.walk [] outer.reverse = .ok parent) (hnode : disk.node? parent = some .directory) :
    disk.makeDirectories outer = (disk, .ok ()) := by
  cases outer with
  | nil => rfl
  | cons name outer =>
    have hmade : disk.makeDirectory (name :: outer).reverse = .error .alreadyExists := by
      rw [makeDirectory, h]
      dsimp only
      rw [hnode]
    have hthere : disk.isDirectory (name :: outer).reverse = true := by
      rw [isDirectory, h]
      exact decide_eq_true hnode
    simp only [makeDirectories, hmade, hthere, if_true]

/-- The steps of a path have no other characters than the path. -/
theorem isClean_of_mem_steps {path : Path} (h : path.isClean = true) {step : String}
    (hstep : step ∈ path.steps) : step.toList.all (· ≠ '\x00') = true := by
  obtain ⟨piece, hpiece, rfl⟩ := List.mem_map.1 hstep
  have hsubset := Text.subset_of_mem_split (List.mem_filter.1 hpiece).1
  rw [String.toList_ofList, List.all_eq_true]
  exact fun c hc ↦ List.all_eq_true.1 h c (hsubset hc)

/-- The directories of a path that can be followed are all there. -/
theorem makeParents_of_locate {disk : Disk} {path : Path} {place : Place}
    (h : disk.locate path = .ok place) : disk.makeParents path = (disk, .ok ()) := by
  unfold locate at h
  split at h
  · rename_i hclean
    unfold makeParents
    split
    · rfl
    · rename_i name outer hsteps
      have hsplit : path.steps = outer.reverse ++ [name] := by
        rw [← List.reverse_cons, ← hsteps, List.reverse_reverse]
      have hnames : outer.all (fun name ↦ name.toList.all (· ≠ '\x00')) = true := by
        rw [List.all_eq_true]
        intro step hstep
        apply isClean_of_mem_steps hclean
        rw [hsplit]
        exact List.mem_append_left _ (List.mem_reverse.2 hstep)
      rw [hsplit] at h
      obtain ⟨parent, hparent, hnode⟩ := isDirectory_of_walk h
      rw [if_pos hnames]
      exact makeDirectories_of_walk hparent hnode
  · cases h

end Disk

end GpuCounters.Storage
