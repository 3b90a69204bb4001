import GpuCounters.Proofs.Storage.Tree

/-!
# Files of a disk

On a sound disk every name has a file of its own. Opening a file for writing leaves all other files
as they are, and so does every write, which goes to the end of what the file holds as long as its
writer is the only one.
-/

namespace GpuCounters.Storage

namespace Disk

/-- The bytes of what is written to; the full device has none. -/
def bytes (disk : Disk) : Target → ByteArray
  | .file number => disk.content number
  | .full => .empty

/-- The bytes of what can be written to at a place. -/
def bytesAt? (disk : Disk) (place : Place) : Option ByteArray :=
  match disk.node? place with
  | some (.target target) => some (disk.bytes target)
  | _ => none

/-- Whether a disk has what is written to. -/
def Holds (disk : Disk) : Target → Prop
  | .file number => number < disk.files.size
  | .full => True

/-- A disk on which every name has a file of its own. -/
structure Sound (disk : Disk) : Prop where
  holds : ∀ place target, disk.node? place = some (.target target) → disk.Holds target
  /-- No file has two names -/
  single : ∀ place other number, disk.node? place = some (.target (.file number)) →
    disk.node? other = some (.target (.file number)) → place = other

/-- The disk with nothing but its own directories and the full device has no file. -/
theorem sound_empty : Disk.empty.Sound := by
  have hnodes : ∀ place number, Disk.empty.node? place ≠ some (.target (.file number)) := by
    intro place number
    cases place with
    | nil => simp
    | cons name rest =>
      have hentry : ∀ entry ∈ Disk.empty.nodes, entry.2 ≠ .target (.file number) := by
        simp [Disk.empty]
      intro hnode
      obtain ⟨before, after, hsplit, -⟩ := List.lookup_eq_some_iff.1 hnode
      exact hentry (name :: rest, .target (.file number)) (by simp [hsplit]) rfl
  constructor
  · intro place target hnode
    cases target with
    | file number => exact absurd hnode (hnodes place number)
    | full => trivial
  · intro place other number hplace _
    exact absurd hplace (hnodes place number)

theorem bytesAt?_of_node? {disk : Disk} {place : Place} {target : Target}
    (h : disk.node? place = some (.target target)) :
    disk.bytesAt? place = some (disk.bytes target) := by
  unfold bytesAt?
  rw [h]

/-- A file is read from its place. -/
theorem read_of_bytesAt? {disk : Disk} {path : Path} {bytes : ByteArray}
    (hlocate : disk.locate path = .ok path.place) (hplain : path.namesDirectory = false)
    (hbytes : disk.bytesAt? path.place = some bytes) : disk.read path = .ok bytes := by
  unfold bytesAt? at hbytes
  split at hbytes
  · rename_i target hnode
    obtain rfl := Option.some.inj hbytes
    simp only [read, hlocate, hnode, hplain, Bool.false_eq_true, if_false]
    cases target <;> rfl
  · simp at hbytes

/-- Whether the regular file of a number is what a path names. -/
structure IsFileAt (disk : Disk) (path : Path) (number : Nat) : Prop where
  located : disk.locate path = .ok path.place
  plain : path.namesDirectory = false
  node : disk.node? path.place = some (.target (.file number))

/-- What holds a byte is a regular file. -/
theorem isFileAt_of_read {disk : Disk} {path : Path} {bytes : ByteArray}
    (h : disk.read path = .ok bytes) (hsize : bytes.size ≠ 0) :
    ∃ number, disk.IsFileAt path number ∧ disk.content number = bytes := by
  unfold read at h
  cases hlocate : disk.locate path with
  | error fault => simp [hlocate] at h
  | ok place =>
    obtain rfl := locate_eq_place hlocate
    simp only [hlocate] at h
    split at h
    · cases h
    · cases h
    · rename_i target hnode
      split at h
      · cases h
      · rename_i hplain
        cases target with
        | file number =>
          exact ⟨number, ⟨hlocate, by simpa using hplain, hnode⟩, Except.ok.inj h⟩
        | full =>
          rw [← Except.ok.inj h] at hsize
          exact absurd rfl hsize

theorem IsFileAt.bytesAt? {disk : Disk} {path : Path} {number : Nat}
    (h : disk.IsFileAt path number) : disk.bytesAt? path.place = some (disk.content number) :=
  bytesAt?_of_node? h.node

/-- A file that is there is opened as it is if its content is kept. -/
theorem IsFileAt.openForWriting_append {disk : Disk} {path : Path} {number : Nat}
    (h : disk.IsFileAt path number) :
    disk.openForWriting path .append = .ok (⟨.file number, .append, 0⟩, disk) := by
  simp only [openForWriting, h.located, h.node, h.plain, Bool.false_eq_true, if_false]

/-! ## Contents -/

theorem content_setContent_self {disk : Disk} {number : Nat} (h : number < disk.files.size)
    (bytes : ByteArray) : (disk.setContent number bytes).content number = bytes := by
  simp [content, setContent, h]

theorem content_setContent_of_ne {number other : Nat} (h : other ≠ number) (disk : Disk)
    (bytes : ByteArray) : (disk.setContent number bytes).content other = disk.content other := by
  simp [content, setContent, Ne.symm h]

@[simp] theorem size_files_setContent (disk : Disk) (number : Nat) (bytes : ByteArray) :
    (disk.setContent number bytes).files.size = disk.files.size := by
  simp [setContent]

@[simp] theorem node?_setContent (disk : Disk) (number : Nat) (bytes : ByteArray)
    (place : Place) : (disk.setContent number bytes).node? place = disk.node? place := by
  cases place <;> rfl

theorem node?_congr {disk later : Disk} (h : later.nodes = disk.nodes) (place : Place) :
    later.node? place = disk.node? place := by
  cases place with
  | nil => rfl
  | cons name rest =>
    show later.nodes.lookup _ = disk.nodes.lookup _
    rw [h]

/-- The content of a file may change without any harm. -/
theorem Sound.congr {disk later : Disk} (h : disk.Sound) (hnodes : later.nodes = disk.nodes)
    (hsize : later.files.size = disk.files.size) : later.Sound := by
  constructor
  · intro place target hnode
    rw [node?_congr hnodes] at hnode
    have hold := h.holds place target hnode
    cases target with
    | file number =>
      unfold Holds at hold ⊢
      rwa [hsize]
    | full => trivial
  · intro place other number hplace hother
    rw [node?_congr hnodes] at hplace hother
    exact h.single place other number hplace hother

theorem Furnished.sound {disk later : Disk} (h : disk.Furnished later) (hsound : disk.Sound) :
    later.Sound := by
  constructor
  · intro place target hnode
    have hold := hsound.holds place target (h.new place target hnode)
    cases target with
    | file number =>
      unfold Holds at hold ⊢
      rwa [h.files]
    | full => trivial
  · intro place other number hplace hother
    exact hsound.single place other number (h.new _ _ hplace) (h.new _ _ hother)

/-- New directories are no files. -/
theorem Furnished.bytesAt? {disk later : Disk} (h : disk.Furnished later) (place : Place) :
    later.bytesAt? place = disk.bytesAt? place := by
  have hbytes : ∀ target, later.bytes target = disk.bytes target := by
    intro target
    cases target with
    | file number => rw [bytes, bytes, content, content, h.files]
    | full => rfl
  cases hold : disk.node? place with
  | none =>
    unfold Disk.bytesAt?
    rw [hold]
    split
    · rename_i target hnode
      rw [h.new place target hnode] at hold
      simp at hold
    · rfl
  | some node =>
    unfold Disk.bytesAt?
    rw [hold, h.grows place node hold]
    cases node with
    | directory => rfl
    | target target => simp only [hbytes]

/-! ## Writing -/

/-- Whether one disk is another one with more bytes behind those of a file, if it has any. -/
structure Appended (target : Target) (bytes : ByteArray) (disk later : Disk) : Prop where
  nodes : later.nodes = disk.nodes
  size : later.files.size = disk.files.size
  written : later.bytes target = disk.bytes target ++ bytes
  others : ∀ other, other ≠ target → later.bytes other = disk.bytes other

namespace Appended

variable {target : Target} {bytes more : ByteArray} {disk later last : Disk}

theorem refl (target : Target) (disk : Disk) : Appended target .empty disk disk :=
  ⟨rfl, rfl, ByteArray.append_empty.symm, fun _ _ ↦ rfl⟩

theorem trans (h : Appended target bytes disk later) (hlast : Appended target more later last) :
    Appended target (bytes ++ more) disk last where
  nodes := by rw [hlast.nodes, h.nodes]
  size := by rw [hlast.size, h.size]
  written := by rw [hlast.written, h.written, ByteArray.append_assoc]
  others := fun other hother ↦ by rw [hlast.others other hother, h.others other hother]

theorem grows (h : Appended target bytes disk later) : disk.Grows later := by
  intro place node hnode
  rwa [node?_congr h.nodes]

theorem sound (h : Appended target bytes disk later) (hsound : disk.Sound) : later.Sound :=
  hsound.congr h.nodes h.size

/-- A write to the file of one place leaves all other places as they are. -/
theorem bytesAt?_of_ne (h : Appended target bytes disk later) (hsound : disk.Sound)
    {place other : Place} (hplace : disk.node? place = some (.target target))
    (hother : other ≠ place) : later.bytesAt? other = disk.bytesAt? other := by
  unfold Disk.bytesAt?
  rw [node?_congr h.nodes]
  split
  · rename_i found hfound
    by_cases hsame : found = target
    · subst hsame
      cases found with
      | file number => exact absurd (hsound.single other place number hfound hplace) hother
      | full => rfl
    · rw [h.others found hsame]
  · rfl

end Appended

/-- Whether a handle writes to the end of a file that the disk has. -/
structure Handle.AtEnd (handle : Handle) (disk : Disk) : Prop where
  holds : disk.Holds handle.target
  position : handle.access = .overwrite → handle.position = (disk.bytes handle.target).size

theorem overlay_size (content bytes : ByteArray) :
    overlay content content.size bytes = content ++ bytes := by
  have hgap : (⟨Array.replicate (content.size - content.size) 0⟩ : ByteArray) = .empty := by
    rw [Nat.sub_self]
    rfl
  have hbehind : content.extract (content.size + bytes.size) content.size = .empty := by
    rw [ByteArray.extract_eq_empty_iff]
    omega
  calc
    overlay content content.size bytes = content ++ .empty ++ bytes ++ .empty := by
      rw [overlay, ByteArray.extract_zero_size, hgap, hbehind]
    _ = content ++ bytes := by rw [ByteArray.append_empty, ByteArray.append_empty]

theorem appended_dropRefusal_setContent {disk : Disk} {number : Nat}
    (h : number < disk.files.size) (bytes : ByteArray) :
    Appended (.file number) bytes disk
      ({ disk with refusals := disk.refusals.tail }.setContent number
        (disk.content number ++ bytes)) where
  nodes := rfl
  size := size_files_setContent _ number _
  written := by
    let dropped : Disk := { disk with refusals := disk.refusals.tail }
    have hnumber : number < dropped.files.size := h
    exact content_setContent_self hnumber _
  others := by
    intro other hother
    cases other with
    | file second =>
      have hne : second ≠ number := fun heq ↦ hother (heq ▸ rfl)
      exact content_setContent_of_ne hne _ _
    | full => rfl

theorem Appended.holds {target other : Target} {bytes : ByteArray} {disk later : Disk}
    (h : Appended target bytes disk later) (hholds : disk.Holds other) : later.Holds other := by
  cases other with
  | file number =>
    unfold Holds at hholds ⊢
    rwa [h.size]
  | full => trivial

theorem Appended.atEnd {handle : Handle} {bytes : ByteArray} {disk later : Disk}
    (h : Appended handle.target bytes disk later) (hend : handle.AtEnd disk) :
    { handle with position := handle.position + bytes.size }.AtEnd later := by
  refine ⟨h.holds hend.holds, ?_⟩
  intro haccess
  rw [h.written, ByteArray.size_append, hend.position haccess]

/-- What a write to the end of a file leaves behind if it is not refused. -/
structure Handle.Wrote (handle : Handle) (bytes : ByteArray) (disk : Disk) (after : Handle)
    (later : Disk) : Prop where
  target : after.target = handle.target
  access : after.access = handle.access
  appended : Appended handle.target bytes disk later
  atEnd : after.AtEnd later

/-- A write that is not refused appends its bytes. -/
theorem wrote_of_write {handle after : Handle} {disk later : Disk} {bytes : ByteArray}
    (hend : handle.AtEnd disk) (h : disk.write handle bytes = (.ok (), after, later)) :
    handle.Wrote bytes disk after later := by
  unfold write at h
  split at h
  · rename_i hsize
    obtain rfl := ByteArray.size_eq_zero_iff.1 hsize
    simp only [Prod.mk.injEq, true_and] at h
    obtain ⟨rfl, rfl⟩ := h
    exact ⟨rfl, rfl, Appended.refl _ _, hend⟩
  · dsimp only at h
    split at h
    · simp at h
    · split at h
      · simp at h
      · rename_i number htarget
        have hholds : number < disk.files.size := by
          have hheld := hend.holds
          rwa [htarget] at hheld
        simp only [Prod.mk.injEq, true_and] at h
        obtain ⟨rfl, hlater⟩ := h
        have hcontent : later = { disk with refusals := disk.refusals.tail }.setContent number
            (disk.content number ++ bytes) := by
          rw [← hlater]
          cases haccess : handle.access with
          | append => rfl
          | overwrite =>
            have hposition := hend.position haccess
            rw [htarget] at hposition
            exact congrArg (setContent _ number) (hposition ▸ overlay_size _ _)
        have happended : Appended handle.target bytes disk later := by
          rw [htarget, hcontent]
          exact appended_dropRefusal_setContent hholds bytes
        exact ⟨rfl, rfl, happended, happended.atEnd hend⟩

/-! ## Disks that refuse nothing -/

/-- Whether a disk refuses none of the coming writes. -/
def IsWilling (disk : Disk) : Prop := ∀ refusal ∈ disk.refusals, refusal = none

instance (disk : Disk) : Decidable disk.IsWilling :=
  inferInstanceAs (Decidable (∀ _ ∈ _, _))

theorem IsWilling.head? {disk : Disk} (h : disk.IsWilling) : disk.refusals.head?.join = none := by
  cases hhead : disk.refusals.head? with
  | none => rfl
  | some refusal => rw [h refusal (List.mem_of_head? hhead)]; rfl

/-- A write to a regular file succeeds on a willing disk. -/
theorem write_of_isWilling {disk : Disk} (h : disk.IsWilling) {handle : Handle} {number : Nat}
    (htarget : handle.target = .file number) (bytes : ByteArray) :
    ∃ after later, disk.write handle bytes = (.ok (), after, later) ∧
      after.target = .file number ∧ later.IsWilling := by
  unfold write
  split
  · exact ⟨handle, disk, rfl, htarget, h⟩
  · simp only [h.head?, htarget]
    refine ⟨_, _, rfl, rfl, ?_⟩
    intro refusal hrefusal
    exact h refusal (List.mem_of_mem_tail hrefusal)

/-! ## Opening -/

/-- What is left of a file when it is opened. -/
def kept (access : Access) (content? : Option ByteArray) : ByteArray :=
  match access with
  | .overwrite => .empty
  | .append => content?.getD .empty

/-- What opening the file of a path leaves behind if it is not refused. -/
structure Opened (disk : Disk) (path : Path) (access : Access) (handle : Handle) (opened : Disk) :
    Prop where
  grows : disk.Grows opened
  sound : opened.Sound
  refusals : opened.refusals = disk.refusals
  located : opened.locate path = .ok path.place
  plain : path.namesDirectory = false
  node : opened.node? path.place = some (.target handle.target)
  asked : handle.access = access
  atEnd : handle.AtEnd opened
  bytes : opened.bytes handle.target = kept access (disk.bytesAt? path.place)
  others : ∀ other, other ≠ path.place → opened.bytesAt? other = disk.bytesAt? other

variable {disk : Disk} {path : Path}

/-- A file that is there is emptied, unless its content is kept. -/
theorem opened_of_target (hsound : disk.Sound) {target : Target}
    (hlocated : disk.locate path = .ok path.place) (hplain : path.namesDirectory = false)
    (hnode : disk.node? path.place = some (.target target)) :
    disk.Opened path .append ⟨target, .append, 0⟩ disk where
  grows := Grows.refl disk
  sound := hsound
  refusals := rfl
  located := hlocated
  plain := hplain
  node := hnode
  asked := rfl
  atEnd := ⟨hsound.holds _ _ hnode, by simp⟩
  bytes := by
    rw [bytesAt?_of_node? hnode]
    rfl
  others := fun _ _ ↦ rfl

theorem opened_of_full (hsound : disk.Sound) (hlocated : disk.locate path = .ok path.place)
    (hplain : path.namesDirectory = false)
    (hnode : disk.node? path.place = some (.target .full)) :
    disk.Opened path .overwrite ⟨.full, .overwrite, 0⟩ disk where
  grows := Grows.refl disk
  sound := hsound
  refusals := rfl
  located := hlocated
  plain := hplain
  node := hnode
  asked := rfl
  atEnd := ⟨trivial, fun _ ↦ rfl⟩
  bytes := rfl
  others := fun _ _ ↦ rfl

theorem opened_of_file (hsound : disk.Sound) {number : Nat}
    (hlocated : disk.locate path = .ok path.place) (hplain : path.namesDirectory = false)
    (hnode : disk.node? path.place = some (.target (.file number))) :
    disk.Opened path .overwrite ⟨.file number, .overwrite, 0⟩
      (disk.setContent number .empty) := by
  have hholds : number < disk.files.size := hsound.holds _ _ hnode
  have hgrows : disk.Grows (disk.setContent number .empty) := by
    intro place node hplace
    rwa [node?_setContent]
  have hempty : (disk.setContent number .empty).bytes (.file number) = .empty :=
    content_setContent_self hholds _
  refine ⟨hgrows, hsound.congr rfl (size_files_setContent _ _ _), rfl, hgrows.locate hlocated,
    hplain, hgrows _ _ hnode, rfl, ⟨?_, ?_⟩, hempty, ?_⟩
  · show number < (disk.setContent number .empty).files.size
    rwa [size_files_setContent]
  · intro _
    rw [hempty]
    rfl
  · intro other hother
    unfold bytesAt?
    rw [node?_setContent]
    split
    · rename_i target htarget
      cases target with
      | file second =>
        have hne : second ≠ number := by
          rintro rfl
          exact hother (hsound.single other path.place second htarget hnode)
        rw [bytes, content_setContent_of_ne hne, bytes]
      | full => rfl
    · rfl

def addFile (disk : Disk) (place : Place) : Disk :=
  { disk with files := disk.files.push .empty }.setNode place (.target (.file disk.files.size))

section AddFile

variable {place other : Place}

theorem node?_addFile_self (h : place ≠ []) (disk : Disk) :
    (disk.addFile place).node? place = some (.target (.file disk.files.size)) :=
  node?_setNode_self h _ _

theorem node?_addFile_of_ne (h : other ≠ place) (disk : Disk) :
    (disk.addFile place).node? other = disk.node? other := by
  rw [addFile, node?_setNode_of_ne h]
  exact node?_congr rfl other

theorem size_files_addFile (disk : Disk) (place : Place) :
    (disk.addFile place).files.size = disk.files.size + 1 := Array.size_push _

theorem bytes_addFile_self (disk : Disk) (place : Place) :
    (disk.addFile place).bytes (.file disk.files.size) = .empty := by
  simp [addFile, setNode, bytes, content]

theorem bytes_addFile_of_holds {target : Target} (h : disk.Holds target) (place : Place) :
    (disk.addFile place).bytes target = disk.bytes target := by
  cases target with
  | file number =>
    have hlt : number < disk.files.size := h
    simp [addFile, setNode, bytes, content, Array.getElem?_push, Nat.ne_of_lt hlt]
  | full => rfl

theorem holds_addFile {target : Target} (h : disk.Holds target) (place : Place) :
    (disk.addFile place).Holds target := by
  cases target with
  | file number =>
    have hlt : number < disk.files.size := h
    show number < (disk.addFile place).files.size
    rw [size_files_addFile]
    omega
  | full => trivial

theorem grows_addFile (h : disk.node? place = none) : disk.Grows (disk.addFile place) := by
  intro other node hnode
  have hne : other ≠ place := by
    rintro rfl
    rw [h] at hnode
    simp at hnode
  rwa [node?_addFile_of_ne hne]

/-- The file of a new number is that of the new place alone. -/
theorem Sound.addFile (h : disk.Sound) (hplace : place ≠ []) : (disk.addFile place).Sound := by
  have hcases : ∀ other target, (disk.addFile place).node? other = some (.target target) →
      (other = place ∧ target = .file disk.files.size) ∨
        (disk.node? other = some (.target target) ∧ disk.Holds target) := by
    intro other target hnode
    by_cases hother : other = place
    · rw [hother, node?_addFile_self hplace] at hnode
      simp only [Option.some.injEq, Node.target.injEq] at hnode
      exact .inl ⟨hother, hnode.symm⟩
    · rw [node?_addFile_of_ne hother] at hnode
      exact .inr ⟨hnode, h.holds other target hnode⟩
  constructor
  · intro other target hnode
    obtain ⟨-, rfl⟩ | ⟨-, hholds⟩ := hcases other target hnode
    · show disk.files.size < (disk.addFile place).files.size
      rw [size_files_addFile]
      omega
    · exact holds_addFile hholds place
  · intro one two number hone htwo
    obtain ⟨rfl, hnumber⟩ | ⟨hone, hholds⟩ := hcases one _ hone <;>
      obtain ⟨rfl, hsecond⟩ | ⟨htwo, hheld⟩ := hcases two _ htwo
    · rfl
    · rw [hnumber] at hheld
      exact absurd hheld (Nat.lt_irrefl _)
    · rw [hsecond] at hholds
      exact absurd hholds (Nat.lt_irrefl _)
    · exact h.single one two number hone htwo

theorem bytesAt?_addFile_of_ne (h : disk.Sound) (hother : other ≠ place) :
    (disk.addFile place).bytesAt? other = disk.bytesAt? other := by
  unfold bytesAt?
  rw [node?_addFile_of_ne hother]
  split
  · rename_i target htarget
    rw [bytes_addFile_of_holds (h.holds other target htarget)]
  · rfl

end AddFile

/-- A file that is missing is made. -/
theorem opened_of_none (hsound : disk.Sound) (access : Access)
    (hlocated : disk.locate path = .ok path.place) (hplain : path.namesDirectory = false)
    (hnode : disk.node? path.place = none) :
    disk.Opened path access ⟨.file disk.files.size, access, 0⟩ (disk.addFile path.place) where
  grows := grows_addFile hnode
  sound := hsound.addFile (ne_nil_of_node? hnode)
  refusals := rfl
  located := (grows_addFile hnode).locate hlocated
  plain := hplain
  node := node?_addFile_self (ne_nil_of_node? hnode) disk
  asked := rfl
  atEnd := by
    refine ⟨?_, fun _ ↦ ?_⟩
    · show disk.files.size < (disk.addFile path.place).files.size
      rw [size_files_addFile]
      omega
    · rw [bytes_addFile_self]
      rfl
  bytes := by
    unfold bytesAt?
    rw [bytes_addFile_self, hnode]
    cases access <;> rfl
  others := fun _ hother ↦ bytesAt?_addFile_of_ne hsound hother

/-- Opening a file changes no other file. -/
theorem opened_of_openForWriting (hsound : disk.Sound) {access : Access} {handle : Handle}
    {opened : Disk} (h : disk.openForWriting path access = .ok (handle, opened)) :
    disk.Opened path access handle opened := by
  unfold openForWriting at h
  cases hlocate : disk.locate path with
  | error fault => simp [hlocate] at h
  | ok place =>
    obtain rfl := locate_eq_place hlocate
    simp only [hlocate] at h
    cases hnode : disk.node? path.place with
    | none =>
      simp only [hnode] at h
      split at h
      · simp at h
      · rename_i hplain
        split at h
        · obtain ⟨rfl, rfl⟩ := Prod.mk.inj (Except.ok.inj h)
          exact opened_of_none hsound access hlocate (by simpa using hplain) hnode
        · simp at h
        · simp at h
    | some node =>
      cases node with
      | directory => simp [hnode] at h
      | target target =>
        simp only [hnode] at h
        split at h
        · simp at h
        · rename_i hplain
          have hplain : path.namesDirectory = false := by simpa using hplain
          cases target <;> cases access <;> obtain ⟨rfl, rfl⟩ := Prod.mk.inj (Except.ok.inj h)
          · exact opened_of_file hsound hlocate hplain hnode
          · exact opened_of_target hsound hlocate hplain hnode
          · exact opened_of_full hsound hlocate hplain hnode
          · exact opened_of_target hsound hlocate hplain hnode

/-- A file that is put on a disk is no other file. -/
theorem Sound.put (h : disk.Sound) (path : Path) (bytes : ByteArray) :
    (disk.put path bytes).Sound := by
  have hmade : (disk.makeParents path).1.Sound := (furnished_makeParents disk path).sound h
  unfold Disk.put
  dsimp only
  split
  · exact hmade
  · rename_i handle opened hopen
    have hopened := opened_of_openForWriting hmade hopen
    split
    · exact hopened.sound.congr rfl (size_files_setContent opened _ bytes)
    · exact hopened.sound

/-! ## Changes at one place -/

/-- Whether a disk has grown, and what could be written to at other places is as it was. -/
structure ChangedAt (place : Place) (disk later : Disk) : Prop where
  grows : disk.Grows later
  sound : later.Sound
  others : ∀ other, other ≠ place → later.bytesAt? other = disk.bytesAt? other

theorem ChangedAt.trans {place : Place} {later last : Disk} (h : ChangedAt place disk later)
    (hlast : ChangedAt place later last) : ChangedAt place disk last where
  grows := h.grows.trans hlast.grows
  sound := hlast.sound
  others := fun other hother ↦ by rw [hlast.others other hother, h.others other hother]

theorem Furnished.changedAt {later : Disk} (h : disk.Furnished later) (hsound : disk.Sound)
    (place : Place) : ChangedAt place disk later :=
  ⟨h.grows, h.sound hsound, fun other _ ↦ h.bytesAt? other⟩

theorem Opened.changedAt {access : Access} {handle : Handle} {opened : Disk}
    (h : disk.Opened path access handle opened) : ChangedAt path.place disk opened :=
  ⟨h.grows, h.sound, h.others⟩

theorem Appended.changedAt {later : Disk} {target : Target} {bytes : ByteArray} {place : Place}
    (h : Appended target bytes disk later) (hsound : disk.Sound)
    (hnode : disk.node? place = some (.target target)) : ChangedAt place disk later :=
  ⟨h.grows, h.sound hsound, fun _ hother ↦ h.bytesAt?_of_ne hsound hnode hother⟩

end Disk

end GpuCounters.Storage
