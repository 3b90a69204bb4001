import GpuCounters.Storage.Path

/-!
# Disks

A disk is a tree of directories and files. A file that is open lives on when its name goes to
another file. Besides regular files there is the device that takes no byte. The disk can be told
beforehand which of the coming writes it refuses.
-/

namespace GpuCounters.Storage

/-- Why the system refuses a request. -/
inductive Fault
  | notFound
  | alreadyExists
  | notADirectory
  | isADirectory
  | noSpace
  | nameTooLong
  /-- A path has a null character. -/
  | nullInPath
  /-- A file that is read as text holds something else. -/
  | notText
  deriving DecidableEq, Repr

def Fault.message : Fault → String
  | .notFound => "No such file or directory (os error 2)"
  | .alreadyExists => "File exists (os error 17)"
  | .notADirectory => "Not a directory (os error 20)"
  | .isADirectory => "Is a directory (os error 21)"
  | .noSpace => "No space left on device (os error 28)"
  | .nameTooLong => "File name too long (os error 36)"
  | .nullInPath => "file name contained an unexpected NUL byte"
  | .notText => "stream did not contain valid UTF-8"

/-- What bytes are written to. -/
inductive Target
  /-- The regular file of the given number -/
  | file (number : Nat)
  /-- The device that takes no byte -/
  | full
  deriving DecidableEq, Repr

/-- What a name in a directory stands for. -/
inductive Node
  | directory
  | target (target : Target)
  deriving DecidableEq, Repr

/-- A place in the tree: the names on the way to it from the top. -/
abbrev Place := List String

structure Disk where
  /-- What stands at each place; of two entries for one place the first counts. -/
  nodes : List (Place × Node)
  /-- The contents of the regular files, by number -/
  files : Array ByteArray
  /-- For each of the coming writes, the fault by which it is refused, if it is -/
  refusals : List (Option Fault)

namespace Disk

/-- The disk with nothing but its own directories and the full device. -/
def empty : Disk where
  nodes := [(["dev"], .directory), (["tmp"], .directory), (["dev", "full"], .target .full)]
  files := #[]
  refusals := []

instance : Inhabited Disk := ⟨empty⟩

/-- What stands at a place; the top is a directory. -/
def node? (disk : Disk) : Place → Option Node
  | [] => some .directory
  | place => disk.nodes.lookup place

def setNode (disk : Disk) (place : Place) (node : Node) : Disk :=
  { disk with nodes := (place, node) :: disk.nodes.filter (·.1 ≠ place) }

/-- The disk without the places that satisfy the test. -/
def removeNodes (disk : Disk) (test : Place → Bool) : Disk :=
  { disk with nodes := disk.nodes.filter fun (place, _) ↦ !test place }

def content (disk : Disk) (number : Nat) : ByteArray := disk.files[number]?.getD .empty

def setContent (disk : Disk) (number : Nat) (bytes : ByteArray) : Disk :=
  { disk with files := disk.files.setIfInBounds number bytes }

/-! ## Finding places -/

/-- The longest name that a directory takes, in bytes. -/
def longestName : Nat := 255

/-- The place that steps lead to from a place. All but the last step have to lead to something,
and steps are taken from directories only. -/
def walk (disk : Disk) (here : Place) : List String → Except Fault Place
  | [] => .ok here
  | name :: rest =>
    match disk.node? here with
    | none => .error .notFound
    | some (.target _) => .error .notADirectory
    | some .directory =>
      if name = ".." then disk.walk here.dropLast rest
      else if longestName < name.utf8ByteSize then .error .nameTooLong
      else disk.walk (here ++ [name]) rest

/-- The place that a path names. Paths that are not absolute start at the top as well. -/
def locate (disk : Disk) (path : Path) : Except Fault Place :=
  if path.isClean then disk.walk [] path.steps else .error .nullInPath

def isDirectory (disk : Disk) (steps : List String) : Bool :=
  match disk.walk [] steps with
  | .ok place => disk.node? place = some .directory
  | .error _ => false

/-! ## Directories -/

def makeDirectory (disk : Disk) (steps : List String) : Except Fault Disk :=
  match disk.walk [] steps with
  | .error fault => .error fault
  | .ok place =>
    match disk.node? place with
    | some _ => .error .alreadyExists
    | none => .ok (disk.setNode place .directory)

/-- Make a directory, and before it those it lies in where they are missing. The steps come last
one first. What was made before a fault stays. -/
def makeDirectories (disk : Disk) : List String → Disk × Except Fault Unit
  | [] => (disk, .ok ())
  | name :: outer =>
    let steps := (name :: outer).reverse
    match disk.makeDirectory steps with
    | .ok made => (made, .ok ())
    | .error .notFound =>
      match disk.makeDirectories outer with
      | (made, .error fault) => (made, .error fault)
      | (made, .ok ()) =>
        match made.makeDirectory steps with
        | .ok finished => (finished, .ok ())
        | .error fault => (made, if made.isDirectory steps then .ok () else .error fault)
    | .error fault => (disk, if disk.isDirectory steps then .ok () else .error fault)

/-- Make the directories that the file of a path lies in. -/
def makeParents (disk : Disk) (path : Path) : Disk × Except Fault Unit :=
  match path.steps.reverse with
  | [] => (disk, .ok ())
  | _ :: outer =>
    if outer.all fun name ↦ name.toList.all (· ≠ '\x00') then disk.makeDirectories outer
    else (disk, .error .nullInPath)

/-! ## Files -/

/-- How a file is opened for writing. -/
inductive Access
  /-- Any content is dropped, and writing starts at the front. -/
  | overwrite
  /-- Every write goes to the end. -/
  | append
  deriving DecidableEq, Repr

/-- An open file. -/
structure Handle where
  target : Target
  access : Access
  /-- Where the next write that does not go to the end starts -/
  position : Nat
  deriving DecidableEq, Repr

/-- Open a file for writing; a missing file is made. -/
def openForWriting (disk : Disk) (path : Path) (access : Access) :
    Except Fault (Handle × Disk) :=
  match disk.locate path with
  | .error fault => .error fault
  | .ok place =>
    match disk.node? place with
    | some .directory => .error .isADirectory
    | some (.target target) =>
      if path.namesDirectory then .error .notADirectory
      else
        match target, access with
        | .file number, .overwrite => .ok (⟨target, access, 0⟩, disk.setContent number .empty)
        | _, _ => .ok (⟨target, access, 0⟩, disk)
    | none =>
      if path.namesDirectory then .error .isADirectory
      else
        match disk.node? place.dropLast with
        | some .directory =>
          let target := Target.file disk.files.size
          .ok (⟨target, access, 0⟩,
            { disk with files := disk.files.push .empty }.setNode place (.target target))
        | some (.target _) => .error .notADirectory
        | none => .error .notFound

/-- How many bytes an open file holds. -/
def size (disk : Disk) (handle : Handle) : Nat :=
  match handle.target with
  | .file number => (disk.content number).size
  | .full => 0

/-- A content with bytes laid over it from a position on; a gap is filled with zeros. -/
def overlay (content : ByteArray) (position : Nat) (bytes : ByteArray) : ByteArray :=
  content.extract 0 position ++ ⟨Array.replicate (position - content.size) 0⟩ ++ bytes ++
    content.extract (position + bytes.size) content.size

/-- Write bytes to an open file, all of them or none. Nothing is asked of the disk for no
bytes. -/
def write (disk : Disk) (handle : Handle) (bytes : ByteArray) :
    Except Fault Unit × Handle × Disk :=
  if bytes.size = 0 then (.ok (), handle, disk)
  else
    let later := { disk with refusals := disk.refusals.tail }
    match disk.refusals.head?.join with
    | some fault => (.error fault, handle, later)
    | none =>
      match handle.target with
      | .full => (.error .noSpace, handle, later)
      | .file number =>
        let old := later.content number
        let new := match handle.access with
          | .append => old ++ bytes
          | .overwrite => overlay old handle.position bytes
        (.ok (), { handle with position := handle.position + bytes.size },
          later.setContent number new)

/-- The bytes of the file that a path names. -/
def read (disk : Disk) (path : Path) : Except Fault ByteArray :=
  match disk.locate path with
  | .error fault => .error fault
  | .ok place =>
    match disk.node? place with
    | none => .error .notFound
    | some .directory => .error .isADirectory
    | some (.target target) =>
      if path.namesDirectory then .error .notADirectory
      else
        match target with
        | .file number => .ok (disk.content number)
        | .full => .ok .empty

def readText (disk : Disk) (path : Path) : Except Fault String :=
  match disk.read path with
  | .error fault => .error fault
  | .ok bytes =>
    match String.fromUTF8? bytes with
    | some text => .ok text
    | none => .error .notText

/-! ## Changes from outside -/

/-- Give a file a content, and make it and its directories where they are missing. -/
def put (disk : Disk) (path : Path) (bytes : ByteArray) : Disk :=
  let (made, _) := disk.makeParents path
  match made.openForWriting path .overwrite with
  | .error _ => made
  | .ok (handle, opened) =>
    match handle.target with
    | .file number => opened.setContent number bytes
    | .full => opened

/-- Make the directory of a path and those it lies in. -/
def putDirectory (disk : Disk) (path : Path) : Disk :=
  (disk.makeDirectories path.steps.reverse).1

/-- Let a path name the full device, and make the directories it lies in. -/
def putFull (disk : Disk) (path : Path) : Disk :=
  let (made, _) := disk.makeParents path
  match made.locate path with
  | .ok place => made.setNode place (.target .full)
  | .error _ => made

def removeFile (disk : Disk) (path : Path) : Disk :=
  match disk.locate path with
  | .ok place =>
    match disk.node? place with
    | some (.target _) => disk.removeNodes (· = place)
    | _ => disk
  | .error _ => disk

def removeBelow (disk : Disk) (path : Path) : Disk :=
  match disk.locate path with
  | .ok place => disk.removeNodes fun other ↦ place.isPrefixOf other && other ≠ place
  | .error _ => disk

/-- The regular files below a directory with their contents, by the names that lead from it to
them. -/
def filesBelow (disk : Disk) (path : Path) : List (Place × ByteArray) :=
  match disk.locate path with
  | .ok top =>
    disk.nodes.filterMap fun (place, node) ↦
      match node with
      | .target (.file number) =>
        if top.isPrefixOf place && place ≠ top then
          some (place.drop top.length, disk.content number)
        else none
      | _ => none
  | .error _ => []

end Disk

end GpuCounters.Storage
