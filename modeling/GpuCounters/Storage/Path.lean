import GpuCounters.Text.Split

/-!
# Paths

A path is the text that names a file. Two paths are the same place by name if they have the same
steps; empty steps and steps that stay in place do not count.
-/

namespace GpuCounters.Storage

structure Path where
  text : String
  deriving DecidableEq, Repr, Inhabited

namespace Path

/-- The pieces of a text between its slashes. -/
def pieces (text : List Char) : List (List Char) := Text.split (· = '/') text

/-- Whether a path starts at the top of all directories. -/
def isAbsolute (path : Path) : Bool := path.text.toList.head? = some '/'

/-- The steps of a path from directory to directory, without empty ones and those that stay in
place. -/
def steps (path : Path) : List String :=
  ((pieces path.text.toList).filter fun piece ↦ piece ≠ [] ∧ piece ≠ ['.']).map String.ofList

/-- Whether a path says by its end that it names a directory. -/
def namesDirectory (path : Path) : Bool :=
  match (pieces path.text.toList).getLast? with
  | some piece => piece = [] || piece = ['.']
  | none => true

/-- Whether two paths are the same place by name. -/
def same (path other : Path) : Bool :=
  path.isAbsolute = other.isAbsolute && path.steps = other.steps

/-- A path below a directory. An absolute path stands for itself, and no second slash is set
behind one. -/
def join (directory : Path) (name : String) : Path :=
  if name.toList.head? = some '/' then ⟨name⟩
  else
    match directory.text.toList.getLast? with
    | none => ⟨name⟩
    | some '/' => ⟨directory.text ++ name⟩
    | some _ => ⟨directory.text ++ "/" ++ name⟩

/-- Whether a path can be handed to the system, which ends texts at the null character. -/
def isClean (path : Path) : Bool := path.text.toList.all (· ≠ '\x00')

@[simp] theorem same_refl (path : Path) : path.same path = true := by simp [same]

end Path

end GpuCounters.Storage
