/-!
# Fields

A line of a dump is a list of fields with commas between them. A field that holds a comma, a quote
or a line end is written between quotes, with each of its own quotes doubled.
-/

namespace GpuCounters.Dump

/-- The characters that a field may hold between quotes only. -/
def needsQuotes (c : Char) : Bool := c = ',' || c = '"' || c = '\n' || c = '\r'

def doubleQuotes (field : List Char) : List Char :=
  field.flatMap fun c ↦ if c = '"' then ['"', '"'] else [c]

def escapeField (field : List Char) : List Char :=
  if field.any needsQuotes then '"' :: (doubleQuotes field ++ ['"']) else field

def joinFields : List (List Char) → List Char
  | [] => []
  | [field] => field
  | field :: rest => field ++ ',' :: joinFields rest

/-- A list of fields whose first one starts with one more character. -/
def prepend (c : Char) : List (List Char) → List (List Char)
  | [] => [[c]]
  | field :: rest => (c :: field) :: rest

/-- The fields of a line, read between quotes or outside of them. Between quotes a comma is an
ordinary character, and two quotes stand for one. -/
def splitFrom : Bool → List Char → List (List Char)
  | _, [] => [[]]
  | true, '"' :: '"' :: rest => prepend '"' (splitFrom true rest)
  | quoted, c :: rest =>
    if c = '"' then splitFrom (!quoted) rest
    else if c = ',' ∧ quoted = false then [] :: splitFrom quoted rest
    else prepend c (splitFrom quoted rest)

def splitFields (line : List Char) : List (List Char) := splitFrom false line

@[simp] theorem prepend_ne_nil (c : Char) (fields : List (List Char)) : prepend c fields ≠ [] := by
  cases fields <;> simp [prepend]

@[simp] theorem escapeField_nil : escapeField [] = [] := rfl

@[simp] theorem joinFields_singleton (field : List Char) : joinFields [field] = field := rfl

theorem joinFields_cons {fields : List (List Char)} (h : fields ≠ []) (field : List Char) :
    joinFields (field :: fields) = field ++ ',' :: joinFields fields := by
  cases fields with
  | nil => simp at h
  | cons _ _ => rfl

end GpuCounters.Dump
