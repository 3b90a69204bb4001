/-!
# JSON documents

A document is kept as it is written: numbers as their literals, members in order, repeated keys
and all. What a literal is worth is for the reader of the document to say.
-/

namespace GpuCounters.Json

/-- A text of a document; `none` is one with half of a surrogate pair in it, which no Unicode text
is. -/
abbrev Text := Option String

inductive Document
  | null
  | bool (value : Bool)
  /-- A number as it is written -/
  | number (literal : List Char)
  | text (value : Text)
  | array (elements : List Document)
  /-- The members in order -/
  | object (members : List (Text × Document))
  deriving Repr

namespace Document

def ofString (value : String) : Document := .text (some value)

def ofNat (n : Nat) : Document := .number (Nat.toDigits 10 n)

def ofMembers (members : List (String × Document)) : Document :=
  .object (members.map fun (key, value) ↦ (some key, value))

end Document

end GpuCounters.Json
