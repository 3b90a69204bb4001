import GpuCounters.Json.Document

/-!
# Writing JSON

A document is written without blanks, or with one element or member a line and two blanks of
indentation a level. In texts the quote, the backslash and the controls below the space are
escaped, and all other characters stand for themselves.
-/

namespace GpuCounters.Json

def escape (c : Char) : List Char :=
  if c = '"' then ['\\', '"']
  else if c = '\\' then ['\\', '\\']
  else if c = '\x08' then ['\\', 'b']
  else if c = '\t' then ['\\', 't']
  else if c = '\n' then ['\\', 'n']
  else if c = '\x0c' then ['\\', 'f']
  else if c = '\r' then ['\\', 'r']
  else if c.toNat < 0x20 then
    ['\\', 'u', '0', '0', Nat.digitChar (c.toNat / 16), Nat.digitChar (c.toNat % 16)]
  else [c]

/-- A text between its quotes. A text that is no Unicode text is not written. -/
def writeText : Text → List Char
  | some value => '"' :: (value.toList.flatMap escape ++ ['"'])
  | none => ['"', '"']

/-- The blanks before a line of the given level. -/
def indentation (level : Nat) : List Char := '\n' :: List.replicate (2 * level) ' '

def separated (comma : List Char) : List (List Char) → List Char
  | [] => []
  | [piece] => piece
  | piece :: rest => piece ++ comma ++ separated comma rest

namespace Document

mutual

/-- The document without blanks. -/
def compact : Document → List Char
  | .null => "null".toList
  | .bool value => (if value then "true" else "false").toList
  | .number literal => literal
  | .text value => writeText value
  | .array elements => '[' :: (separated [','] (compactElements elements) ++ [']'])
  | .object members => '\x7b' :: (separated [','] (compactMembers members) ++ ['\x7d'])

def compactElements : List Document → List (List Char)
  | [] => []
  | element :: rest => compact element :: compactElements rest

def compactMembers : List (Text × Document) → List (List Char)
  | [] => []
  | (key, value) :: rest => (writeText key ++ ':' :: compact value) :: compactMembers rest

end

mutual

/-- The document with one element or member a line, at the given level. -/
def indented (level : Nat) : Document → List Char
  | .null => "null".toList
  | .bool value => (if value then "true" else "false").toList
  | .number literal => literal
  | .text value => writeText value
  | .array [] => ['[', ']']
  | .array (element :: rest) =>
    '[' :: (indentation (level + 1) ++ separated (',' :: indentation (level + 1))
      (indented (level + 1) element :: indentedElements (level + 1) rest) ++
      indentation level ++ [']'])
  | .object [] => ['\x7b', '\x7d']
  | .object ((key, value) :: rest) =>
    '\x7b' :: (indentation (level + 1) ++ separated (',' :: indentation (level + 1))
      ((writeText key ++ ':' :: ' ' :: indented (level + 1) value) ::
        indentedMembers (level + 1) rest) ++
      indentation level ++ ['\x7d'])

def indentedElements (level : Nat) : List Document → List (List Char)
  | [] => []
  | element :: rest => indented level element :: indentedElements level rest

def indentedMembers (level : Nat) : List (Text × Document) → List (List Char)
  | [] => []
  | (key, value) :: rest =>
    (writeText key ++ ':' :: ' ' :: indented level value) :: indentedMembers level rest

end

def toCompact (document : Document) : String := String.ofList document.compact

/-- The text of a document with one element or member a line. -/
def toIndented (document : Document) : String := String.ofList (document.indented 0)

end Document

end GpuCounters.Json
