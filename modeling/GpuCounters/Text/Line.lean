import GpuCounters.Text.Split

/-!
# Lines

A text is cut into lines at its line feeds. A carriage return before a line feed belongs to the
line's end, and a text that ends in a line feed has no line after it.
-/

namespace GpuCounters.Text

/-- The pieces of a text between its line feeds; the last one is what follows the last of them. -/
def segments (text : List Char) : List (List Char) := split (· = '\n') text

@[simp] theorem segments_nil : segments [] = [[]] := rfl

@[simp] theorem segments_lineFeed (text : List Char) :
    segments ('\n' :: text) = [] :: segments text := by
  simp [segments]

/-- A line without the carriage return that a two-character line end leaves behind. -/
def dropReturn (line : List Char) : List Char :=
  if line.getLast? = some '\r' then line.dropLast else line

/-- The lines of a text: each piece that a line feed ends, and the rest after the last line feed
if there is any. -/
def lines (text : List Char) : List (List Char) :=
  let pieces := segments text
  let last := pieces.getLast?.getD []
  pieces.dropLast.map dropReturn ++ if last = [] then [] else [last]

@[simp] theorem lines_nil : lines [] = [] := by simp [lines]

end GpuCounters.Text
