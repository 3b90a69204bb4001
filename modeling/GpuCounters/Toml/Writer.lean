/-!
# Writing TOML texts

A text is written in the first form that shows it as it is: between double quotes, between single
quotes, and then the same for several lines. A text that has to be escaped in every form stands
between double quotes. A text with line ends starts on the line after its opening quotes.
-/

namespace GpuCounters.Toml

inductive Form
  /-- Between double quotes, with escapes -/
  | basic
  /-- Between single quotes, without escapes -/
  | literal
  /-- Between threefold double quotes, with escapes -/
  | basicLines
  /-- Between threefold single quotes, without escapes -/
  | literalLines
  deriving DecidableEq, Repr

def longestRun (c : Char) (text : List Char) : Nat :=
  (text.foldl
    (fun (run, best) d ↦ if d = c then (run + 1, max best (run + 1)) else (0, best)) (0, 0)).2

/-- Whether a character cannot be shown as it is. -/
def isControl (c : Char) : Bool :=
  c ≠ '\t' && c ≠ '\n' && (c.toNat ≤ 0x1F || c.toNat = 0x7F)

def formOf (text : List Char) : Form :=
  let controls := text.any isControl
  let backslash := text.contains '\\'
  let newline := text.contains '\n'
  let doubles := longestRun '"' text
  let singles := longestRun '\'' text
  if !controls && !backslash && doubles = 0 && !newline then .basic
  else if !controls && singles = 0 && !newline then .literal
  else if !controls && !backslash && doubles ≤ 2 then .basicLines
  else if !controls && singles ≤ 2 then .literalLines
  else if newline then .basicLines
  else .basic

/-- A character of a text with escapes, where as many quotes stand directly before it as `run`
says, and `allowed` may stand together. -/
def writeChar (allowed run : Nat) (lines : Bool) (c : Char) : List Char :=
  if c = '"' then if run < allowed then ['"'] else ['\\', '"']
  else if c = '\\' then ['\\', '\\']
  else if c = '\x08' then ['\\', 'b']
  else if c = '\t' then ['\\', 't']
  else if c = '\n' then if lines then ['\n'] else ['\\', 'n']
  else if c = '\x0c' then ['\\', 'f']
  else if c = '\r' then ['\\', 'r']
  else if isControl c then
    let digits := (Nat.toDigits 16 c.toNat).map Char.toUpper
    '\\' :: 'u' :: (List.replicate (4 - digits.length) '0' ++ digits)
  else [c]

def writeChars (allowed : Nat) (lines : Bool) : Nat → List Char → List Char
  | _, [] => []
  | run, c :: rest =>
    let next := if c = '"' ∧ run < allowed then run + 1 else 0
    writeChar allowed run lines c ++ writeChars allowed lines next rest

def writeText (text : List Char) : List Char :=
  let opening := if text.contains '\n' then ['\n'] else []
  match formOf text with
  | .basic => '"' :: (writeChars 0 false 0 text ++ ['"'])
  | .literal => '\'' :: (text ++ ['\''])
  | .basicLines =>
    let quotes := ['"', '"', '"']
    quotes ++ opening ++ writeChars 2 true 0 text ++ quotes
  | .literalLines =>
    let quotes := ['\'', '\'', '\'']
    quotes ++ opening ++ text ++ quotes

def textLine (key text : String) : String :=
  key ++ " = " ++ String.ofList (writeText text.toList) ++ "\n"

def boolLine (key : String) (value : Bool) : String :=
  key ++ " = " ++ (if value then "true" else "false") ++ "\n"

end GpuCounters.Toml
