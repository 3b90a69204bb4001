import GpuCounters.Decimal.Integer
import GpuCounters.Decimal.Layout
import GpuCounters.Decimal.Reading
import GpuCounters.Settings.Basic
import GpuCounters.Toml.Reader

/-!
# Sources of settings

A setting comes as a loose value from a file or from the environment. What is wanted decides how it
is read: numbers and truth values have texts, and some texts and all numbers have a truth value.
-/

namespace GpuCounters.Settings

inductive Loose
  | text (s : String)
  | bool (b : Bool)
  | integer (n : Int)
  | float (x : Binary64)
  | array
  | table (entries : List (String × Loose))
  deriving Repr

/-- Loose values by key. -/
abbrev Source := List (String × Loose)

/-- A text with the ASCII letters in lower case. -/
def fold (text : String) : String := Mode.lowercase text

namespace Loose

def text? : Loose → Option String
  | .text s => some s
  | .bool b => some (if b then "true" else "false")
  | .integer n => some (toString n)
  | .float x => some (String.ofList (Decimal.plain.render x))
  | .array => none
  | .table _ => none

def boolOfText? (text : String) : Option Bool :=
  match fold text with
  | "1" | "true" | "on" | "yes" => some true
  | "0" | "false" | "off" | "no" => some false
  | _ => none

/-- The truth value of a value; a number is true unless it is zero. -/
def bool? : Loose → Option Bool
  | .text s => boolOfText? s
  | .bool b => some b
  | .integer n => some (n ≠ 0)
  | .float x => some (x ≠ .zero false && x ≠ .zero true)
  | .array => none
  | .table _ => none

/-- The sampling mode that a full name says, in any letter case. -/
def modeOfName? (name : String) : Option Mode :=
  if fold name = Mode.event.name then some .event
  else if fold name = Mode.time.name then some .time
  else none

/-- The sampling mode of a value: a name, or a table with a name for its only key. -/
def mode? : Loose → Option Mode
  | .text s => modeOfName? s
  | .table [(name, _)] => modeOfName? name
  | _ => none

mutual

def ofToml : Toml.Value → Loose
  | .text s => .text s
  | .integer n => .integer n
  | .float x => .float x
  | .bool b => .bool b
  | .moment m => .text m.toText
  | .array _ _ => .array
  | .table _ entries => .table (ofEntries entries)

def ofEntries : List (String × Toml.Value) → List (String × Loose)
  | [] => []
  | (key, value) :: rest => (key, ofToml value) :: ofEntries rest

end

/-- The value of a text that does not say what it is: a truth value, a whole number, a number or a
text, whichever fits first. -/
def ofText (text : String) : Loose :=
  match fold text with
  | "true" => .bool true
  | "false" => .bool false
  | _ =>
    match Decimal.readSigned? (Nat.pow 2 63) text.toList with
    | some n => .integer n
    | none =>
      match Decimal.readDouble? text.toList with
      | some x => .float x
      | none => .text text

end Loose

/-! ## Keys -/

/-- A step into a value. -/
inductive Part
  /-- The entry of a table -/
  | entry (key : String)
  /-- An element of an array, counted from its end if below zero -/
  | element (index : Int)
  deriving DecidableEq, Repr

def isKeyChar (c : Char) : Bool := c.isAlphanum || c = '_' || c = '-' || c = ' '

def isGap (c : Char) : Bool := c = ' ' || c = '\t'

/-- An index, and what follows the bracket that ends it. -/
def takeIndex? (text : List Char) : Option (Int × List Char) :=
  let (sign, digits) := match text.dropWhile isGap with
    | '-' :: rest => (['-'], rest)
    | rest => ([], rest)
  match Decimal.readSigned? (Nat.pow 2 63) (sign ++ digits.takeWhile Char.isDigit),
    (digits.dropWhile Char.isDigit).dropWhile isGap with
  | some index, ']' :: rest => some (index, rest)
  | _, _ => none

/-- The steps behind the first part of a key. -/
def partsOf : Nat → List Char → Option (List Part)
  | _, [] => some []
  | 0, _ => none
  | fuel + 1, '.' :: rest =>
    let word := rest.takeWhile isKeyChar
    if word = [] then none
    else (partsOf fuel (rest.dropWhile isKeyChar)).map (.entry (String.ofList word) :: ·)
  | fuel + 1, '[' :: rest =>
    match takeIndex? rest with
    | some (index, rest) => (partsOf fuel rest).map (.element index :: ·)
    | none => none
  | _ + 1, _ :: _ => none

/-- The entry that a key names, and the steps from it on. A key that is no such path names the
entry of its whole text. -/
def pathOf (key : String) : String × List Part :=
  let cs := key.toList
  let word := cs.takeWhile isKeyChar
  match partsOf (cs.length + 1) (cs.dropWhile isKeyChar) with
  | some parts => if word = [] then (key, []) else (String.ofList word, parts)
  | none => (key, [])

/-- A source with the value of a key replaced, or a new one behind the others. -/
def Source.set : Source → String → Loose → Source
  | [], key, value => [(key, value)]
  | (name, old) :: rest, key, value =>
    if name = key then (key, value) :: rest else (name, old) :: Source.set rest key value

/-- A value with another one put at the end of some steps; what is on the way and cannot be stepped
into is replaced. Nothing tells arrays apart by their elements. An array grows up to the index that
is put there, as long as it counts from zero and memory lasts. -/
def place : Option Loose → List Part → Loose → Loose
  | _, [], value => value
  | _, .element _ :: _, _ => .array
  | old, .entry key :: rest, value =>
    let entries := match old with
      | some (.table entries) => entries
      | _ => []
    .table (Source.set entries key (place (entries.lookup key) rest value))

/-- A source with one more value, at the place that the key names. -/
def Source.add (source : Source) (key : String) (value : Loose) : Source :=
  let (root, parts) := pathOf key
  source.set root (place (source.lookup root) parts value)

/-- What the name of a variable that is a setting starts with, in any letter case. -/
def variableMark : String := "mdlens_"

def variableKey? (name : String) : Option String :=
  let folded := (fold name).toList
  if variableMark.toList.isPrefixOf folded then
    some (String.ofList (folded.drop variableMark.length))
  else none

/-- A source with the settings of variables added; a variable outdoes the source. -/
def Source.addVariables (source : Source) (environment : List (String × String)) : Source :=
  environment.foldl
    (fun source (name, text) ↦
      match variableKey? name with
      | some key => source.add key (.ofText text)
      | none => source)
    source

def Source.ofEntries (entries : Toml.Entries) : Source :=
  (Loose.ofEntries entries).foldl (fun source (key, value) ↦ source.add key value) []

end GpuCounters.Settings
