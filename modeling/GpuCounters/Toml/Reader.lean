import GpuCounters.Toml.Scalar
import GpuCounters.Toml.Text

/-!
# Reading TOML

A document is read as a list of statements, which then build its table one by one. A statement
that gives a key a second value, or opens a table a second time, makes the document fail.
-/

namespace GpuCounters.Toml

/-! ## Statements -/

inductive Statement
  /-- A key and its value -/
  | assign (key : List String) (value : Value)
  /-- The header of a table -/
  | table (path : List String)
  /-- The header of a table that is the next element of an array -/
  | element (path : List String)
  deriving Repr

def dropBlanks (text : List Char) : List Char := text.dropWhile fun c ↦ c = ' ' || c = '\t'

/-- Whether a character may stand in a key without quotes. -/
def isBare (c : Char) : Bool := c.isAlphanum || c = '_' || c = '-'

/-- One part of a key. -/
def takeSimpleKey (text : List Char) : Option (String × List Char) :=
  match text with
  | '"' :: _ => (takeShortText text).map fun (cs, rest) ↦ (String.ofList cs, rest)
  | '\'' :: _ => (takeShortText text).map fun (cs, rest) ↦ (String.ofList cs, rest)
  | _ =>
    let word := text.takeWhile isBare
    if word = [] then none else some (String.ofList word, text.dropWhile isBare)

def takeKey : Nat → List Char → Option (List String × List Char)
  | 0, _ => none
  | fuel + 1, text => do
    let (part, rest) ← takeSimpleKey (dropBlanks text)
    match dropBlanks rest with
    | '.' :: rest =>
      let (parts, rest) ← takeKey fuel rest
      some (part :: parts, rest)
    | rest => some ([part], rest)

/-- The text from the end of a comment on, if one starts in front. -/
def dropComment (text : List Char) : List Char :=
  match text with
  | '#' :: rest => rest.dropWhile fun c ↦ c = '\t' || 0x20 ≤ c.toNat
  | text => text

/-- A text without the blanks, comments and line ends in front. -/
def dropFiller : Nat → List Char → List Char
  | 0, text => text
  | fuel + 1, text =>
    match dropComment (dropBlanks text) with
    | '\n' :: rest => dropFiller fuel rest
    | rest => rest

/-- Entries with a value set at a path that has none yet. Tables on the way are made, or were made
in the same way. -/
def assign : Entries → List String → Value → Option Entries
  | _, [], _ => none
  | entries, [key], value =>
    match entries.get? key with
    | some _ => none
    | none => some (entries.set key value)
  | entries, key :: path, value =>
    match entries.get? key with
    | none => (assign [] path value).map fun inner ↦ entries.set key (.table .key inner)
    | some (.table .key inner) =>
      (assign inner path value).map fun inner ↦ entries.set key (.table .key inner)
    | some _ => none

/-- A date and, behind a blank, a time, or any other word. -/
def takeWord (text : List Char) : List Char × List Char :=
  let word := text.takeWhile isWordChar
  let rest := text.dropWhile isWordChar
  match rest with
  | ' ' :: behind =>
    let time := behind.takeWhile isWordChar
    if Moment.isDate word ∧ time ≠ [] then
      (word ++ ' ' :: time, behind.dropWhile isWordChar)
    else (word, rest)
  | _ => (word, rest)

mutual

def takeValue : Nat → List Char → Option (Value × List Char)
  | 0, _ => none
  | fuel + 1, text =>
    match text with
    | '"' :: _ => (takeText text).map fun (cs, rest) ↦ (.text (String.ofList cs), rest)
    | '\'' :: _ => (takeText text).map fun (cs, rest) ↦ (.text (String.ofList cs), rest)
    | '[' :: rest => (takeElements fuel rest).map fun (values, rest) ↦ (.array false values, rest)
    | '\x7b' :: rest =>
      match dropBlanks rest with
      | '\x7d' :: rest => some (.table .place [], rest)
      | rest => (takeEntries fuel [] rest).map fun (entries, rest) ↦ (.table .place entries, rest)
    | _ =>
      let (word, rest) := takeWord text
      (scalar? word).map (·, rest)

def takeElements : Nat → List Char → Option (List Value × List Char)
  | 0, _ => none
  | fuel + 1, text =>
    match dropFiller (text.length + 1) text with
    | ']' :: rest => some ([], rest)
    | text => do
      let (value, rest) ← takeValue fuel text
      match dropFiller (rest.length + 1) rest with
      | ']' :: rest => some ([value], rest)
      | ',' :: rest =>
        let (values, rest) ← takeElements fuel rest
        some (value :: values, rest)
      | _ => none

/-- The entries of a table that is written in place, behind those read before, up to its end. -/
def takeEntries : Nat → Entries → List Char → Option (Entries × List Char)
  | 0, _, _ => none
  | fuel + 1, entries, text => do
    let (key, rest) ← takeKey (text.length + 1) text
    match rest with
    | '=' :: rest =>
      let (value, rest) ← takeValue fuel (dropBlanks rest)
      let entries ← assign entries key value
      match dropBlanks rest with
      | '\x7d' :: rest => some (entries, rest)
      | ',' :: rest => takeEntries fuel entries rest
      | _ => none
    | _ => none

end

def takeStatement (text : List Char) : Option (Statement × List Char) :=
  match text with
  | '[' :: '[' :: rest => do
    let (path, rest) ← takeKey (rest.length + 1) rest
    match rest with
    | ']' :: ']' :: rest => some (.element path, rest)
    | _ => none
  | '[' :: rest => do
    let (path, rest) ← takeKey (rest.length + 1) rest
    match rest with
    | ']' :: rest => some (.table path, rest)
    | _ => none
  | _ => do
    let (key, rest) ← takeKey (text.length + 1) text
    match rest with
    | '=' :: rest =>
      let (value, rest) ← takeValue (rest.length + 1) (dropBlanks rest)
      some (.assign key value, rest)
    | _ => none

/-- The statements of a document, each on lines of its own. -/
def takeStatements : Nat → List Char → Option (List Statement)
  | 0, _ => none
  | fuel + 1, text =>
    match dropFiller (text.length + 1) text with
    | [] => some []
    | text => do
      let (statement, rest) ← takeStatement text
      match dropComment (dropBlanks rest) with
      | [] => some [statement]
      | '\n' :: rest => (takeStatements fuel rest).map (statement :: ·)
      | _ => none

/-! ## Building the table -/

/-- Change the table that a header names. Tables on the way are made, or were made in the same way,
and an array on the way stands for its last element. -/
def modifyAt (change : Entries → Option Entries) : List String → Entries → Option Entries
  | [], entries => change entries
  | key :: path, entries =>
    match entries.get? key with
    | none => (modifyAt change path []).map fun inner ↦ entries.set key (.table .header inner)
    | some (.table .header inner) =>
      (modifyAt change path inner).map fun inner ↦ entries.set key (.table .header inner)
    | some (.array true elements) =>
      match elements.getLast? with
      | some (.table origin inner) =>
        (modifyAt change path inner).map fun inner ↦
          entries.set key (.array true (elements.dropLast ++ [.table origin inner]))
      | _ => none
    | some _ => none

/-- Add an empty table to the array at a path. -/
def addElement (path : List String) (entries : Entries) : Option Entries :=
  match path.getLast? with
  | none => none
  | some key =>
    modifyAt
      (fun entries ↦
        match entries.get? key with
        | none => some (entries.set key (.array true [.table .header []]))
        | some (.array true elements) =>
          some (entries.set key (.array true (elements ++ [.table .header []])))
        | some _ => none)
      path.dropLast entries

/-- A table under construction. -/
structure Builder where
  entries : Entries := []
  /-- The table that keys go to -/
  here : List String := []
  /-- The tables and arrays that had a header, as far as no later element replaces them -/
  opened : List (List String) := []

def Builder.follow (builder : Builder) : Statement → Option Builder
  | .assign key value =>
    (modifyAt (fun entries ↦ assign entries key value) builder.here builder.entries).map
      fun entries ↦ { builder with entries }
  | .table path =>
    if path ∈ builder.opened then none
    else
      (modifyAt some path builder.entries).map fun entries ↦
        ⟨entries, path, path :: builder.opened⟩
  | .element path =>
    (addElement path builder.entries).map fun entries ↦
      ⟨entries, path, path :: builder.opened.filter fun other ↦ !path.isPrefixOf other⟩

def Builder.followAll : Builder → List Statement → Option Builder
  | builder, [] => some builder
  | builder, statement :: rest => (builder.follow statement).bind fun next ↦ next.followAll rest

/-- The mark that may stand before a document. -/
def byteOrderMark : Char := '\ufeff'

/-- The table of a document. -/
def read? (text : String) : Option Entries := do
  let cs := match foldLineEnds text.toList with
    | c :: rest => if c = byteOrderMark then rest else c :: rest
    | [] => []
  let statements ← takeStatements (cs.length + 1) cs
  let builder ← ({} : Builder).followAll statements
  some builder.entries

end GpuCounters.Toml
