import GpuCounters.Counter.Cell
import GpuCounters.Dump.Error
import GpuCounters.Dump.Layout
import GpuCounters.Text.Line

/-!
# Reading dumps

A dump says what its columns hold by their names alone. Rows are the lines behind the units that
hold more than white space. An empty cell says that a report did not have the metric; in a column
of further information it is an empty text, since these values have no names.
-/

namespace GpuCounters.Dump

open Storage

/-- What a dump holds. -/
structure Contents where
  mode : Mode
  metrics : List Descriptor
  information : List Descriptor
  /-- The reports with their labels -/
  rows : List (String × Report)
  deriving DecidableEq, Repr

/-- What a column holds. -/
inductive Column
  /-- The values of a metric -/
  | metric (descriptor : Descriptor)
  /-- The greatest values of the metric before it -/
  | max (metric : String)
  /-- Values of further information -/
  | information (descriptor : Descriptor)
  deriving DecidableEq, Repr

namespace Column

/-- What a column of the given name and unit holds behind columns of which `last` is the last
metric. -/
def ofName (last : Option String) (name unit : List Char) : Column :=
  if informationMark.toList.isPrefixOf name then
    .information ⟨String.ofList (name.drop informationMark.length), String.ofList unit⟩
  else
    match last with
    | some before =>
      if before.toList ++ maxMark.toList = name then .max before
      else .metric ⟨String.ofList name, String.ofList unit⟩
    | none => .metric ⟨String.ofList name, String.ofList unit⟩

/-- What columns hold behind those of which `last` is the last metric. -/
def ofNames (last : Option String) : List (List Char × List Char) → List Column
  | [] => []
  | (name, unit) :: rest =>
    let column := ofName last name unit
    let last := match column with
      | .metric descriptor => some descriptor.name
      | _ => last
    column :: ofNames last rest

def metric? : Column → Option Descriptor
  | .metric descriptor => some descriptor
  | _ => none

def information? : Column → Option Descriptor
  | .information descriptor => some descriptor
  | _ => none

end Column

/-- The metrics with a greatest value given to the last one, if it has the name. -/
def giveMax (metrics : List Metric) (name : String) (value : Value) : List Metric :=
  match metrics.getLast? with
  | some last =>
    if last.name = name then metrics.dropLast ++ [{ last with max? := some value }] else metrics
  | none => metrics

def readCell (report : Report) (column : Column) (text : List Char) : Report :=
  match column with
  | .metric descriptor =>
    if text = [] then report
    else { report with
      metrics := report.metrics ++ [⟨descriptor.name, .ofCell (String.ofList text), none⟩] }
  | .max name =>
    if text = [] then report
    else { report with metrics := giveMax report.metrics name (.ofCell (String.ofList text)) }
  | .information _ =>
    { report with
      information := report.information ++
        [if text = [] then .text "" else .ofCell (String.ofList text)] }

def readCells (columns : List Column) (cells : List (List Char)) : Report :=
  (columns.zip cells).foldl (fun report (column, text) ↦ readCell report column text) {}

/-- The row of a line, of which the number is known. -/
def readRow (columns : List Column) (line : List Char) (number : Nat) :
    Except Malformation (String × Report) :=
  let fields := splitFields line
  if fields.length = columns.length + 1 then
    .ok (String.ofList (fields.headD []), readCells columns fields.tail)
  else .error (.fieldCount number fields.length (columns.length + 1))

/-- The rows of lines, the first of which has the given number. -/
def readRows (columns : List Column) :
    List (List Char) → Nat → Except Malformation (List (String × Report))
  | [], _ => .ok []
  | line :: rest, number =>
    if Text.isAllBlank line then readRows columns rest (number + 1)
    else
      match readRow columns line number with
      | .error fault => .error fault
      | .ok row =>
        match readRows columns rest (number + 1) with
        | .error fault => .error fault
        | .ok rows => .ok (row :: rows)

/-- The sampling mode that the name of the column of labels says. -/
def modeOfTitle? (title : List Char) : Option Mode :=
  if title = (labelTitle .event).toList then some .event
  else if title = (labelTitle .time).toList then some .time
  else none

def readLines : List (List Char) → Except Malformation Contents
  | [] => .error .missingNames
  | [_] => .error .missingUnits
  | nameLine :: unitLine :: rest =>
    let names := splitFields nameLine
    let units := splitFields unitLine
    if units.length ≠ names.length then .error (.unitCount units.length names.length)
    else
      match modeOfTitle? (names.headD []) with
      | none => .error (.unknownLabel (String.ofList (names.headD [])))
      | some mode =>
        let columns := Column.ofNames none (names.zip units).tail
        match readRows columns rest 3 with
        | .error fault => .error fault
        | .ok rows =>
          .ok ⟨mode, columns.filterMap Column.metric?, columns.filterMap Column.information?, rows⟩

def readContents (text : String) : Except Malformation Contents :=
  readLines (Text.lines text.toList)

/-- What the dump of a path holds, given what its file holds. -/
def ofFile (path : Path) : Except Fault String → Except Error Contents
  | .error fault => .error (.io path fault)
  | .ok text =>
    match readContents text with
    | .error fault => .error (.malformed path fault)
    | .ok contents => .ok contents

def read (path : Path) (disk : Disk) : Except Error Contents := ofFile path (disk.readText path)

end GpuCounters.Dump
