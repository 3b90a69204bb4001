import GpuCounters.Decimal.Fixed
import GpuCounters.Summary.Aggregator

/-!
# Summary tables

One row for each operation, one column for each metric, and the average of the metric under the
operation where they meet. A column is as wide as its name has bytes; what is wider stands out.
-/

namespace GpuCounters.Summary

def nameWidth : Nat := 44

def callsWidth : Nat := 6

def title : String := "Device Performance Counter Timing: (Average metric per enqueue)"

/-- A text filled up on the left with blanks to the given number of characters. -/
def padLeft (width : Nat) (text : List Char) : List Char :=
  List.replicate (width - text.length) ' ' ++ text

/-- Whether a number is written without a fraction: it is whole, and its magnitude is less than
`10 ^ 15`. -/
def smallWhole? (x : Binary64) : Option Int :=
  x.toInt?.filter fun n ↦ n.natAbs < Nat.pow 10 15

/-- The text of an average: at most three places, without zeros at the end of a fraction. -/
def averageText (x : Binary64) : List Char :=
  match smallWhole? x with
  | some n => if n < 0 then '-' :: Nat.toDigits 10 n.natAbs else Nat.toDigits 10 n.natAbs
  | none => Decimal.dropTrailing '.' (Decimal.dropTrailing '0' (Decimal.fixed 3 x))

/-- The names of metrics in the order of their first coming under any operation. -/
def columns (aggregator : Aggregator) : List String :=
  (aggregator.operations.toList.flatMap fun (_, operation) ↦
    operation.metrics.toList.map (·.1)).foldl
      (fun names name ↦ if name ∈ names then names else names ++ [name]) []

def cellText (operation : Operation) (metric : String) : List Char :=
  (((operation.record? metric).bind (·.average?)).map averageText).getD []

/-- A text and the mark that ends a column. -/
def closed (text : List Char) : List Char := text ++ [',', ' ']

def headerLine (columns : List String) : List Char :=
  closed (padLeft nameWidth "FunctionName".toList) ++ closed (padLeft callsWidth "Calls".toList) ++
    columns.flatMap fun column ↦ closed column.toList

def operationLine (columns : List String) (name : String) (operation : Operation) : List Char :=
  closed (padLeft nameWidth name.toList) ++
    closed (padLeft callsWidth (Nat.toDigits 10 operation.calls)) ++
    columns.flatMap fun column ↦
      closed (padLeft column.utf8ByteSize (cellText operation column))

/-- The lines of a table behind its title. -/
def tableLines (aggregator : Aggregator) : List (List Char) :=
  headerLine (columns aggregator) ::
    aggregator.operations.toList.map fun (name, operation) ↦
      operationLine (columns aggregator) name operation

/-- The table of an aggregator that has seen an operation. -/
def table? (aggregator : Aggregator) : Option String :=
  if aggregator.size = 0 then none
  else
    some (String.ofList
      ('\n' :: (title.toList ++ '\n' :: (tableLines aggregator).flatMap (· ++ ['\n']))))

/-- There is a table once there is an operation. -/
theorem table?_eq_none_iff (aggregator : Aggregator) :
    table? aggregator = none ↔ aggregator.size = 0 := by
  unfold table?
  split <;> simp_all

end GpuCounters.Summary
