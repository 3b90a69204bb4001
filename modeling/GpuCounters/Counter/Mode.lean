/-!
# Sampling modes

Counters are read either once for each completed unit of work, or from a stream that a timer
drives.
-/

namespace GpuCounters

/-- How counters are collected. -/
inductive Mode
  /-- One report for each completed unit of work -/
  | event
  /-- Reports of a timer, drained from a stream -/
  | time
  deriving DecidableEq, Repr, Inhabited

namespace Mode

def name : Mode → String
  | .event => "event-based"
  | .time => "time-based"

/-- The short name of a mode, which also labels the rows of a stream. -/
def tag : Mode → String
  | .event => "EBS"
  | .time => "TBS"

/-- A text with the ASCII letters in lower case. The names of modes hold no letter that another
script's letters fold to, so this decides equality with them up to case. -/
def lowercase (text : String) : String := String.ofList (text.toList.map Char.toLower)

/-- The mode that a text names by a full, a plain or a short name, in any letter case. -/
def ofText? (text : String) : Option Mode :=
  match lowercase text with
  | "event-based" | "event" | "ebs" => some .event
  | "time-based" | "time" | "tbs" => some .time
  | _ => none

def refusal (text : String) : String := "Invalid sampling mode: " ++ text

end Mode

end GpuCounters
