/-!
# Arguments

A command is named by the first argument that is no option. Options may stand anywhere behind the
command they belong to, the two that every command has also before it, and behind two hyphens
nothing is an option.
-/

namespace GpuCounters.CommandLine

/-- What is asked for. -/
inductive Command
  /-- Sum up a dump, as a table or as JSON -/
  | report (dump : String) (json : Bool)
  /-- Express a property list as a bit field -/
  | translate (properties : List String)
  /-- Print the settings of a file -/
  | config (file : Option String)
  deriving DecidableEq, Repr

/-- A command and the options that every command has. -/
structure Invocation where
  verbose : Bool
  /-- Whether the counts of the engine are printed behind what the command prints -/
  metrics : Bool
  command : Command
  deriving DecidableEq, Repr

/-- The options that every command has, as far as they were given. -/
structure Common where
  verbose : Bool := false
  metrics : Bool := false
  deriving DecidableEq, Repr

inductive Flag
  | verbose
  | metrics
  | json
  | file
  deriving DecidableEq, Repr

inductive Name
  | report
  | translate
  | config
  deriving DecidableEq, Repr

def Name.ofText? : String → Option Name
  | "report" => some .report
  | "translate" => some .translate
  | "config" => some .config
  | _ => none

/-- The option of a long name, of those that a command has. -/
def longFlag? (name : Option Name) (text : String) : Option Flag :=
  match text with
  | "verbose" => some .verbose
  | "metrics" => some .metrics
  | "json" => if name = some .report then some .json else none
  | "file" => if name = some .config then some .file else none
  | _ => none

/-- The option of a letter, of those that a command has. -/
def letterFlag? (name : Option Name) (c : Char) : Option Flag :=
  if c = 'v' then some .verbose
  else if c = 'f' ∧ name = some .config then some .file
  else none

/-- What was given to a command so far. -/
structure Given where
  common : Common := {}
  json : Bool := false
  file : Option String := none
  positional : List String := []

namespace Given

/-- An option that is given without a value, and only once. -/
def setFlag (given : Given) : Flag → Option Given
  | .verbose =>
    if given.common.verbose then none
    else some { given with common := { given.common with verbose := true } }
  | .metrics =>
    if given.common.metrics then none
    else some { given with common := { given.common with metrics := true } }
  | .json => if given.json then none else some { given with json := true }
  | .file => none

/-- The value of an option that takes one; a file's name is not empty, and given only once. -/
def setValue (given : Given) (flag : Flag) (value : String) : Option Given :=
  if flag = .file ∧ value ≠ "" ∧ given.file = none then some { given with file := some value }
  else none

/-- An argument that is no option. -/
def addPositional (given : Given) (value : String) : Given :=
  { given with positional := given.positional ++ [value] }

end Given

def isOption (argument : List Char) : Bool :=
  match argument with
  | '-' :: _ :: _ => true
  | _ => false

/-- The value of an option, which is the next argument if that is no option. -/
def nextValue : List String → Option (String × List String)
  | [] => none
  | value :: rest => if isOption value.toList then none else some (value, rest)

def readLong (name : Option Name) (given : Given) (body : List Char) (rest : List String) :
    Option (Given × List String) := do
  let word := String.ofList (body.takeWhile (· ≠ '='))
  let flag ← longFlag? name word
  match body.dropWhile (· ≠ '=') with
  | _ :: value => return (← given.setValue flag (String.ofList value), rest)
  | [] =>
    if flag = .file then
      let (value, rest) ← nextValue rest
      return (← given.setValue flag value, rest)
    else return (← given.setFlag flag, rest)

/-- Read options by their letters. An option that takes a value takes the rest of the argument. -/
def readLetters (name : Option Name) (given : Given) :
    List Char → List String → Option (Given × List String)
  | [], rest => some (given, rest)
  | c :: letters, rest => do
    let flag ← letterFlag? name c
    if flag = .file then
      match letters with
      | [] =>
        let (value, rest) ← nextValue rest
        return (← given.setValue flag value, rest)
      | '=' :: value => return (← given.setValue flag (String.ofList value), rest)
      | value => return (← given.setValue flag (String.ofList value), rest)
    else readLetters name (← given.setFlag flag) letters rest

def readOption (name : Option Name) (given : Given) (argument : List Char) (rest : List String) :
    Option (Given × List String) :=
  match argument with
  | '-' :: '-' :: body => readLong name given body rest
  | '-' :: letters => readLetters name given letters rest
  | _ => none

def readGiven (name : Name) : Nat → Given → List String → Option Given
  | _, given, [] => some given
  | 0, _, _ => none
  | fuel + 1, given, argument :: rest =>
    if argument = "--" then some (rest.foldl Given.addPositional given)
    else if isOption argument.toList then do
      let (given, rest) ← readOption (some name) given argument.toList rest
      readGiven name fuel given rest
    else readGiven name fuel (given.addPositional argument) rest

/-- The command of what was given; `named?` is the file that the environment names. -/
def Given.toCommand? (given : Given) (name : Name) (named? : Option String) : Option Command :=
  match name with
  | .report =>
    match given.positional with
    | [dump] => if dump = "" then none else some (.report dump given.json)
    | _ => none
  | .translate => some (.translate given.positional)
  | .config =>
    if given.positional = [] then
      match given.file with
      | some file => some (.config (some file))
      | none => if named? = some "" then none else some (.config named?)
    else none

/-- Read the options before a command, and then the command. -/
def readInvocation (named? : Option String) :
    Nat → Given → List String → Option Invocation
  | 0, _, _ => none
  | _, _, [] => none
  | fuel + 1, before, argument :: rest =>
    if isOption argument.toList then do
      let (before, rest) ← readOption none before argument.toList rest
      readInvocation named? fuel before rest
    else do
      let name ← Name.ofText? argument
      let given ← readGiven name (rest.length + 1) {} rest
      let command ← given.toCommand? name named?
      return ⟨before.common.verbose || given.common.verbose,
        before.common.metrics || given.common.metrics, command⟩

/-- What arguments ask for, if they can be understood. -/
def parse? (arguments : List String) (named? : Option String) : Option Invocation :=
  readInvocation named? (arguments.length + 1) {} arguments

end GpuCounters.CommandLine
