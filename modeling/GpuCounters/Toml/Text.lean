import GpuCounters.Decimal.Integer

/-!
# TOML texts

Every line end is one character here. A text stands between quotes. Between double quotes a
backslash escapes, between single quotes nothing does; threefold quotes hold texts of several
lines, of which a line end right behind the opening quotes is no part.
-/

namespace GpuCounters.Toml

/-- Whether a character may stand in a text of one line. -/
def isPlain (c : Char) : Bool := c = '\t' || (0x20 ≤ c.toNat && c.toNat ≠ 0x7F)

/-- The character that an escape by one letter stands for. -/
def letterEscape? (c : Char) : Option Char :=
  if c = '"' ∨ c = '\\' then some c
  else if c = 'b' then some '\x08'
  else if c = 't' then some '\t'
  else if c = 'n' then some '\n'
  else if c = 'f' then some '\x0c'
  else if c = 'r' then some '\r'
  else none

def hexValue? (digits : List Char) : Option Nat :=
  digits.foldl
    (fun n c ↦ n.bind fun n ↦ (Decimal.digit? 16 c).map fun digit ↦ 16 * n + digit) (some 0)

/-- A character by its number in `width` digits of base sixteen. -/
def takeScalar (width : Nat) (text : List Char) : Option (Char × List Char) :=
  let digits := text.take width
  if digits.length = width then
    (hexValue? digits).bind fun n ↦
      if n < 0xD800 ∨ (0xE000 ≤ n ∧ n < 0x110000) then some (Char.ofNat n, text.drop width)
      else none
  else none

def takeEscape : List Char → Option (Char × List Char)
  | 'u' :: rest => takeScalar 4 rest
  | 'U' :: rest => takeScalar 8 rest
  | c :: rest => (letterEscape? c).map (·, rest)
  | [] => none

/-- A text between double quotes, behind the opening one. -/
def takeBasic : Nat → List Char → Option (List Char × List Char)
  | 0, _ => none
  | _, [] => none
  | _ + 1, '"' :: rest => some ([], rest)
  | fuel + 1, '\\' :: rest => do
    let (c, rest) ← takeEscape rest
    let (cs, rest) ← takeBasic fuel rest
    some (c :: cs, rest)
  | fuel + 1, c :: rest =>
    if isPlain c then (takeBasic fuel rest).map fun (cs, rest) ↦ (c :: cs, rest) else none

/-- A text between single quotes, behind the opening one. -/
def takeLiteral : List Char → Option (List Char × List Char)
  | [] => none
  | c :: rest =>
    if c = '\'' then some ([], rest)
    else if isPlain c then (takeLiteral rest).map fun (cs, rest) ↦ (c :: cs, rest) else none

/-- A text with every line end written as one character. -/
def foldLineEnds : List Char → List Char
  | '\r' :: '\n' :: rest => '\n' :: foldLineEnds rest
  | c :: rest => c :: foldLineEnds rest
  | [] => []

def dropLineEnd : List Char → List Char
  | '\n' :: rest => rest
  | text => text

/-- How many of a character stand in front, up to five. -/
def quoteRun (quote : Char) (text : List Char) : Nat :=
  ((text.take 5).takeWhile (· = quote)).length

/-- A text without the blanks and line ends in front. -/
def dropBlankLines (text : List Char) : List Char :=
  text.dropWhile fun c ↦ c = ' ' || c = '\t' || c = '\n'

/-- The rest of a line that a backslash ended: nothing up to the next character that is no blank,
provided the line holds nothing else. -/
def takeContinuation (text : List Char) : Option (List Char) :=
  match text.dropWhile fun c ↦ c = ' ' || c = '\t' with
  | '\n' :: rest => some (dropBlankLines rest)
  | _ => none

/-- A text of several lines between threefold quotes, behind the opening ones. Up to two quotes may
stand before the closing ones. -/
def takeLines (quote : Char) (escapes : Bool) : Nat → List Char → Option (List Char × List Char)
  | 0, _ => none
  | _, [] => none
  | fuel + 1, c :: rest =>
    if c = quote then
      let run := quoteRun quote (c :: rest)
      if 3 ≤ run then some (List.replicate (run - 3) quote, (c :: rest).drop run)
      else (takeLines quote escapes fuel rest).map fun (cs, rest) ↦ (c :: cs, rest)
    else if c = '\\' ∧ escapes then
      match takeContinuation rest with
      | some rest => takeLines quote escapes fuel rest
      | none => do
        let (c, rest) ← takeEscape rest
        let (cs, rest) ← takeLines quote escapes fuel rest
        some (c :: cs, rest)
    else if c = '\n' ∨ isPlain c then
      (takeLines quote escapes fuel rest).map fun (cs, rest) ↦ (c :: cs, rest)
    else none

/-- A text between quotes of one line. -/
def takeShortText : List Char → Option (List Char × List Char)
  | '"' :: rest => takeBasic (rest.length + 1) rest
  | '\'' :: rest => takeLiteral rest
  | _ => none

def takeText : List Char → Option (List Char × List Char)
  | '"' :: '"' :: '"' :: rest => takeLines '"' true (rest.length + 1) (dropLineEnd rest)
  | '\'' :: '\'' :: '\'' :: rest => takeLines '\'' false (rest.length + 1) (dropLineEnd rest)
  | text => takeShortText text

end GpuCounters.Toml
