import GpuCounters.Json.Document

/-!
# Reading JSON

A text is read by descent. Each step answers with what it read and the rest of the text. The depth
of the descent is bounded by the length of the text, since every level takes a character.
-/

namespace GpuCounters.Json

/-- The characters that may stand between the parts of a document. -/
def isSpace (c : Char) : Bool := c = ' ' || c = '\n' || c = '\t' || c = '\r'

/-- The text from its first part on. -/
def skip (text : List Char) : List Char := text.dropWhile isSpace

def expect : List Char → List Char → Option (List Char)
  | [], text => some text
  | c :: word, d :: text => if c = d then expect word text else none
  | _ :: _, [] => none

/-! ## Numbers -/

def takeDigits (text : List Char) : List Char × List Char :=
  (text.takeWhile Char.isDigit, text.dropWhile Char.isDigit)

/-- A point and the digits behind it, if there is a point. -/
def takeFraction : List Char → Option (List Char × List Char)
  | '.' :: text =>
    let (digits, rest) := takeDigits text
    if digits = [] then none else some ('.' :: digits, rest)
  | text => some ([], text)

def takeExponent : List Char → Option (List Char × List Char)
  | c :: text =>
    if c = 'e' ∨ c = 'E' then
      let (sign, behind) := match text with
        | '+' :: behind => (['+'], behind)
        | '-' :: behind => (['-'], behind)
        | _ => ([], text)
      let (digits, rest) := takeDigits behind
      if digits = [] then none else some (c :: (sign ++ digits), rest)
    else some ([], c :: text)
  | [] => some ([], [])

/-- A number: a whole number without a superfluous zero, a fraction and an exponent. -/
def takeNumber (text : List Char) : Option (List Char × List Char) := do
  let (sign, unsigned) := match text with
    | '-' :: rest => (['-'], rest)
    | _ => ([], text)
  let (whole, rest) ← match unsigned with
    | '0' :: c :: rest => if c.isDigit then none else some (['0'], c :: rest)
    | ['0'] => some (['0'], [])
    | _ => some (takeDigits unsigned)
  if whole = [] then none
  else
    let (fraction, rest) ← takeFraction rest
    let (exponent, rest) ← takeExponent rest
    some (sign ++ whole ++ fraction ++ exponent, rest)

/-! ## Texts -/

def hexDigit? (c : Char) : Option Nat :=
  if c.isDigit then some (c.toNat - '0'.toNat)
  else if 'a' ≤ c ∧ c ≤ 'f' then some (c.toNat - 'a'.toNat + 10)
  else if 'A' ≤ c ∧ c ≤ 'F' then some (c.toNat - 'A'.toNat + 10)
  else none

/-- Four digits of base sixteen. -/
def takeUnit : List Char → Option (Nat × List Char)
  | a :: b :: c :: d :: rest => do
    let a ← hexDigit? a
    let b ← hexDigit? b
    let c ← hexDigit? c
    let d ← hexDigit? d
    some (((a * 16 + b) * 16 + c) * 16 + d, rest)
  | _ => none

/-- The character that an escape by one letter stands for. -/
def letterEscape? (c : Char) : Option Char :=
  if c = '"' ∨ c = '\\' ∨ c = '/' then some c
  else if c = 'b' then some '\x08'
  else if c = 'f' then some '\x0c'
  else if c = 'n' then some '\n'
  else if c = 'r' then some '\r'
  else if c = 't' then some '\t'
  else none

inductive Piece
  /-- A character -/
  | char (c : Char)
  /-- A unit that an escape by number stands for -/
  | unit (n : Nat)
  deriving DecidableEq, Repr

/-- The characters of a text; `none` where a surrogate stands without its partner. -/
def joinPieces : List Piece → Option (List Char)
  | [] => some []
  | .char c :: rest => (joinPieces rest).map (c :: ·)
  | .unit high :: rest =>
    if 0xD800 ≤ high ∧ high < 0xDC00 then
      match rest with
      | .unit low :: rest =>
        if 0xDC00 ≤ low ∧ low < 0xE000 then
          (joinPieces rest).map
            (Char.ofNat (0x10000 + (high - 0xD800) * 0x400 + (low - 0xDC00)) :: ·)
        else none
      | _ => none
    else if 0xDC00 ≤ high ∧ high < 0xE000 then none
    else (joinPieces rest).map (Char.ofNat high :: ·)

/-- The pieces of a text behind its opening quote, at most as many as the fuel says. -/
def takePieces : Nat → List Char → Option (List Piece × List Char)
  | 0, _ => none
  | _ + 1, [] => none
  | _ + 1, '"' :: rest => some ([], rest)
  | fuel + 1, '\\' :: 'u' :: rest => do
    let (unit, rest) ← takeUnit rest
    let (pieces, rest) ← takePieces fuel rest
    some (.unit unit :: pieces, rest)
  | _ + 1, ['\\'] => none
  | fuel + 1, '\\' :: letter :: rest => do
    let c ← letterEscape? letter
    let (pieces, rest) ← takePieces fuel rest
    some (.char c :: pieces, rest)
  | fuel + 1, c :: rest =>
    if c.toNat < 0x20 then none
    else do
      let (pieces, rest) ← takePieces fuel rest
      some (.char c :: pieces, rest)

/-- A text behind its opening quote. -/
def takeText (text : List Char) : Option (Text × List Char) := do
  let (pieces, rest) ← takePieces (text.length + 1) text
  some ((joinPieces pieces).map String.ofList, rest)

/-! ## Documents -/

mutual

def takeDocument : Nat → List Char → Option (Document × List Char)
  | 0, _ => none
  | fuel + 1, text =>
    match skip text with
    | [] => none
    | 'n' :: rest => (expect "ull".toList rest).map (.null, ·)
    | 't' :: rest => (expect "rue".toList rest).map (.bool true, ·)
    | 'f' :: rest => (expect "alse".toList rest).map (.bool false, ·)
    | '"' :: rest => (takeText rest).map fun (value, rest) ↦ (.text value, rest)
    | '[' :: rest =>
      match skip rest with
      | ']' :: rest => some (.array [], rest)
      | rest => (takeElements fuel rest).map fun (elements, rest) ↦ (.array elements, rest)
    | '\x7b' :: rest =>
      match skip rest with
      | '\x7d' :: rest => some (.object [], rest)
      | rest => (takeMembers fuel rest).map fun (members, rest) ↦ (.object members, rest)
    | text => (takeNumber text).map fun (literal, rest) ↦ (.number literal, rest)

def takeElements : Nat → List Char → Option (List Document × List Char)
  | 0, _ => none
  | fuel + 1, text => do
    let (element, rest) ← takeDocument fuel text
    match skip rest with
    | ']' :: rest => some ([element], rest)
    | ',' :: rest =>
      let (elements, rest) ← takeElements fuel rest
      some (element :: elements, rest)
    | _ => none

/-- The members of an object up to its end, at least one. -/
def takeMembers : Nat → List Char → Option (List (Text × Document) × List Char)
  | 0, _ => none
  | fuel + 1, text =>
    match skip text with
    | '"' :: rest => do
      let (key, rest) ← takeText rest
      match skip rest with
      | ':' :: rest =>
        let (value, rest) ← takeDocument fuel rest
        match skip rest with
        | '\x7d' :: rest => some ([(key, value)], rest)
        | ',' :: rest =>
          let (members, rest) ← takeMembers fuel rest
          some ((key, value) :: members, rest)
        | _ => none
      | _ => none
    | _ => none

end

/-- The document that a text holds, with nothing but blanks around it. -/
def Document.ofText? (text : List Char) : Option Document := do
  let (document, rest) ← takeDocument (2 * text.length + 1) text
  if skip rest = [] then some document else none

end GpuCounters.Json
