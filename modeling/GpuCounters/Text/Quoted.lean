import GpuCounters.Text.Invisible

/-!
# Quoted text

A text shown between double quotes, with an escape for every character that could be misread: the
quote and the backslash, the usual controls by letter, and all other characters without a picture
of their own by number.
-/

namespace GpuCounters.Text

/-- Which quotes are escaped. -/
inductive QuoteStyle
  /-- The double quote -/
  | double
  /-- The double and the single quote -/
  | both
  deriving DecidableEq, Repr

/-- A backslash and a letter. -/
def escapeLetter? (style : QuoteStyle) (c : Char) : Option Char :=
  if c = '\x00' then some '0'
  else if c = '\t' then some 't'
  else if c = '\r' then some 'r'
  else if c = '\n' then some 'n'
  else if c = '"' ∨ c = '\\' then some c
  else if c = '\'' ∧ style = .both then some c
  else none

def quoteChar (style : QuoteStyle) (c : Char) : List Char :=
  match escapeLetter? style c with
  | some letter => ['\\', letter]
  | none =>
    if isInvisible c then
      '\\' :: 'u' :: '\x7b' :: (Nat.toDigits 16 c.toNat ++ ['\x7d'])
    else [c]

def quote (style : QuoteStyle) (text : String) : String :=
  String.ofList ('"' :: (text.toList.flatMap (quoteChar style) ++ ['"']))

end GpuCounters.Text
