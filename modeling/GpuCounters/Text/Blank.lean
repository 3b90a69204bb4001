/-!
# White space

Unicode's `White_Space` property, and texts cut free of it at both ends.
-/

namespace GpuCounters.Text

/-- The characters with Unicode's `White_Space` property. -/
def isBlank (c : Char) : Bool :=
  let n := c.toNat
  (9 ≤ n && n ≤ 13) || n = 32 || n = 0x85 || n = 0xA0 || n = 0x1680 ||
    (0x2000 ≤ n && n ≤ 0x200A) || n = 0x2028 || n = 0x2029 || n = 0x202F || n = 0x205F ||
    n = 0x3000

/-- A text without the white space at either end. -/
def trim (text : List Char) : List Char :=
  ((text.dropWhile isBlank).reverse.dropWhile isBlank).reverse

def trimmed (text : String) : String := String.ofList (trim text.toList)

@[simp] theorem trim_nil : trim [] = [] := rfl

def isAllBlank (text : List Char) : Bool := text.all isBlank

end GpuCounters.Text
